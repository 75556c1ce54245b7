import Databus.Middleware.Endpoints
import Databus.Middleware.Guards

/-!
The calls on a context, each under the name that its failures are reported by.
-/
namespace Databus.Middleware.System

variable {K : Type}

/-! ### Nodes -/

def createNode (s : System K) (ctx : ContextId) (name : String) :
    System K × Except Failure (Handle .node) :=
  s.perform ctx "create_node" (Site.createNode · name)

def destroyNode (s : System K) (ctx : ContextId) (h : Option (Handle .node)) :
    System K × Except Failure Unit :=
  s.perform ctx "destroy_node" (Site.destroyNode · h)

def graphGuard (s : System K) (ctx : ContextId) (node : Handle .node) :
    System K × Except Failure (Handle .guardCondition) :=
  s.perform ctx "node_graph_guard_condition" (Site.graphGuard · node)

def topicNamesAndTypes (s : System K) (ctx : ContextId) (node : Handle .node) :
    System K × Except Failure (List (String × List String)) :=
  s.perform ctx "get_topic_names_and_types" (Site.topicNamesAndTypes · node)

def countPublishers (s : System K) (ctx : ContextId) (node : Handle .node) (topic : String) :
    System K × Except Failure Nat :=
  s.perform ctx "count_publishers" (Site.countEndpoints .publication topic · node)

def countSubscribers (s : System K) (ctx : ContextId) (node : Handle .node) (topic : String) :
    System K × Except Failure Nat :=
  s.perform ctx "count_subscribers" (Site.countEndpoints .subscription topic · node)

/-! ### Guard conditions -/

def createGuard (s : System K) (ctx : ContextId) :
    System K × Except Failure (Handle .guardCondition) :=
  s.perform ctx "create_guard_condition" Site.createGuard

def triggerGuard (s : System K) (ctx : ContextId) (h : Handle .guardCondition) :
    System K × Except Failure Unit :=
  s.perform ctx "trigger_guard_condition" (Site.triggerGuard · h)

def destroyGuard (s : System K) (ctx : ContextId) (h : Option (Handle .guardCondition)) :
    System K × Except Failure Unit :=
  s.perform ctx "destroy_guard_condition" (Site.destroyGuard · h)

/-! ### Publishers and subscriptions -/

def destroyPublisher (s : System K) (ctx : ContextId) (h : Option (Handle .publisher)) :
    System K × Except Failure Unit :=
  s.perform ctx "destroy_publisher" (Site.destroyPublisher · h)

def destroySubscription (s : System K) (ctx : ContextId) (h : Option (Handle .subscription)) :
    System K × Except Failure Unit :=
  s.perform ctx "destroy_subscription" (Site.destroySubscription · h)

def publisherGid (s : System K) (ctx : ContextId) (h : Handle .publisher) :
    System K × Except Failure Gid :=
  s.perform ctx "publisher_gid" (Site.publisherGid · h)

def compareGids (s : System K) (ctx : ContextId) (g g' : Gid) : System K × Except Failure Bool :=
  s.perform ctx "compare_gids_equal" (Site.compareGids g g')

variable [Catalog K]

def createPublisher (s : System K) (ctx : ContextId) (node : Handle .node) (ts : TypeSupport K)
    (topic : String) : System K × Except Failure (Handle .publisher) :=
  s.perform ctx "create_publisher" (Site.createPublisher · node ts topic)

def createSubscription (s : System K) (ctx : ContextId) (node : Handle .node) (ts : TypeSupport K)
    (topic : String) (queueSize : Nat) : System K × Except Failure (Handle .subscription) :=
  s.perform ctx "create_subscription" (Site.createSubscription · node ts topic queueSize)

variable [DecidableEq K]

def publish (s : System K) (ctx : ContextId) (h : Handle .publisher) (m : Message K) :
    System K × Except Failure Unit :=
  s.perform ctx "publish" (Site.publish · h m)

def take (s : System K) (ctx : ContextId) (h : Handle .subscription) (slot : Option K) :
    System K × Except Failure (Option (Message K)) :=
  s.perform ctx "take" (Site.take · h slot)

end Databus.Middleware.System
