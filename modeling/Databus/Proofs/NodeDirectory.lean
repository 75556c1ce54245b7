import Databus.Proofs.ContextCalls

/-! The directory of a system: which nodes are live in which context, and what endpoints they have. Each step changes
it at one place, whatever the tables behind it do with their slots. -/
namespace Databus.Middleware

variable {K : Type}

structure Directory (K : Type) where
  domain : ContextId → Option DomainId
  node : ContextId → Handle .node → Option NodeRecord
  entry : ContextId → EndpointRef → Option (EndpointEntry K)

namespace Directory

def of (t : Table ContextId (Context K)) : Directory K where
  domain ctx := (t.get? ctx).map (·.settings.domain)
  node ctx h := (t.get? ctx).bind (·.nodes.find? h)
  entry ctx ref := (t.get? ctx).bind (·.findEntry ref)

def count (d : Directory K) (ctx : ContextId) (h : Handle .node) (f : Nat → Nat) : Directory K :=
  { d with node := fun ctx' h' => if ctx' = ctx ∧ h' = h then
      (d.node ctx h).map fun n => { n with endpoints := f n.endpoints } else d.node ctx' h' }

def setEntry (d : Directory K) (ctx : ContextId) (ref : EndpointRef) (r : Option (EndpointEntry K)) : Directory K :=
  { d with entry := fun ctx' ref' => if ctx' = ctx ∧ ref' = ref then r else d.entry ctx' ref' }

def setNode (d : Directory K) (ctx : ContextId) (h : Handle .node) (n : Option NodeRecord) :
    Directory K :=
  { d with node := fun ctx' h' => if ctx' = ctx ∧ h' = h then n else d.node ctx' h' }

def enter (d : Directory K) (ctx : ContextId) (ref : EndpointRef) (r : EndpointEntry K) : Directory K :=
  (d.setEntry ctx ref (some r)).count ctx r.node (· + 1)

def giveUp (d : Directory K) (ctx : ContextId) (ref : EndpointRef) (r : EndpointEntry K) : Directory K :=
  (d.setEntry ctx ref none).count ctx r.node (· - 1)

def setDomain (d : Directory K) (ctx : ContextId) (domain : DomainId) : Directory K :=
  { d with domain := fun ctx' => if ctx' = ctx then some domain else d.domain ctx' }

def shut (d : Directory K) (ctx : ContextId) : Directory K where
  domain ctx' := if ctx' = ctx then none else d.domain ctx'
  node ctx' h := if ctx' = ctx then none else d.node ctx' h
  entry ctx' ref := if ctx' = ctx then none else d.entry ctx' ref

variable {t : Table ContextId (Context K)} {ctx : ContextId} {c c' : Context K}

theorem sameDirectory {d d' : Directory K} (domain : ∀ ctx, d'.domain ctx = d.domain ctx)
    (node : ∀ ctx h, d'.node ctx h = d.node ctx h)
    (entry : ∀ ctx ref, d'.entry ctx ref = d.entry ctx ref) : d' = d := by
  obtain ⟨_, _, _⟩ := d
  obtain ⟨_, _, _⟩ := d'
  simp only [mk.injEq]
  exact ⟨funext domain, funext fun ctx => funext (node ctx), funext fun ctx => funext (entry ctx)⟩

theorem countNode {d : Directory K} {ctx' : ContextId} {k k' : Handle .node} {f : Nat → Nat}
    {n' : NodeRecord} : (d.count ctx k f).node ctx' k' = some n' ↔ ∃ n, d.node ctx' k' = some n ∧
      n' = if ctx' = ctx ∧ k' = k then { n with endpoints := f n.endpoints } else n := by
  simp only [count]
  split
  · rename_i own
    rw [← own.1, ← own.2, Option.map_eq_some_iff]
    exact exists_congr fun n => and_congr_right fun _ => eq_comm
  · exact ⟨fun found => ⟨n', found, rfl⟩, fun ⟨n, found, same⟩ => same ▸ found⟩

theorem countStays {d : Directory K} (ctx : ContextId) (k : Handle .node) (f : Nat → Nat)
    {ctx' : ContextId} {k' : Handle .node} {n : NodeRecord} (found : d.node ctx' k' = some n) :
    ∃ n', (d.count ctx k f).node ctx' k' = some n' ∧ n'.participant = n.participant :=
  ⟨_, countNode.2 ⟨n, found, rfl⟩, by split <;> rfl⟩

theorem enterNode {d : Directory K} {ctx' : ContextId} {ref : EndpointRef} {r : EndpointEntry K} {k : Handle .node}
    {n : NodeRecord} (found : d.node ctx' k = some n) :
    ∃ n', (d.enter ctx ref r).node ctx' k = some n' ∧ n'.participant = n.participant :=
  countStays (d := d.setEntry ctx ref (some r)) ctx r.node (· + 1) found

theorem giveUpNode {d : Directory K} {ctx' : ContextId} {ref : EndpointRef} {r : EndpointEntry K} {k : Handle .node}
    {n : NodeRecord} (found : d.node ctx' k = some n) :
    ∃ n', (d.giveUp ctx ref r).node ctx' k = some n' ∧ n'.participant = n.participant :=
  countStays (d := d.setEntry ctx ref none) ctx r.node (· - 1) found

theorem enterEntry {d : Directory K} {ctx' : ContextId} {ref ref' : EndpointRef} {r r' : EndpointEntry K}
    (vacant : d.entry ctx ref = none) : (d.enter ctx ref r).entry ctx' ref' = some r' ↔
      (ctx' = ctx ∧ ref' = ref ∧ r' = r) ∨ d.entry ctx' ref' = some r' := by
  simp only [enter, count, setEntry]
  split
  · rename_i own
    rw [own.1, own.2, vacant]
    simp [eq_comm]
  · rename_i other
    exact ⟨.inr, fun either => either.resolve_left fun own => other ⟨own.1, own.2.1⟩⟩

theorem giveUpEntry {d : Directory K} {ctx' : ContextId} {ref ref' : EndpointRef} {r r' : EndpointEntry K} :
    (d.giveUp ctx ref r).entry ctx' ref' = some r' ↔
      ¬ (ctx' = ctx ∧ ref' = ref) ∧ d.entry ctx' ref' = some r' := by
  simp only [giveUp, count, setEntry]
  split
  · rename_i own
    exact ⟨fun none => (nomatch none), fun held => absurd own held.1⟩
  · rename_i other
    exact ⟨fun held => ⟨other, held⟩, And.right⟩

theorem setNodeNode {d : Directory K} {ctx' : ContextId} {k k' : Handle .node} {n n' : NodeRecord}
    (vacant : d.node ctx k = none) : (d.setNode ctx k (some n)).node ctx' k' = some n' ↔
      (ctx' = ctx ∧ k' = k ∧ n' = n) ∨ d.node ctx' k' = some n' := by
  simp only [setNode]
  split
  · rename_i own
    rw [own.1, own.2, vacant]
    simp [eq_comm]
  · rename_i other
    exact ⟨.inr, fun either => either.resolve_left fun own => other ⟨own.1, own.2.1⟩⟩

theorem clearNode {d : Directory K} {ctx' : ContextId} {k k' : Handle .node} {n : NodeRecord} :
    (d.setNode ctx k none).node ctx' k' = some n ↔
      ¬ (ctx' = ctx ∧ k' = k) ∧ d.node ctx' k' = some n := by
  simp only [setNode]
  split
  · rename_i own
    exact ⟨fun none => (nomatch none), fun held => absurd own held.1⟩
  · rename_i other
    exact ⟨fun held => ⟨other, held⟩, And.right⟩

theorem shutNode {d : Directory K} {ctx' : ContextId} {k : Handle .node} {n : NodeRecord} :
    (d.shut ctx).node ctx' k = some n ↔ ctx' ≠ ctx ∧ d.node ctx' k = some n := by
  simp only [shut]
  split
  · rename_i own
    exact ⟨fun none => (nomatch none), fun held => absurd own held.1⟩
  · rename_i other
    exact ⟨fun held => ⟨other, held⟩, And.right⟩

theorem shutEntry {d : Directory K} {ctx' : ContextId} {ref : EndpointRef} {r : EndpointEntry K} :
    (d.shut ctx).entry ctx' ref = some r ↔ ctx' ≠ ctx ∧ d.entry ctx' ref = some r := by
  simp only [shut]
  split
  · rename_i own
    exact ⟨fun none => (nomatch none), fun held => absurd own held.1⟩
  · rename_i other
    exact ⟨fun held => ⟨other, held⟩, And.right⟩

theorem ofInsert (t : Table ContextId (Context K)) (ctx : ContextId) (c : Context K) :
    (∀ ctx', (of (t.insert ctx c)).domain ctx' =
        if ctx' = ctx then some c.settings.domain else (of t).domain ctx') ∧
      (∀ ctx' h, (of (t.insert ctx c)).node ctx' h =
        if ctx' = ctx then c.nodes.find? h else (of t).node ctx' h) ∧
      ∀ ctx' ref, (of (t.insert ctx c)).entry ctx' ref =
        if ctx' = ctx then c.findEntry ref else (of t).entry ctx' ref := by
  refine ⟨fun ctx' => ?_, fun ctx' h => ?_, fun ctx' ref => ?_⟩ <;>
    simp only [of, Table.getInsert] <;> split <;> rfl

theorem ofKnown (known : t.get? ctx = some c) : (of t).domain ctx = some c.settings.domain ∧
    (∀ h, (of t).node ctx h = c.nodes.find? h) ∧ ∀ ref, (of t).entry ctx ref = c.findEntry ref := by
  refine ⟨?_, fun h => ?_, fun ref => ?_⟩ <;> simp only [of, known] <;> rfl

theorem ofSubscription (known : t.get? ctx = some c) {h : Handle .subscription} {r : SubscriptionRecord K}
    (found : c.subscriptions.find? h = some r) : (of t).entry ctx (.subscription h) = some r.entry :=
  ((ofKnown known).2.2 _).trans (congrArg (Option.map SubscriptionRecord.entry) found)

theorem ofChanged {d : Directory K} (known : t.get? ctx = some c) (settings : c'.settings = c.settings)
    (domain : d.domain = (of t).domain)
    (node : ∀ ctx' h, d.node ctx' h = if ctx' = ctx then c'.nodes.find? h else (of t).node ctx' h)
    (entry : ∀ ctx' ref, d.entry ctx' ref =
      if ctx' = ctx then c'.findEntry ref else (of t).entry ctx' ref) : of (t.insert ctx c') = d := by
  obtain ⟨domain', node', entry'⟩ := ofInsert t ctx c'
  refine sameDirectory (fun ctx' => ?_) (fun ctx' h => ?_) fun ctx' ref => ?_
  · rw [domain', domain, settings]
    split
    · rename_i own
      rw [own, (ofKnown known).1]
    · rfl
  · rw [node', node]
  · rw [entry', entry]

theorem ofSame (known : t.get? ctx = some c) (same : c.SameTables c') :
    of (t.insert ctx c') = of t := by
  obtain ⟨_, node, entry⟩ := ofKnown known
  refine ofChanged known same.settings rfl (fun ctx' h => ?_) fun ctx' ref => ?_
  · rw [same.nodes]
    split
    · rename_i own
      rw [own, node]
    · rfl
  · rw [same.entries]
    split
    · rename_i own
      rw [own, entry]
    · rfl

theorem ofEnters {ref : EndpointRef} {r : EndpointEntry K} (known : t.get? ctx = some c) (enters : c.Enters ref r c') :
    of (t.insert ctx c') = (of t).enter ctx ref r := by
  obtain ⟨_, node, entry⟩ := ofKnown known
  refine ofChanged known enters.settings rfl (fun ctx' h => ?_) fun ctx' ref' => ?_
  · simp only [enter, setEntry, count, enters.nodes]
    grind
  · simp only [enter, setEntry, count, enters.entries]
    grind

theorem ofGivesUp {ref : EndpointRef} {r : EndpointEntry K} (known : t.get? ctx = some c)
    (givesUp : c.GivesUp ref r c') : of (t.insert ctx c') = (of t).giveUp ctx ref r := by
  obtain ⟨_, node, entry⟩ := ofKnown known
  refine ofChanged known givesUp.settings rfl (fun ctx' h => ?_) fun ctx' ref' => ?_
  · simp only [giveUp, setEntry, count, givesUp.nodes]
    grind
  · simp only [giveUp, setEntry, count, givesUp.entries]
    grind

theorem ofAddsNode {h : Handle .node} {n : NodeRecord} (known : t.get? ctx = some c)
    (addsNode : c.AddsNode h n c') : of (t.insert ctx c') = (of t).setNode ctx h (some n) := by
  obtain ⟨_, node, entry⟩ := ofKnown known
  refine ofChanged known addsNode.settings rfl (fun ctx' h' => ?_) fun ctx' ref => ?_
  · simp only [setNode, addsNode.nodes]
    grind
  · simp only [setNode, addsNode.entries]
    grind

theorem ofRemovesNode {h : Handle .node} {n : NodeRecord} (known : t.get? ctx = some c)
    (removesNode : c.RemovesNode h n c') : of (t.insert ctx c') = (of t).setNode ctx h none := by
  obtain ⟨_, node, entry⟩ := ofKnown known
  refine ofChanged known removesNode.settings rfl (fun ctx' h' => ?_) fun ctx' ref => ?_
  · simp only [setNode, removesNode.nodes]
    grind
  · simp only [setNode, removesNode.entries]
    grind

theorem ofOpened (new : t.get? ctx = none) (bare : ∀ h, c.nodes.find? h = none)
    (unstaked : ∀ ref, c.findEntry ref = none) :
    of (t.insert ctx c) = (of t).setDomain ctx c.settings.domain := by
  obtain ⟨domain, node, entry⟩ := ofInsert t ctx c
  refine sameDirectory (fun ctx' => domain ctx') (fun ctx' h => ?_) (fun ctx' ref => ?_)
  · rw [node, bare]
    simp only [setDomain, of]
    grind
  · rw [entry, unstaked]
    simp only [setDomain, of]
    grind

theorem ofErase (t : Table ContextId (Context K)) (ctx : ContextId) :
    of (t.erase ctx) = (of t).shut ctx := by
  refine sameDirectory (fun ctx' => ?_) (fun ctx' h => ?_) (fun ctx' ref => ?_) <;>
    simp only [of, shut, Table.getErase] <;> split <;> rfl

end Directory
end Databus.Middleware
