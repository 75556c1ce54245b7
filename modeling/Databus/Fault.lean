/-!
Why the bus refuses a request, and the wording of each refusal.
-/
namespace Databus

abbrev DomainId := Nat

def maxDomainId : DomainId := 232

inductive Fault
  | invalidDomain (id : DomainId)
  | badParameter (detail : String)
  | typeNotRegistered (name : String)
  | typeMismatch (topic existing requested : String)
  | preconditionNotMet (detail : String)
  | alreadyDeleted
  | outOfResources (detail : String)
  | condition (detail : String)
  | timeout
  deriving DecidableEq, Repr

namespace Fault

def message : Fault → String
  | invalidDomain id => s!"Invalid domain_id: {id} (must be 0-{maxDomainId})"
  | badParameter detail => s!"Bad parameter: {detail}"
  | typeNotRegistered name => s!"Type not registered: {name}"
  | typeMismatch topic existing requested =>
    s!"Topic '{topic}' already bound to type '{existing}' (requested '{requested}')"
  | preconditionNotMet detail => s!"Precondition not met: {detail}"
  | alreadyDeleted => "Entity already deleted"
  | outOfResources detail => s!"Out of resources: {detail}"
  | condition detail => s!"Condition error: {detail}"
  | timeout => "Timeout"

def emptyTypeName : Fault := badParameter "type name must not be empty"
def emptyTopicName : Fault := badParameter "topic name must not be empty"
def zeroPayloadLimit : Fault := badParameter "max_payload_size must be > 0"

def payloadTooLarge (size limit : Nat) : Fault :=
  outOfResources s!"payload of {size} bytes exceeds max_payload_size {limit}"

def truncatedAt (offset : Nat) : Fault :=
  badParameter s!"builtin endpoint data truncated at offset {offset}"

def notText : Fault := badParameter "builtin endpoint string is not UTF-8"

def trailing (count : Nat) : Fault :=
  badParameter s!"trailing {count} bytes in builtin endpoint data"

def alreadyAttached (condition : Nat) : Fault :=
  Fault.condition s!"condition {condition} already attached"

def notAttached (condition : Nat) : Fault :=
  Fault.condition s!"condition {condition} not attached"

end Fault
end Databus
