import Databus.Proofs.RefusedCalls

/-! What a participant knows: the types registered with it and the topics bound there. Registering and binding are the
only requests that add to it, and nothing takes from it while the participant is there. -/
namespace Databus

@[ext]
structure Bindings where
  knows : String → Bool
  bound : String → Option String

namespace Bindings

def empty : Bindings := ⟨fun _ => false, fun _ => none⟩

def of (b : Bus) (p : InstanceHandle) : Bindings where
  knows type := b.isTypeRegistered p type
  bound name := (b.findTopic p name).map (·.type)

def register (d : Bindings) (type : String) : Bindings := { d with knows := fun type' => d.knows type' || type' = type }

def bind (d : Bindings) (name type : String) : Bindings :=
  { d with bound := fun name' => if name' = name then some type else d.bound name' }

def fault? (d : Bindings) (name type : String) : Option Fault :=
  if d.knows type then
    match d.bound name with
    | some type' => if type' = type then none else some (.typeMismatch name type' type)
    | none => none
  else some (.typeNotRegistered type)

def settle (d : Bindings) (name type : String) : Bindings :=
  match d.fault? name type with
  | some _ => d
  | none => d.bind name type

variable {b b' : Bus} {p : InstanceHandle}

theorem ofLists (same : (b'.participants.get? p).map (fun x => (x.types, x.topics)) =
    (b.participants.get? p).map fun x => (x.types, x.topics)) : of b' p = of b p := by
  rcases found : b.participants.get? p with _ | x <;> rcases found' : b'.participants.get? p with _ | x' <;>
    rw [found, found'] at same
  · simp only [of, Bus.isTypeRegistered, Bus.findTopic, found, found']
  · cases same
  · cases same
  · obtain ⟨types, topics⟩ := Prod.mk.inj (Option.some.inj same)
    simp only [of, Bus.isTypeRegistered, Bus.findTopic, found, found', types, topics]

theorem ofSame (same : b'.participants = b.participants) (p : InstanceHandle) : of b' p = of b p :=
  ofLists (by rw [same])

theorem ofBare {x : Participant} (found : b.participants.get? p = some x) (types : x.types = [])
    (topics : x.topics = []) : of b p = empty := by
  simp only [of, empty, Bus.isTypeRegistered, Bus.findTopic, found, types, topics]
  rfl

theorem ofSteady (steady : Bus.Steady b b') (p : InstanceHandle) : of b' p = of b p :=
  ofSame steady.traffic.participants p

end Bindings

def Request.isFiled : Request → Bool
  | .join _ | .leave _ | .registerType _ _ | .createTopic _ _ _ _ => true
  | _ => false

namespace Bus

variable {b b' : Bus} {p : InstanceHandle}

/-! ### What stays -/

theorem groupsBindings {f : List InstanceHandle → List InstanceHandle} {q : InstanceHandle}
    (participants : b'.participants = b.participants.modify q fun x => { x with groups := f x.groups })
    (p : InstanceHandle) : Bindings.of b' p = Bindings.of b p := by
  refine Bindings.ofLists ?_
  rw [participants, Table.getModify]
  split
  · rename_i own
    rw [own, Option.map_map]
    rfl
  · rfl

theorem rosterBindings {q : Request} (roster : q.isRoster) (unfiled : q.isFiled = false) (p : InstanceHandle) :
    Bindings.of (b.request q) p = Bindings.of b p := by
  have changed := q.rostered b roster
  generalize b.request q = b' at changed ⊢
  cases changed with
  | same => rfl
  | typed | bound => cases unfiled
  | @grouped _ _ g _ ok =>
    obtain ⟨_, _, _, same⟩ := createGroupOpens ok
    exact groupsBindings (f := (· ++ [g])) (congrArg Bus.participants same) p
  | @parted _ g _ ok =>
    obtain ⟨_, _, _, _, _, same⟩ := deleteGroupOpens ok
    exact groupsBindings (f := (·.erase g)) (congrArg Bus.participants same) p

theorem withdrawalBindings (b : Bus) (k p : InstanceHandle) : Bindings.of (b.withdrawal k).1 p = Bindings.of b p := by
  unfold withdrawal
  split <;> exact Bindings.ofSame rfl p

theorem openedBindings {q : Request} {news : List Notice} (opened : q.Opened b b' news) (unfiled : q.isFiled = false)
    (p : InstanceHandle) : Bindings.of b' p = Bindings.of b p := by
  cases opened with
  | refused => rfl
  | roster roster => exact rosterBindings roster unfiled p
  | joined | left => cases unfiled
  | writer | reader | sent | attached | listener | graph | guard => exact Bindings.ofSame rfl p
  | unwritten => exact (withdrawalBindings _ _ p).trans (Bindings.ofSame rfl p)
  | unread => exact (withdrawalBindings _ _ p).trans (Bindings.ofSame rfl p)
  | took => exact Bindings.ofSame (takeFrame b _).participants p
  | drained => exact Bindings.ofSame (drainFrame b _ _ _ _).participants p

theorem requestBindings {q : Request} (unfiled : q.isFiled = false) (p : InstanceHandle) :
    Bindings.of (b.request q) p = Bindings.of b p :=
  (Bindings.ofSteady (requestSteady b q) p).trans (openedBindings (q.opened b) unfiled p)

theorem runBindings {requests : List Request} (unfiled : ∀ q ∈ requests, q.isFiled = false) (p : InstanceHandle) :
    Bindings.of (b.run requests) p = Bindings.of b p := by
  induction requests generalizing b with
  | nil => rfl
  | cons q rest ih =>
    exact (ih fun q mem => unfiled q (List.mem_cons_of_mem _ mem)).trans
      (requestBindings (unfiled q List.mem_cons_self) p)

theorem movesBindings {P : Bus → Request → Prop} (unfiled : ∀ b q, P b q → q.isFiled = false) (moves : Moves P b b')
    (p : InstanceHandle) : Bindings.of b' p = Bindings.of b p := by
  induction moves with
  | refl b => rfl
  | waits h => exact Bindings.ofSame h.participants p
  | ask allowed => exact requestBindings (unfiled _ _ allowed) p
  | trans first second ih ih' => exact ih'.trans ih

theorem putUpBindings (b : Bus) (side : Side) (owner : InstanceHandle) (t : Topic) (history : History)
    (p : InstanceHandle) : Bindings.of (b.putUp side owner t history) p = Bindings.of b p := by
  refine runBindings (fun q mem => ?_) p
  rcases List.mem_cons.1 mem with rfl | mem
  · rfl
  · cases List.mem_singleton.1 mem
    cases side <;> rfl

theorem takeDownBindings (b : Bus) (side : Side) (owner g k p : InstanceHandle) :
    Bindings.of (b.takeDown side owner g k) p = Bindings.of b p := by
  refine runBindings (fun q mem => ?_) p
  rcases List.mem_cons.1 mem with rfl | mem
  · cases side <;> rfl
  · cases List.mem_singleton.1 mem
    rfl

/-! ### Who comes and goes -/

theorem leaveBindings (other : p ≠ q) : Bindings.of (b.request (.leave q)) p = Bindings.of b p := by
  refine (Bindings.ofSteady (requestSteady b (.leave q)) p).trans ?_
  simp only [Request.opening]
  split
  · rename_i x found
    refine Bindings.ofLists ?_
    simp only [vacated, marksGroups, setListener, modifyReader, Table.getErase, if_neg other]
  · rfl

theorem joinBindings (b : Bus) (domain : DomainId) (p : InstanceHandle) :
    Bindings.of (b.request (.join domain)) p = if p = b.nextHandle ∧
      domain ≤ maxDomainId then .empty else Bindings.of b p := by
  rw [Bindings.ofSteady (requestSteady b (.join domain))]
  by_cases fits : domain ≤ maxDomainId
  · rw [Request.openingJoin b fits]
    have joined := welcomeParticipants b domain p
    by_cases own : p = b.nextHandle
    · rw [if_pos ⟨own, fits⟩]
      rw [if_pos own] at joined
      exact Bindings.ofBare joined rfl rfl
    · rw [if_neg fun both => own both.1]
      rw [if_neg own] at joined
      exact Bindings.ofLists (by rw [joined])
  · rw [if_neg fun both => fits both.2]
    simp only [Request.opening, if_pos (Nat.not_le.1 fits)]

/-! ### What is added -/

theorem registerTypeBindings {x : Participant} (found : b.participants.get? p = some x) {type : String}
    (ok : b.registerType p type = .ok b') : Bindings.of b' p = (Bindings.of b p).register type := by
  obtain ⟨_, rfl⟩ := registerTypeOpens ok
  simp only [Bindings.of, Bindings.register, isTypeRegistered, findTopic, Table.getModify, found, if_true,
    Option.map_some]
  refine Bindings.ext (funext fun type' => ?_) rfl
  dsimp only
  split
  · rename_i mem
    by_cases own : type' = type <;> simp [own, mem]
  · simp

theorem createTopicBindings {x : Participant} (found : b.participants.get? p = some x) {name : String}
    (named : name ≠ "") (type : String) (history : History) :
    (∃ f, (Bindings.of b p).fault? name type = some f ∧ b.createTopic p name type history = .error f) ∨
      ∃ t b', (Bindings.of b p).fault? name type = none ∧ b.createTopic p name type history = .ok (t, b') ∧
        Bindings.of b' p = (Bindings.of b p).bind name type := by
  cases known : b.isTypeRegistered p type with
  | false =>
    refine .inl ⟨.typeNotRegistered type, ?_, ?_⟩
    · simp only [Bindings.fault?, Bindings.of, known, Bool.false_eq_true, if_false]
    · simp only [createTopic, if_neg named, known, Bool.not_false, if_true]
  | true =>
    cases there : b.findTopic p name with
    | some t =>
      by_cases same : t.type = type
      · refine .inr ⟨t, b, ?_, ?_, ?_⟩
        · simp only [Bindings.fault?, Bindings.of, known, there, if_true, Option.map_some, if_pos same]
        · simp only [createTopic, if_neg named, known, there, if_pos same, Bool.not_true, Bool.false_eq_true, if_false]
        · refine Bindings.ext rfl (funext fun name' => ?_)
          simp only [Bindings.of, Bindings.bind]
          split
          · rename_i own
            rw [own, there, Option.map_some, same]
          · rfl
      · refine .inl ⟨.typeMismatch name t.type type, ?_, ?_⟩
        · simp only [Bindings.fault?, Bindings.of, known, there, if_true, Option.map_some, if_neg same]
        · simp only [createTopic, if_neg named, known, there, if_neg same, Bool.not_true, Bool.false_eq_true, if_false]
    | none =>
      have fault : (Bindings.of b p).fault? name type = none := by
        simp only [Bindings.fault?, Bindings.of, known, there, if_true, Option.map_none]
      have made : ∃ t b', b.createTopic p name type history = .ok (t, b') := by
        simp only [createTopic, if_neg named, known, there, Bool.not_true, Bool.false_eq_true, if_false]
        exact ⟨_, _, rfl⟩
      obtain ⟨t, b', ok⟩ := made
      refine .inr ⟨t, b', fault, ok, ?_⟩
      rcases createTopicOpens ok with ⟨_, there', _⟩ | ⟨_, rfl, rfl⟩
      · cases there.symm.trans there'
      · have absent : x.topics.find? (·.name = name) = none := by
          simpa only [findTopic, found] using there
        refine Bindings.ext (funext fun type' => ?_) (funext fun name' => ?_)
        · simp only [Bindings.of, Bindings.bind, isTypeRegistered, Table.getModify, found, if_true, Option.map_some]
        · simp only [Bindings.of, Bindings.bind, findTopic, Table.getModify, found, if_true, Option.map_some,
            List.find?_append]
          by_cases own : name' = name
          · rw [if_pos own, own, absent]
            simp
          · rw [if_neg own, List.find?_singleton, if_neg (by simpa using Ne.symm own), Option.or_none]

theorem registerTypeOther {q : InstanceHandle} (other : p ≠ q) (type : String) :
    Bindings.of (b.request (.registerType q type)) p = Bindings.of b p := by
  simp only [request]
  cases made : b.registerType q type with
  | error f => rfl
  | ok b' =>
    obtain ⟨_, rfl⟩ := registerTypeOpens made
    exact Bindings.ofLists (congrArg _ ((Table.getModify ..).trans (if_neg other)))

theorem createTopicOther {q : InstanceHandle} (other : p ≠ q) (name type : String) (history : History) :
    Bindings.of (b.request (.createTopic q name type history)) p = Bindings.of b p := by
  simp only [request]
  cases made : b.createTopic q name type history with
  | error f => rfl
  | ok x =>
    obtain ⟨t, b'⟩ := x
    rcases createTopicOpens made with ⟨rfl, _⟩ | ⟨_, _, added⟩
    · rfl
    · have participants := congrArg (·.participants.get? p) added
      exact Bindings.ofLists (congrArg _ (participants.trans ((Table.getModify ..).trans (if_neg other))))

end Bus

namespace Middleware

variable {K : Type}

def TypeSupport.type (ts : TypeSupport K) : String := qualifiedName ts.package ts.message

def TypeSupport.enrolled (ts : TypeSupport K) (d : Bindings) : Bindings :=
  if ts.registers then d.register ts.type else d

namespace Site

variable {b b' : Bus} {p : InstanceHandle} {s : Site K}

/-! ### What a creation adds -/

theorem bindTopicOther {q : InstanceHandle} (other : p ≠ q) (ts : TypeSupport K) (topic : String) :
    Bindings.of (b.run (binding q ts topic)) p = Bindings.of b p := by
  unfold binding Bus.run
  split
  · exact (Bus.createTopicOther other ..).trans (Bus.registerTypeOther other _)
  · exact Bus.createTopicOther other ..

theorem registerBindings {x : Participant} (found : b.participants.get? p = some x) (ts : TypeSupport K) :
    ∃ b' x', ts.register b p ts.type = .ok b' ∧ b'.participants.get? p = some x' ∧
      Bindings.of b' p = ts.enrolled (Bindings.of b p) := by
  unfold TypeSupport.register TypeSupport.enrolled
  cases ts.registers with
  | false => exact ⟨b, x, rfl, found, rfl⟩
  | true =>
    cases ok : b.registerType p ts.type with
    | error f =>
      rw [Bus.registerType, if_neg (show ts.type ≠ "" from qualifiedNamed ts.package ts.message)] at ok
      cases ok
    | ok b' =>
      refine ⟨b', { x with types := if ts.type ∈ x.types then x.types else x.types ++ [ts.type] }, rfl, ?_,
        Bus.registerTypeBindings found ok⟩
      obtain ⟨_, rfl⟩ := Bus.registerTypeOpens ok
      simp only [Table.getModify, found, if_true, Option.map_some]

theorem bindTopicBindings {x : Participant} (found : b.participants.get? p = some x) (ts : TypeSupport K)
    {topic : String} (named : topic ≠ "") :
    System.refused (bindTopic b p ts topic).2 =
        ((ts.enrolled (Bindings.of b p)).fault? topic ts.type).map .ofFault ∧
      Bindings.of (bindTopic b p ts topic).1 p = (ts.enrolled (Bindings.of b p)).settle topic ts.type := by
  obtain ⟨a, x', registered, found', bindings⟩ := registerBindings found ts
  unfold bindTopic
  dsimp only
  rw [← TypeSupport.type, registered, ← bindings]
  dsimp only
  rcases Bus.createTopicBindings found' named ts.type .standard with
    ⟨f, fault, refused⟩ | ⟨t, a', clear, made, bound⟩
  · rw [refused, Bindings.settle, fault]
    exact ⟨rfl, rfl⟩
  · rw [made, Bindings.settle, clear]
    exact ⟨rfl, bound⟩

end Site
end Middleware
end Databus
