import Databus.Proofs.NodeDirectory
import Databus.Proofs.ParticipantHoldings

/-! Records and what they stand for: every publisher and subscription that is live has its own parent and
endpoint under its node's participant, and no participant of a node has anything else. -/
namespace Databus.Middleware

open Bus (Departed PutsUp Retains OwnsEndpoint Steady TakesDown)

variable {K : Type}

structure Linked (b : Bus) (d : Directory K) : Prop where
  membersAgree : b.MembersAgree
  nodeAdded : ∀ ctx k n, d.node ctx k = some n → ∃ x, b.participants.get? n.participant = some x ∧
    d.domain ctx = some x.domain ∧ x.groups.Nodup ∧ x.groups.length = n.endpoints
  apart : ∀ ctx k n ctx' k' n', d.node ctx k = some n → d.node ctx' k' = some n' →
    n.participant = n'.participant → ctx = ctx' ∧ k = k'
  ownsEndpoint : ∀ ctx ref r, d.entry ctx ref = some r → ∃ n domain, d.node ctx r.node = some n ∧
    d.domain ctx = some domain ∧ r.group < b.nextHandle ∧
    OwnsEndpoint b ref.side n.participant domain r.topic r.group r.endpoint
  typed : ∀ ctx ref r, d.entry ctx ref = some r →
    r.topic.type = qualifiedName r.support.package r.support.message
  sole : ∀ ctx ref r ctx' ref' r', d.entry ctx ref = some r → d.entry ctx' ref' = some r' →
    r.endpoint = r'.endpoint → ctx = ctx' ∧ ref = ref'
  owned : ∀ k e, b.endpoints.get? k = some e →
    ∃ ctx ref r, d.entry ctx ref = some r ∧ r.endpoint = k
  listed : ∀ p x g, b.participants.get? p = some x → g ∈ x.groups →
    ∃ ctx ref r n, d.entry ctx ref = some r ∧ r.group = g ∧ d.node ctx r.node = some n ∧
      n.participant = p

namespace Linked

variable {b b' : Bus} {d d' : Directory K} {ctx ctx' : ContextId} {ref ref' : EndpointRef} {r r' : EndpointEntry K}
  {n n' : NodeRecord}

theorem fresh : Linked {} (Directory.of (.empty : Table ContextId (Context K))) :=
  ⟨Bus.membersAgreeEmpty, fun _ _ _ found => (nomatch found), fun _ _ _ _ _ _ found => (nomatch found),
    fun _ _ _ found => (nomatch found), fun _ _ _ found => (nomatch found),
    fun _ _ _ _ _ _ found => (nomatch found), fun _ _ found => (nomatch found),
    fun _ _ _ found => (nomatch found)⟩

theorem endpointOld (h : Linked b d) (found : d.entry ctx ref = some r) :
    r.endpoint < b.nextHandle := by
  obtain ⟨_, _, _, _, _, ownsEndpoint⟩ := h.ownsEndpoint ctx ref r found
  exact (h.membersAgree.endpoints _ _ ownsEndpoint.endpoint).1.1

theorem groupOld (h : Linked b d) (found : d.entry ctx ref = some r) : r.group < b.nextHandle := by
  obtain ⟨_, _, _, _, old, _⟩ := h.ownsEndpoint ctx ref r found
  exact old

theorem soleGroup (h : Linked b d) (found : d.entry ctx ref = some r)
    (found' : d.entry ctx' ref' = some r') (same : r.group = r'.group) : ctx = ctx' ∧ ref = ref' := by
  obtain ⟨_, _, _, _, _, ownsEndpoint⟩ := h.ownsEndpoint ctx ref r found
  obtain ⟨_, _, _, _, _, ownsEndpoint'⟩ := h.ownsEndpoint ctx' ref' r' found'
  have parent := ownsEndpoint.group
  rw [same, ownsEndpoint'.group] at parent
  have child := congrArg Group.endpoints (Option.some.inj parent)
  exact h.sole _ _ _ _ _ _ found found' (List.cons.inj child).1.symm

theorem groupsOld (h : Linked b d) {p : InstanceHandle} {x : Participant}
    (found : b.participants.get? p = some x) : b.nextHandle ∉ x.groups := fun mem => by
  obtain ⟨ctx, ref, r, _, entry, own, _⟩ := h.listed p x _ found mem
  exact Nat.lt_irrefl _ (own ▸ h.groupOld entry)

theorem countApart (h : Linked b d) {entry : ContextId → EndpointRef → Option (EndpointEntry K)} {f : Nat → Nat}
    {ctx'' : ContextId} {k k' k'' : Handle .node}
    (there : (Directory.count { d with entry } ctx k f).node ctx' k' = some n)
    (there' : (Directory.count { d with entry } ctx k f).node ctx'' k'' = some n')
    (same : n.participant = n'.participant) : ctx' = ctx'' ∧ k' = k'' := by
  obtain ⟨m, before, rfl⟩ := Directory.countNode.1 there
  obtain ⟨m', before', rfl⟩ := Directory.countNode.1 there'
  refine h.apart _ _ _ _ _ _ before before' ?_
  split at same <;> split at same <;> exact same

theorem retain (h : Linked b d) (membersAgree : b'.MembersAgree) (keeps : Retains b b') : Linked b' d where
  membersAgree := membersAgree
  nodeAdded ctx k n found := by
    obtain ⟨x, there, domain, nodup, count⟩ := h.nodeAdded ctx k n found
    obtain ⟨x', there', same, groups⟩ := keeps.participants _ x there
    exact ⟨x', there', same ▸ domain, groups ▸ nodup, groups ▸ count⟩
  apart := h.apart
  ownsEndpoint ctx ref r found := by
    obtain ⟨n, domain, node, own, old, ownsEndpoint⟩ := h.ownsEndpoint ctx ref r found
    refine ⟨n, domain, node, own, Nat.lt_of_lt_of_le old keeps.handles, ?_⟩
    have endpoint := h.endpointOld found
    refine ownsEndpoint.keep (fun x there mem => ?_) (keeps.groups _ old) (by rw [keeps.endpoints])
      (keeps.writers _ endpoint) (keeps.readers _ endpoint)
    obtain ⟨x', there', same, groups⟩ := keeps.participants _ x there
    exact ⟨x', there', same, groups ▸ mem⟩
  typed := h.typed
  sole := h.sole
  owned k e found := h.owned k e (by rwa [keeps.endpoints] at found)
  listed p x g found mem := by
    cases before : b.participants.get? p with
    | none =>
      rw [keeps.newcomers p x found before] at mem
      cases mem
    | some y =>
      obtain ⟨x', there, _, groups⟩ := keeps.participants p y before
      cases Option.some.inj (there.symm.trans found)
      exact h.listed p y g before (groups ▸ mem)

/-! ### Nodes -/

theorem lodge (h : Linked b d) {k : Handle .node} {x : Participant} (vacant : d.node ctx k = none)
    (found : b.participants.get? n.participant = some x) (domain : d.domain ctx = some x.domain)
    (bare : x.groups = []) (idle : n.endpoints = 0)
    (alone : ∀ ctx' k' n', d.node ctx' k' = some n' → n'.participant ≠ n.participant) :
    Linked b (d.setNode ctx k (some n)) := by
  have nodes : ∀ ctx' k' n', (d.setNode ctx k (some n)).node ctx' k' = some n' ↔
      (ctx' = ctx ∧ k' = k ∧ n' = n) ∨ d.node ctx' k' = some n' :=
    fun _ _ _ => Directory.setNodeNode vacant
  refine { h with nodeAdded := fun ctx' k' n' there => ?_, apart := ?_, ownsEndpoint := fun ctx' ref r there => ?_,
                  listed := fun p y g there mem => ?_ }
  · rcases (nodes ctx' k' n').1 there with ⟨rfl, _, rfl⟩ | old
    · exact ⟨x, found, domain, by rw [bare]; exact .nil, by rw [bare, idle]; rfl⟩
    · exact h.nodeAdded ctx' k' n' old
  · intro ctx' k' n' ctx'' k'' n'' there there' same
    rcases (nodes ctx' k' n').1 there with ⟨rfl, rfl, rfl⟩ | old <;>
      rcases (nodes ctx'' k'' n'').1 there' with ⟨rfl, rfl, rfl⟩ | old'
    · exact ⟨rfl, rfl⟩
    · exact absurd same.symm (alone _ _ _ old')
    · exact absurd same (alone _ _ _ old)
    · exact h.apart _ _ _ _ _ _ old old' same
  · obtain ⟨n', dom, node, rest⟩ := h.ownsEndpoint ctx' ref r there
    exact ⟨n', dom, (nodes _ _ _).2 (.inr node), rest⟩
  · obtain ⟨ctx', ref, r, n', entry, group, node, own⟩ := h.listed p y g there mem
    exact ⟨ctx', ref, r, n', entry, group, (nodes _ _ _).2 (.inr node), own⟩

end Linked

structure Directory.Shrinks (gone : InstanceHandle → Prop) (d d' : Directory K) : Prop where
  domain : ∀ ctx k n, d'.node ctx k = some n → d'.domain ctx = d.domain ctx
  node : ∀ ctx k n, d'.node ctx k = some n ↔ d.node ctx k = some n ∧ ¬ gone n.participant
  entry : ∀ ctx ref r, d'.entry ctx ref = some r ↔
    d.entry ctx ref = some r ∧ ∀ n, d.node ctx r.node = some n → ¬ gone n.participant

namespace Linked

variable {b b' : Bus} {d d' : Directory K} {ctx ctx' : ContextId} {ref ref' : EndpointRef} {r r' : EndpointEntry K}
  {n n' : NodeRecord} {gone : InstanceHandle → Prop}

theorem bereave (h : Linked b d) (membersAgree : b'.MembersAgree) (departed : Departed b gone b')
    (shrinks : d.Shrinks gone d') : Linked b' d' where
  membersAgree := membersAgree
  nodeAdded ctx k n found := by
    obtain ⟨before, stays⟩ := (shrinks.node ctx k n).1 found
    obtain ⟨x, there, domain, rest⟩ := h.nodeAdded ctx k n before
    exact ⟨x, (departed.participants _ x).2 ⟨there, stays⟩, (shrinks.domain ctx k n found).trans domain,
      rest⟩
  apart ctx k n ctx' k' n' found found' same :=
    h.apart _ _ _ _ _ _ ((shrinks.node ctx k n).1 found).1 ((shrinks.node ctx' k' n').1 found').1 same
  ownsEndpoint ctx ref r found := by
    obtain ⟨before, stay⟩ := (shrinks.entry ctx ref r).1 found
    obtain ⟨n, domain, node, own, old, ownsEndpoint⟩ := h.ownsEndpoint ctx ref r before
    have stays := stay n node
    have node' := (shrinks.node ctx r.node n).2 ⟨node, stays⟩
    refine ⟨n, domain, node', (shrinks.domain _ _ n node').trans own, departed.handle ▸ old, ?_⟩
    refine ownsEndpoint.keep (fun x there mem => ⟨x, (departed.participants _ x).2 ⟨there, stays⟩, rfl, mem⟩)
      (departed.groups _ fun q x away there mem => ?_) ?_ (by rw [departed.writers]) (departed.readers _)
    · obtain ⟨ctx', ref', r', n', entry, group, node', own'⟩ := h.listed q x _ there mem
      obtain ⟨rfl, rfl⟩ := h.soleGroup before entry group.symm
      cases Option.some.inj (before.symm.trans entry)
      cases Option.some.inj (node.symm.trans node')
      exact stays (own' ▸ away)
    · exact ((departed.endpoints _ _).2 ⟨ownsEndpoint.endpoint, stays⟩).trans ownsEndpoint.endpoint.symm
  typed ctx ref r found := h.typed ctx ref r ((shrinks.entry ctx ref r).1 found).1
  sole ctx ref r ctx' ref' r' found found' :=
    h.sole _ _ _ _ _ _ ((shrinks.entry ctx ref r).1 found).1 ((shrinks.entry ctx' ref' r').1 found').1
  owned k e found := by
    obtain ⟨there, stays⟩ := (departed.endpoints k e).1 found
    obtain ⟨ctx, ref, r, entry, rfl⟩ := h.owned k e there
    obtain ⟨n, domain, node, _, _, ownsEndpoint⟩ := h.ownsEndpoint ctx ref r entry
    cases Option.some.inj (there.symm.trans ownsEndpoint.endpoint)
    refine ⟨ctx, ref, r, (shrinks.entry ctx ref r).2 ⟨entry, fun n' node' => ?_⟩, rfl⟩
    cases Option.some.inj (node.symm.trans node')
    exact stays
  listed p x g found mem := by
    obtain ⟨there, stays⟩ := (departed.participants p x).1 found
    obtain ⟨ctx, ref, r, n, entry, group, node, rfl⟩ := h.listed p x g there mem
    refine ⟨ctx, ref, r, n, (shrinks.entry ctx ref r).2 ⟨entry, fun n' node' => ?_⟩, group,
      (shrinks.node ctx _ n).2 ⟨node, stays⟩, rfl⟩
    cases Option.some.inj (node.symm.trans node')
    exact stays

end Linked

/-! ### Entries -/

structure Entry (b b' : Bus) (d : Directory K) (ctx : ContextId) (ref : EndpointRef) (r : EndpointEntry K)
    (n : NodeRecord) (x : Participant) (history : History) : Prop where
  node : d.node ctx r.node = some n
  found : b.participants.get? n.participant = some x
  puts : PutsUp b ref.side n.participant x r.topic history b'
  vacant : d.entry ctx ref = none
  group : r.group = b.nextHandle
  endpoint : r.endpoint = b.nextHandle + 1

namespace Entry

variable {b b' : Bus} {d : Directory K} {ctx : ContextId} {ref : EndpointRef} {r : EndpointEntry K} {n : NodeRecord}
  {x : Participant} {history : History}

theorem participants (e : Entry b b' d ctx ref r n x history) (p : InstanceHandle) :
    b'.participants.get? p = if p = n.participant then
      some { x with groups := x.groups ++ [b.nextHandle] } else b.participants.get? p := by
  rw [e.puts.participants, Table.getModify]
  split
  · rw [e.found]
    rfl
  · rfl

theorem nodeAdded (e : Entry b b' d ctx ref r n x history) (h : Linked b d) {ctx' : ContextId}
    {k' : Handle .node} {n' : NodeRecord} (there : (d.enter ctx ref r).node ctx' k' = some n') :
    ∃ x', b'.participants.get? n'.participant = some x' ∧ d.domain ctx' = some x'.domain ∧
      x'.groups.Nodup ∧ x'.groups.length = n'.endpoints := by
  obtain ⟨m, before, rfl⟩ := Directory.countNode.1 there
  obtain ⟨y, found, domain, nodup, count⟩ := h.nodeAdded ctx' k' m before
  -- the node of the entry counts one more, as its participant lists one more
  by_cases own : ctx' = ctx ∧ k' = r.node
  · obtain ⟨rfl, rfl⟩ := own
    cases Option.some.inj (before.symm.trans e.node)
    cases Option.some.inj (found.symm.trans e.found)
    rw [if_pos ⟨rfl, rfl⟩]
    refine ⟨_, (e.participants _).trans (if_pos rfl), domain, ?_, by simp [count]⟩
    rw [List.nodup_append]
    refine ⟨nodup, by simp, fun g mem g' mem' same => ?_⟩
    exact h.groupsOld found (List.mem_singleton.1 mem' ▸ same ▸ mem)
  · rw [if_neg own]
    refine ⟨y, (e.participants _).trans ((if_neg fun same => own ?_).trans found), domain, nodup, count⟩
    exact h.apart _ _ _ _ _ _ before e.node same

theorem ownsEndpoint (e : Entry b b' d ctx ref r n x history) (h : Linked b d) {ctx' : ContextId}
    {ref' : EndpointRef} {r' : EndpointEntry K} (there : (d.enter ctx ref r).entry ctx' ref' = some r') :
    ∃ n' domain, (d.enter ctx ref r).node ctx' r'.node = some n' ∧ d.domain ctx' = some domain ∧
      r'.group < b'.nextHandle ∧
      OwnsEndpoint b' ref'.side n'.participant domain r'.topic r'.group r'.endpoint := by
  rw [e.puts.handle]
  rcases (Directory.enterEntry e.vacant).1 there with ⟨rfl, rfl, rfl⟩ | before
  · obtain ⟨n', node', own⟩ := Directory.enterNode e.node
    obtain ⟨y, found, domain, _⟩ := h.nodeAdded _ _ n e.node
    cases Option.some.inj (found.symm.trans e.found)
    refine ⟨n', x.domain, node', domain, ?_, ?_⟩
    · rw [e.group]
      exact Nat.lt_add_of_pos_right (k := 2) (by decide)
    · rw [e.group, e.endpoint, own]
      exact e.puts.ownsEndpoint found
  · obtain ⟨m, domain, node, own, old, ownsEndpoint⟩ := h.ownsEndpoint ctx' ref' r' before
    obtain ⟨n', node', same⟩ := Directory.enterNode node
    have other : r'.endpoint ≠ b.nextHandle + 1 :=
      Nat.ne_of_lt (Nat.lt_succ_of_lt (h.endpointOld before))
    refine ⟨n', domain, node', own, Nat.lt_add_right 2 old, ?_⟩
    -- an older entry keeps all that it has: only new handles were put up
    rw [same]
    refine ownsEndpoint.keep (fun y there mem => ?_) ?_ ?_ ?_ ?_
    · rw [e.participants]
      split
      · rename_i same
        rw [same, e.found] at there
        cases Option.some.inj there
        exact ⟨_, rfl, rfl, List.mem_append_left _ mem⟩
      · exact ⟨y, there, rfl, mem⟩
    · rw [e.puts.groups, if_neg (Nat.ne_of_lt old)]
    · rw [e.puts.endpoints, Table.getInsert, if_neg other]
    · rw [e.puts.writers, if_neg fun own => other own.2]
    · rw [e.puts.readers, if_neg fun own => other own.2]

theorem sole (e : Entry b b' d ctx ref r n x history) (h : Linked b d) {ctx' ctx'' : ContextId}
    {ref' ref'' : EndpointRef} {r' r'' : EndpointEntry K} (there : (d.enter ctx ref r).entry ctx' ref' = some r')
    (there' : (d.enter ctx ref r).entry ctx'' ref'' = some r'')
    (same : r'.endpoint = r''.endpoint) : ctx' = ctx'' ∧ ref' = ref'' := by
  have newer : ∀ {ctx' ref' r'}, d.entry ctx' ref' = some r' → r'.endpoint ≠ r.endpoint :=
    fun before => e.endpoint ▸ Nat.ne_of_lt (Nat.lt_succ_of_lt (h.endpointOld before))
  rcases (Directory.enterEntry e.vacant).1 there with ⟨rfl, rfl, rfl⟩ | before <;>
    rcases (Directory.enterEntry e.vacant).1 there' with ⟨rfl, rfl, rfl⟩ | before'
  · exact ⟨rfl, rfl⟩
  · exact absurd same.symm (newer before')
  · exact absurd same (newer before)
  · exact h.sole _ _ _ _ _ _ before before' same

theorem listed (e : Entry b b' d ctx ref r n x history) (h : Linked b d) {p g : InstanceHandle}
    {y : Participant} (there : b'.participants.get? p = some y) (mem : g ∈ y.groups) :
    ∃ ctx' ref' r' n', (d.enter ctx ref r).entry ctx' ref' = some r' ∧ r'.group = g ∧
      (d.enter ctx ref r).node ctx' r'.node = some n' ∧ n'.participant = p := by
  have old : ∀ {z}, b.participants.get? p = some z → g ∈ z.groups → ∃ ctx' ref' r' n',
      (d.enter ctx ref r).entry ctx' ref' = some r' ∧ r'.group = g ∧
        (d.enter ctx ref r).node ctx' r'.node = some n' ∧ n'.participant = p :=
      fun {z} before inside => by
    obtain ⟨ctx', ref', r', m, entry, group, node, own⟩ := h.listed p z g before inside
    obtain ⟨n', node', same⟩ := Directory.enterNode node
    exact ⟨ctx', ref', r', n', (Directory.enterEntry e.vacant).2 (.inr entry), group, node',
      same.trans own⟩
  rw [e.participants] at there
  split at there
  · rename_i own
    cases Option.some.inj there
    rcases List.mem_append.1 mem with inside | new
    · exact old (own ▸ e.found) inside
    · obtain ⟨n', node', same⟩ := Directory.enterNode e.node
      refine ⟨ctx, ref, r, n', (Directory.enterEntry e.vacant).2 (.inl ⟨rfl, rfl, rfl⟩), ?_, node',
        same.trans own.symm⟩
      rw [e.group, List.mem_singleton.1 new]
  · exact old there mem

theorem linked (e : Entry b b' d ctx ref r n x history) (h : Linked b d) (membersAgree : b'.MembersAgree)
    (typed : r.topic.type = qualifiedName r.support.package r.support.message) :
    Linked b' (d.enter ctx ref r) where
  membersAgree := membersAgree
  nodeAdded _ _ _ there := e.nodeAdded h there
  apart _ _ _ _ _ _ there there' := h.countApart there there'
  ownsEndpoint _ _ _ there := e.ownsEndpoint h there
  typed ctx' ref' r' there := by
    rcases (Directory.enterEntry e.vacant).1 there with ⟨_, _, rfl⟩ | before
    · exact typed
    · exact h.typed ctx' ref' r' before
  sole _ _ _ _ _ _ there there' := e.sole h there there'
  owned k e' there := by
    rw [e.puts.endpoints, Table.getInsert] at there
    split at there
    · rename_i own
      exact ⟨ctx, ref, r, (Directory.enterEntry e.vacant).2 (.inl ⟨rfl, rfl, rfl⟩),
        e.endpoint.trans own.symm⟩
    · obtain ⟨ctx', ref', r', entry, own⟩ := h.owned k e' there
      exact ⟨ctx', ref', r', (Directory.enterEntry e.vacant).2 (.inr entry), own⟩
  listed _ _ _ there mem := e.listed h there mem

end Entry

structure Removal (b b' : Bus) (d : Directory K) (ctx : ContextId) (ref : EndpointRef) (r : EndpointEntry K)
    (n : NodeRecord) : Prop where
  held : d.entry ctx ref = some r
  node : d.node ctx r.node = some n
  takes : TakesDown b ref.side n.participant r.group r.endpoint b'

namespace Removal

variable {b b' : Bus} {d : Directory K} {ctx : ContextId} {ref : EndpointRef} {r : EndpointEntry K} {n : NodeRecord}

theorem nodeAdded (e : Removal b b' d ctx ref r n) (h : Linked b d) {ctx' : ContextId}
    {k' : Handle .node} {n' : NodeRecord} (there : (d.giveUp ctx ref r).node ctx' k' = some n') :
    ∃ x', b'.participants.get? n'.participant = some x' ∧ d.domain ctx' = some x'.domain ∧
      x'.groups.Nodup ∧ x'.groups.length = n'.endpoints := by
  obtain ⟨m, before, rfl⟩ := Directory.countNode.1 there
  obtain ⟨y, found, domain, nodup, count⟩ := h.nodeAdded ctx' k' m before
  rw [e.takes.participants, Table.getModify]
  by_cases own : ctx' = ctx ∧ k' = r.node
  · obtain ⟨rfl, rfl⟩ := own
    cases Option.some.inj (before.symm.trans e.node)
    obtain ⟨n', dom, node', _, _, ownsEndpoint⟩ := h.ownsEndpoint ctx' ref r e.held
    cases Option.some.inj (node'.symm.trans e.node)
    obtain ⟨z, found', _, mem⟩ := ownsEndpoint.listed
    cases Option.some.inj (found'.symm.trans found)
    simp only [and_self, if_true, found, Option.map_some]
    refine ⟨_, rfl, domain, nodup.erase _, ?_⟩
    rw [← count]
    exact List.length_erase_of_mem mem
  · rw [if_neg own, if_neg fun same => own (h.apart _ _ _ _ _ _ before e.node same)]
    exact ⟨y, found, domain, nodup, count⟩

theorem ownsEndpoint (e : Removal b b' d ctx ref r n) (h : Linked b d) {ctx' : ContextId}
    {ref' : EndpointRef} {r' : EndpointEntry K} (there : (d.giveUp ctx ref r).entry ctx' ref' = some r') :
    ∃ n' domain, (d.giveUp ctx ref r).node ctx' r'.node = some n' ∧ d.domain ctx' = some domain ∧
      r'.group < b'.nextHandle ∧
      OwnsEndpoint b' ref'.side n'.participant domain r'.topic r'.group r'.endpoint := by
  obtain ⟨other, before⟩ := Directory.giveUpEntry.1 there
  obtain ⟨m, domain, node, own, old, ownsEndpoint⟩ := h.ownsEndpoint ctx' ref' r' before
  obtain ⟨n', node', same⟩ := Directory.giveUpNode node
  have group : r'.group ≠ r.group := fun same => other (h.soleGroup before e.held same)
  have endpoint : r'.endpoint ≠ r.endpoint := fun same => other (h.sole _ _ _ _ _ _ before e.held same)
  refine ⟨n', domain, node', own, e.takes.handle ▸ old, ?_⟩
  rw [same]
  refine ownsEndpoint.keep (fun y found mem => ?_) ?_ ?_ ?_ (e.takes.readers _)
  · rw [e.takes.participants, Table.getModify]
    split
    · rename_i same
      rw [← same, found]
      exact ⟨_, rfl, rfl, (List.mem_erase_of_ne group).2 mem⟩
    · exact ⟨y, found, rfl, mem⟩
  · rw [e.takes.groups, if_neg group]
  · rw [e.takes.endpoints, Table.getErase, if_neg endpoint]
  · rw [e.takes.writers, if_neg fun own => endpoint own.2]

theorem listed (e : Removal b b' d ctx ref r n) (h : Linked b d) {p g : InstanceHandle}
    {y : Participant} (there : b'.participants.get? p = some y) (mem : g ∈ y.groups) :
    ∃ ctx' ref' r' n', (d.giveUp ctx ref r).entry ctx' ref' = some r' ∧ r'.group = g ∧
      (d.giveUp ctx ref r).node ctx' r'.node = some n' ∧ n'.participant = p := by
  have still : ∀ {z}, b.participants.get? p = some z → g ∈ z.groups →
      (p = n.participant → g ≠ r.group) → ∃ ctx' ref' r' n',
        (d.giveUp ctx ref r).entry ctx' ref' = some r' ∧ r'.group = g ∧
          (d.giveUp ctx ref r).node ctx' r'.node = some n' ∧ n'.participant = p :=
      fun {z} before inside other => by
    obtain ⟨ctx', ref', r', m, entry, rfl, node, own⟩ := h.listed p z g before inside
    obtain ⟨n', node', same⟩ := Directory.giveUpNode node
    refine ⟨ctx', ref', r', n', Directory.giveUpEntry.2 ⟨fun ⟨here, this⟩ => ?_, entry⟩, rfl, node',
      same.trans own⟩
    subst here this
    cases Option.some.inj (entry.symm.trans e.held)
    cases Option.some.inj (node.symm.trans e.node)
    exact other own.symm rfl
  rw [e.takes.participants, Table.getModify] at there
  split at there
  · rename_i own
    obtain ⟨z, found, rfl⟩ := Option.map_eq_some_iff.1 there
    obtain ⟨x, found', _, nodup, _⟩ := h.nodeAdded ctx r.node n e.node
    cases Option.some.inj (found'.symm.trans found)
    exact still (own ▸ found) (List.mem_of_mem_erase mem) fun _ =>
      ((List.Nodup.mem_erase_iff nodup).1 mem).1
  · rename_i other
    exact still there mem fun own => absurd own other

theorem linked (e : Removal b b' d ctx ref r n) (h : Linked b d) (membersAgree : b'.MembersAgree) :
    Linked b' (d.giveUp ctx ref r) where
  membersAgree := membersAgree
  nodeAdded _ _ _ there := e.nodeAdded h there
  apart _ _ _ _ _ _ there there' := h.countApart there there'
  ownsEndpoint _ _ _ there := e.ownsEndpoint h there
  typed ctx' ref' r' there := h.typed ctx' ref' r' (Directory.giveUpEntry.1 there).2
  sole _ _ _ _ _ _ there there' :=
    h.sole _ _ _ _ _ _ (Directory.giveUpEntry.1 there).2 (Directory.giveUpEntry.1 there').2
  owned k e' there := by
    rw [e.takes.endpoints, Table.getErase] at there
    split at there
    · cases there
    · rename_i other
      obtain ⟨ctx', ref', r', entry, own⟩ := h.owned k e' there
      refine ⟨ctx', ref', r', Directory.giveUpEntry.2 ⟨fun ⟨here, this⟩ => other ?_, entry⟩, own⟩
      subst here this
      cases Option.some.inj (entry.symm.trans e.held)
      exact own.symm
  listed _ _ _ there mem := e.listed h there mem

end Removal

end Databus.Middleware
