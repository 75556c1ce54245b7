import Databus.Proofs.RecordCorrespondence

/-! A node's own count of its endpoints: the records of the node stand for the groups of its participant, one
for one, so the count is the number of those records and a node is let go exactly when it has none. -/
namespace Databus.Middleware

open Bus (OwnsEndpoint)

variable {K : Type}

theorem Arena.valuesPairwise {kind : Kind} {α : Type} {a : Arena kind α} {R : α → α → Prop}
    (apart : ∀ h v h' v', a.find? h = some v → a.find? h' = some v' → h ≠ h' → R v v') :
    a.values.Pairwise R := by
  rw [values, List.pairwise_filterMap, List.pairwise_iff_getElem]
  intro i j inside inside' less v here v' there
  have resolves {k : Nat} (within : k < a.slots.length) {w : α} (held : a.slots[k].value = some w) :
      a.find? (a.issue k a.slots[k].generation) = some w := by
    refine findExact.2 ⟨rfl, rfl, ?_⟩
    rw [← held]
    exact List.getElem?_eq_getElem within
  refine apart _ v _ v' (resolves inside here) (resolves inside' there) fun same => ?_
  have index := congrArg Handle.index same
  simp only [issue] at index
  omega

namespace Context

def endpointsOf (c : Context K) (h : Handle .node) : Nat :=
  (c.publishers.values.filter (·.node = h)).length + (c.subscriptions.values.filter (·.node = h)).length

def groupsOf (c : Context K) (h : Handle .node) : List InstanceHandle :=
  (c.publishers.values.filter (·.node = h)).map (·.publisher) ++
    (c.subscriptions.values.filter (·.node = h)).map (·.subscriber)

theorem groupsOfLength (c : Context K) (h : Handle .node) : (c.groupsOf h).length = c.endpointsOf h := by
  simp [groupsOf, endpointsOf]

theorem memGroupsOf {c : Context K} {h : Handle .node} {g : InstanceHandle} :
    g ∈ c.groupsOf h ↔ ∃ ref r, c.findEntry ref = some r ∧ r.node = h ∧ r.group = g := by
  simp only [groupsOf, List.mem_append, List.mem_map, List.mem_filter, decide_eq_true_eq,
    Arena.memValues]
  constructor
  · rintro (⟨r, ⟨⟨k, found⟩, own⟩, same⟩ | ⟨r, ⟨⟨k, found⟩, own⟩, same⟩)
    · exact ⟨.publisher k, r.entry, by simp only [findEntry, found, Option.map_some], own, same⟩
    · exact ⟨.subscription k, r.entry, by simp only [findEntry, found, Option.map_some], own, same⟩
  · rintro ⟨ref, r, held, own, same⟩
    cases ref with
    | publisher k =>
      obtain ⟨r, found, rfl⟩ := Option.map_eq_some_iff.1 held
      exact .inl ⟨r, ⟨⟨k, found⟩, own⟩, same⟩
    | subscription k =>
      obtain ⟨r, found, rfl⟩ := Option.map_eq_some_iff.1 held
      exact .inr ⟨r, ⟨⟨k, found⟩, own⟩, same⟩

theorem groupsOfNodup {c : Context K} (h : Handle .node)
    (sole : ∀ ref r ref' r', c.findEntry ref = some r → c.findEntry ref' = some r' → r.group = r'.group →
      ref = ref') : (c.groupsOf h).Nodup := by
  rw [groupsOf, List.nodup_append]
  refine ⟨?_, ?_, ?_⟩
  · refine List.Pairwise.map _ (fun _ _ other => other) (List.Pairwise.filter _ (Arena.valuesPairwise ?_))
    intro k r k' r' found found' other same
    refine other (EndpointRef.publisher.inj (sole _ r.entry _ r'.entry ?_ ?_ same)) <;>
      simp only [findEntry, found, found', Option.map_some]
  · refine List.Pairwise.map _ (fun _ _ other => other) (List.Pairwise.filter _ (Arena.valuesPairwise ?_))
    intro k r k' r' found found' other same
    refine other (EndpointRef.subscription.inj (sole _ r.entry _ r'.entry ?_ ?_ same)) <;>
      simp only [findEntry, found, found', Option.map_some]
  · intro g mem g' mem' same
    obtain ⟨r, held, own⟩ := List.mem_map.1 mem
    obtain ⟨r', held', own'⟩ := List.mem_map.1 mem'
    obtain ⟨k, found⟩ := Arena.memValues.1 (List.mem_filter.1 held).1
    obtain ⟨k', found'⟩ := Arena.memValues.1 (List.mem_filter.1 held').1
    refine absurd (sole (.publisher k) r.entry (.subscription k') r'.entry ?_ ?_ ?_) (by simp)
    · simp only [findEntry, found, Option.map_some]
    · simp only [findEntry, found', Option.map_some]
    · exact own.trans (same.trans own'.symm)

end Context

namespace Linked

variable {s : System K} {ctx : ContextId} {c : Context K}

theorem groupsPerm (h : Linked s.bus (.of s.contexts)) (known : s.contexts.get? ctx = some c)
    {k : Handle .node} {n : NodeRecord} (live : c.nodes.find? k = some n) {x : Participant}
    (found : s.bus.participants.get? n.participant = some x) (once : x.groups.Nodup) :
    (c.groupsOf k).Perm x.groups := by
  obtain ⟨-, nodes, entries⟩ := Directory.ofKnown known
  have node := (nodes k).trans live
  have sole : (c.groupsOf k).Nodup := by
    refine Context.groupsOfNodup k fun ref r ref' r' held held' same => ?_
    exact (h.soleGroup ((entries ref).trans held) ((entries ref').trans held') same).2
  rw [List.perm_ext_iff_of_nodup sole once]
  intro g
  rw [Context.memGroupsOf]
  constructor
  · rintro ⟨ref, r, held, rfl, rfl⟩
    obtain ⟨n', _, node', _, _, ownsEndpoint⟩ := h.ownsEndpoint ctx ref r ((entries ref).trans held)
    obtain ⟨x', found', _, mem⟩ := ownsEndpoint.listed
    cases Option.some.inj (node'.symm.trans node)
    cases Option.some.inj (found'.symm.trans found)
    exact mem
  · intro mem
    obtain ⟨ctx', ref, r, n', entry, group, node', same⟩ := h.listed _ x g found mem
    obtain ⟨rfl, rfl⟩ := h.apart _ _ _ _ _ _ node' node same
    exact ⟨ref, r, (entries ref).symm.trans entry, rfl, group⟩

theorem endpointsExact (h : Linked s.bus (.of s.contexts)) (known : s.contexts.get? ctx = some c)
    {k : Handle .node} {n : NodeRecord} (live : c.nodes.find? k = some n) :
    n.endpoints = c.endpointsOf k := by
  obtain ⟨x, found, _, once, count⟩ :=
    h.nodeAdded ctx k n (((Directory.ofKnown known).2.1 k).trans live)
  rw [← count, ← c.groupsOfLength, (h.groupsPerm known live found once).length_eq]

theorem nodeCounts (h : Linked s.bus (.of s.contexts)) (known : s.contexts.get? ctx = some c) {ref : EndpointRef}
    {r : EndpointEntry K} (held : c.findEntry ref = some r) :
    ∃ n, c.nodes.get r.node = .ok n ∧ 0 < n.endpoints := by
  obtain ⟨-, nodes, entries⟩ := Directory.ofKnown known
  obtain ⟨n, _, node, _⟩ := h.ownsEndpoint ctx ref r ((entries ref).trans held)
  have live := (nodes _).symm.trans node
  refine ⟨n, Arena.getExact.2 live, ?_⟩
  rw [h.endpointsExact known live, ← c.groupsOfLength]
  exact List.length_pos_of_mem (Context.memGroupsOf.2 ⟨ref, r, held, rfl, rfl⟩)

end Linked

/-! ### Destroying a node -/

theorem Site.destroyIdle {s : Site K} {h : Handle .node} {n : NodeRecord}
    (live : s.context.nodes.find? h = some n) (idle : n.endpoints = 0) :
    (s.destroyNode (some h)).2 = .ok () := by
  obtain ⟨nodes, gone⟩ := Arena.removeRuns live
  have free : ¬0 < n.endpoints := by omega
  simp only [destroyNode, Handle.require, node, Arena.getExact.2 live, if_neg free, gone]

theorem Site.destroyBusy {s : Site K} {h : Handle .node} {n : NodeRecord}
    (live : s.context.nodes.find? h = some n) (busy : 0 < n.endpoints) :
    s.destroyNode (some h) = (s, .error (endpointsLeft n)) := by
  simp only [destroyNode, Handle.require, node, Arena.getExact.2 live, if_pos busy]

structure Counted (s : System K) : Prop where
  exact : ∀ ctx c h n, s.contexts.get? ctx = some c → c.nodes.find? h = some n →
    n.endpoints = c.endpointsOf h
  publishers : ∀ ctx c h r, s.contexts.get? ctx = some c → c.publishers.find? h = some r →
    ∃ n, c.nodes.get r.node = .ok n ∧ 0 < n.endpoints
  subscriptions : ∀ ctx c h r, s.contexts.get? ctx = some c → c.subscriptions.find? h = some r →
    ∃ n, c.nodes.get r.node = .ok n ∧ 0 < n.endpoints
  destroyed : ∀ ctx c h n, s.contexts.get? ctx = some c → c.nodes.find? h = some n →
    ((s.destroyNode ctx (some h)).2 = .ok () ↔ c.endpointsOf h = 0)
  refused : ∀ ctx c h n, s.contexts.get? ctx = some c → c.nodes.find? h = some n →
    c.endpointsOf h ≠ 0 → s.destroyNode ctx (some h) =
      (s.setError s!"destroy_node: {(Site.endpointsLeft n).message}", .error (Site.endpointsLeft n))

theorem linkedCounted {s : System K} (h : Linked s.bus (.of s.contexts)) : Counted s := by
  have busy {ctx : ContextId} {c : Context K} {k : Handle .node} {n : NodeRecord}
      (known : s.contexts.get? ctx = some c) (live : c.nodes.find? k = some n)
      (some : c.endpointsOf k ≠ 0) : s.destroyNode ctx (.some k) =
        (s.setError s!"destroy_node: {(Site.endpointsLeft n).message}", .error (Site.endpointsLeft n)) := by
    have counted : 0 < n.endpoints := by
      have exact := h.endpointsExact known live
      omega
    exact System.performRefused known (Site.destroyBusy live counted)
  refine ⟨fun ctx c k n known live => h.endpointsExact known live, fun ctx c k r known found => ?_,
    fun ctx c k r known found => ?_, fun ctx c k n known live => ⟨fun ok => ?_, fun none => ?_⟩,
    fun ctx c k n => busy⟩
  · have held : c.findEntry (.publisher k) = some r.entry := by simp [Context.findEntry, found]
    exact h.nodeCounts known held
  · have held : c.findEntry (.subscription k) = some r.entry := by simp [Context.findEntry, found]
    exact h.nodeCounts known held
  · by_cases none : c.endpointsOf k = 0
    · exact none
    · have refused := congrArg Prod.snd (busy known live none)
      cases refused.symm.trans ok
  · have idle := Site.destroyIdle (s := ⟨s.bus, s.observed, c⟩) live
      ((h.endpointsExact known live).trans none)
    simp only [System.destroyNode, System.perform, known, System.report, idle]

/-- After any calls, granted or refused, every live node's count is that of its live records. -/
theorem endpointsCounted [Catalog K] [DecidableEq K] (calls : List (Call K)) :
    Counted (({} : System K).serveAll calls) :=
  linkedCounted (Linked.serveAll System.soundFresh .fresh calls)

end Databus.Middleware
