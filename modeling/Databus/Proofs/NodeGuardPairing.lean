import Databus.Proofs.DestructionFrame

/-! Every node has one guard, and every guard that is of a node is the one of its node. The two tables of a context are
as large as that says, and a node that could not be made leaves no half of the pair behind. -/
namespace Databus.Middleware

variable {K : Type}

namespace Arena

variable {kind : Kind} {α : Type} {a : Arena kind α}

def entries (a : Arena kind α) : List (Handle kind × α) :=
  a.slots.zipIdx.filterMap fun e => e.1.value.map (a.issue e.2 e.1.generation, ·)

theorem memEntries {h : Handle kind} {v : α} : (h, v) ∈ a.entries ↔ a.find? h = some v := by
  rw [entries, List.mem_filterMap, findExact]
  constructor
  · rintro ⟨⟨⟨generation, value⟩, i⟩, mem, held⟩
    obtain ⟨v', rfl, same⟩ := Option.map_eq_some_iff.1 held
    cases same
    exact ⟨rfl, rfl, List.mem_zipIdx_iff_getElem?.1 mem⟩
  · obtain ⟨implementation, context, index, generation⟩ := h
    rintro ⟨rfl, rfl, there⟩
    exact ⟨(⟨generation, some v⟩, index), List.mem_zipIdx_iff_getElem?.2 there, rfl⟩

theorem entriesOnce (a : Arena kind α) : (a.entries.map (·.1)).Nodup := by
  have indices : a.slots.zipIdx.Pairwise fun e e' => e.2 ≠ e'.2 := by
    refine List.pairwise_map.1 ?_
    rw [List.zipIdx_map_snd]
    exact List.nodup_range'
  refine List.pairwise_map.2 (List.pairwise_filterMap.2 (indices.imp fun apart x held x' held' same => apart ?_))
  obtain ⟨_, _, rfl⟩ := Option.map_eq_some_iff.1 held
  obtain ⟨_, _, rfl⟩ := Option.map_eq_some_iff.1 held'
  exact congrArg Handle.index same

theorem entriesValues (a : Arena kind α) : a.entries.map (·.2) = a.values := by
  have values : a.values = a.slots.zipIdx.filterMap fun e => e.1.value := by
    rw [Arena.values, ← List.zipIdx_map_fst 0 a.slots, List.filterMap_map, List.zipIdx_map_fst]
    rfl
  rw [values, entries, List.map_filterMap]
  congr 1
  funext e
  rw [Option.map_map]
  exact Option.map_id_apply ..

theorem Kept.entries {count : Nat → Nat} (kept : a.Kept count) : a.live = a.entries.length := by
  rw [kept.live, occupied, ← List.length_map (·.2), entriesValues, values, List.length_filterMap_eq_countP]

theorem Kept.modify {count : Nat → Nat} (kept : a.Kept count) (h : Handle kind) (f : α → α) :
    (a.modify h f).Kept count := by
  unfold Arena.modify
  split
  · rename_i v found
    have there := (findExact.1 found).2.2
    have slots := fun i => slotsSet there ⟨h.generation, some (f v)⟩ i
    have counted := occupiedSet there ⟨h.generation, some (f v)⟩
    refine ⟨?_, kept.bounded, fun i => ?_, kept.once, fun i slot there' => ?_, fun i beyond => ?_⟩
    · exact kept.live.trans (Nat.add_right_cancel counted).symm
    · rw [put, slots]
      refine (kept.free i).trans ?_
      split
      · rename_i here
        simp [here, there]
      · exact .rfl
    · rw [put, slots] at there'
      split at there'
      · rename_i here
        cases Option.some.inj there'
        rw [here]
        exact (kept.generation h.index _ there :)
      · exact kept.generation i slot there'
    · exact kept.unused i (by simpa [put] using beyond)
  · exact kept

end Arena

namespace Context

/-! ### Nodes and their guards -/

structure GuardsPaired (c : Context K) : Prop where
  guardsListed : c.GuardsListed
  attended : ∀ h n, c.nodes.find? h = some n → ∃ g, (h, g) ∈ c.graphGuards
  once : (c.graphGuards.map (·.1)).Nodup
  nodes : ∃ count, c.nodes.Kept count
  guards : ∃ count, c.guards.Kept count

theorem releasedFewer {s : Site K} (k : Handle .node) :
    (s.removeGraphGuard k).graphGuards.Sublist s.context.graphGuards := by
  unfold Site.removeGraphGuard
  split
  · exact .refl _
  · dsimp only
    split <;> exact List.filter_sublist

theorem releasedKept {s : Site K} (k : Handle .node) (kept : ∃ count, s.context.guards.Kept count) :
    ∃ count, (s.removeGraphGuard k).guards.Kept count := by
  unfold Site.removeGraphGuard
  split
  · exact kept
  · dsimp only
    split
    · rename_i removed
      obtain ⟨count, kept⟩ := kept
      exact ⟨_, kept.remove removed⟩
    · exact kept

namespace GuardsPaired

variable {c c' : Context K}

theorem empty (id : ContextId) (settings : Settings) : (Context.empty id settings : Context K).GuardsPaired where
  guardsListed := .empty id settings
  attended h n found := by
    have none : (Context.empty id settings : Context K).nodes.find? h = none := Arena.findNone fun _ _ there => by
      simp [Context.empty] at there
    cases none.symm.trans found
  once := List.nodup_nil
  nodes := ⟨_, Arena.keptEmpty id settings.maxHandles⟩
  guards := ⟨_, Arena.keptEmpty id settings.maxHandles⟩

theorem settled (h : c.GuardsPaired) (guardsListed : c'.GuardsListed)
    (older : ∀ k n, c'.nodes.find? k = some n → ∃ n', c.nodes.find? k = some n')
    (nodes : ∃ count, c'.nodes.Kept count) (guards : ∃ count, c'.guards.Kept count)
    (graphGuards : c'.graphGuards = c.graphGuards) : c'.GuardsPaired where
  guardsListed := guardsListed
  attended k n found := by
    obtain ⟨n', before⟩ := older k n found
    exact graphGuards ▸ h.attended k n' before
  once := graphGuards ▸ h.once
  nodes := nodes
  guards := guards

theorem count (h : c.GuardsPaired) (sound : c.Sound) (k : Handle .node) (f : Nat → Nat) (guardsListed : c'.GuardsListed)
    (nodes : c'.nodes = (Site.countEndpoint c k f).nodes) (guards : c'.guards = c.guards)
    (graphGuards : c'.graphGuards = c.graphGuards) : c'.GuardsPaired := by
  have kept : ∃ count, c'.nodes.Kept count := by
    obtain ⟨_, kept⟩ := h.nodes
    rw [nodes]
    exact ⟨_, kept.modify k _⟩
  refine h.settled guardsListed (fun k' n found => ?_) kept (guards ▸ h.guards) graphGuards
  rw [nodes, countNodes sound] at found
  split at found
  · rename_i own
    obtain ⟨n', before, _⟩ := Option.map_eq_some_iff.1 found
    exact ⟨n', own ▸ before⟩
  · exact ⟨n, found⟩

theorem edit (h : c.GuardsPaired) (sound : c.Sound) (edits : c.Edits c') : c'.GuardsPaired := by
  have guardsListed := h.guardsListed.edit sound edits
  obtain ⟨_, nodesKept⟩ := h.nodes
  obtain ⟨_, guardsKept⟩ := h.guards
  cases edits with
  | same => exact h
  | @nodeAdded n k nodes g guards inserted guarded =>
    obtain ⟨_, _, vacant, node⟩ := Arena.insertFind sound.nodes inserted
    refine ⟨guardsListed, fun k' n' found => ?_, ?_, ⟨_, nodesKept.insert inserted⟩, ⟨_, guardsKept.insert guarded⟩⟩
    · simp only [node] at found
      split at found
      · rename_i own
        exact ⟨g, own ▸ List.mem_cons_self⟩
      · exact (h.attended k' n' found).imp fun _ => List.mem_cons_of_mem _
    · refine List.nodup_cons.2 ⟨fun mem => ?_, h.once⟩
      obtain ⟨⟨_, g'⟩, listed, rfl⟩ := List.mem_map.1 mem
      obtain ⟨_, there, _⟩ := h.guardsListed.listed _ g' listed
      exact nomatch vacant.symm.trans there
  | @unlodged n n' k nodes nodes' inserted removed =>
    obtain ⟨sound', _, vacant, node⟩ := Arena.insertFind sound.nodes inserted
    obtain ⟨_, _, _, node'⟩ := Arena.removeFind sound' removed
    refine h.settled guardsListed (fun k' m found => ?_) ⟨_, (nodesKept.insert inserted).remove removed⟩ ⟨_, guardsKept⟩
      rfl
    simp only [node', node] at found
    split at found
    · cases found
    · exact ⟨m, found⟩
  | @parted s k n nodes own removed =>
    subst own
    obtain ⟨_, _, _, listed⟩ := GuardsListed.released sound h.guardsListed k
    obtain ⟨_, _, _, node⟩ := Arena.removeFind sound.nodes removed
    refine ⟨guardsListed, fun k' n' found => ?_, h.once.sublist ((releasedFewer k).map _),
      ⟨_, nodesKept.remove removed⟩, releasedKept k h.guards⟩
    simp only [node] at found
    split at found
    · cases found
    · rename_i other
      exact (h.attended k' n' found).imp fun g mem => (listed (k', g)).2 ⟨mem, other⟩
  | guarded inserted =>
    exact h.settled guardsListed (fun _ n found => ⟨n, found⟩) ⟨_, nodesKept⟩ ⟨_, guardsKept.insert inserted⟩ rfl
  | unguarded own removed =>
    exact h.settled guardsListed (fun _ n found => ⟨n, found⟩) ⟨_, nodesKept⟩ ⟨_, guardsKept.remove removed⟩ rfl
  | @published _ r | @subscribed _ r => exact h.count sound r.node (· + 1) guardsListed rfl rfl rfl
  | @unpublished _ r | @unsubscribed _ r => exact h.count sound r.node (· - 1) guardsListed rfl rfl rfl

/-! ### How many there are -/

theorem nodesListed (h : c.GuardsPaired) : c.nodes.live = c.graphGuards.length := by
  obtain ⟨_, kept⟩ := h.nodes
  -- neither list repeats itself, and each node stands in both
  have same : (c.nodes.entries.map (·.1)).Perm (c.graphGuards.map (·.1)) := by
    rw [List.perm_ext_iff_of_nodup c.nodes.entriesOnce h.once]
    intro k
    simp only [List.mem_map, Prod.exists, exists_and_right, exists_eq_right, Arena.memEntries]
    constructor
    · rintro ⟨n, found⟩
      exact h.attended k n found
    · rintro ⟨g, mem⟩
      obtain ⟨n, found, _⟩ := h.guardsListed.listed k g mem
      exact ⟨n, found⟩
  rw [kept.entries, ← List.length_map (·.1), same.length_eq, List.length_map]

theorem guardsOnce (h : c.GuardsPaired) : (c.graphGuards.map (·.2)).Nodup := by
  refine List.pairwise_map.2 ((List.pairwise_map.1 h.once).imp_of_mem fun {e e'} mem mem' apart same => apart ?_)
  obtain ⟨_, _, guard⟩ := h.guardsListed.listed e.1 e.2 mem
  obtain ⟨_, _, guard'⟩ := h.guardsListed.listed e'.1 e'.2 mem'
  rw [same, guard'] at guard
  exact (GuardOwner.node.inj (congrArg GuardRecord.owner (Option.some.inj guard))).symm

theorem nodeGuardsCount (h : c.GuardsPaired) :
    (c.guards.values.filter fun g => g.owner ≠ .caller).length = c.graphGuards.length := by
  have same : ((c.guards.entries.filter fun e => e.2.owner ≠ .caller).map (·.1)).Perm (c.graphGuards.map (·.2)) := by
    rw [List.perm_ext_iff_of_nodup (c.guards.entriesOnce.sublist (List.filter_sublist.map _)) h.guardsOnce]
    intro g
    simp only [List.mem_map, List.mem_filter, decide_eq_true_eq, Prod.exists, exists_and_right, exists_eq_right,
      Arena.memEntries]
    constructor
    · rintro ⟨⟨condition, owner⟩, found, own⟩
      cases owner with
      | caller => exact absurd rfl own
      | node k => exact ⟨k, h.guardsListed.owned g condition k found⟩
    · rintro ⟨k, mem⟩
      obtain ⟨n, _, found⟩ := h.guardsListed.listed k g mem
      exact ⟨_, found, GuardOwner.noConfusion⟩
  have size := same.length_eq
  rw [List.length_map, List.length_map] at size
  rw [← c.guards.entriesValues, List.filter_map, List.length_map]
  exact size

theorem guardsLive (h : c.GuardsPaired) :
    c.guards.live = c.nodes.live + (c.guards.values.filter fun g => g.owner = .caller).length := by
  obtain ⟨_, kept⟩ := h.guards
  have others := h.nodeGuardsCount
  simp only [ne_eq, decide_not, ← List.countP_eq_length_filter] at others ⊢
  rw [kept.entries, ← List.length_map (·.2), c.guards.entriesValues, h.nodesListed, ← others, Nat.add_comm,
    List.length_eq_countP_add_countP fun g => decide (g.owner = .caller)]
  simp

end GuardsPaired
end Context

/-! ### Calls on guards -/

namespace Site

variable {s : Site K} {k : Handle .node} {g : Handle .guardCondition}

theorem graphGuardListed (guardsListed : s.context.GuardsListed) :
    s.graphGuard? k = some g ↔ (k, g) ∈ s.context.graphGuards := by
  rw [graphGuard?, Option.map_eq_some_iff]
  constructor
  · rintro ⟨⟨k', g'⟩, first, rfl⟩
    obtain rfl : k' = k := by simpa using List.find?_some first
    exact List.mem_of_find?_eq_some first
  · intro mem
    obtain ⟨⟨k', g'⟩, first⟩ := Option.isSome_iff_exists.1
      (List.find?_isSome.2 ⟨_, mem, decide_eq_true rfl⟩ : (s.context.graphGuards.find? (·.1 = k)).isSome)
    obtain rfl : k' = k := by simpa using List.find?_some first
    exact ⟨_, first, guardsListed.sole k' g' g (List.mem_of_find?_eq_some first) mem⟩

theorem graphGuardTold (guardsListed : s.context.GuardsListed) :
    (s.graphGuard k).2 = .ok g ↔ (k, g) ∈ s.context.graphGuards := by
  rw [← graphGuardListed guardsListed, graphGuard, node]
  cases got : s.context.nodes.get k with
  | error f =>
    constructor
    · intro told
      cases told
    · intro listed
      obtain ⟨n, found, _⟩ := guardsListed.listed k g ((graphGuardListed guardsListed).1 listed)
      cases got.symm.trans (Arena.getExact.2 found)
  | ok n =>
    dsimp only
    cases s.graphGuard? k <;> simp

theorem destroyGuardSpares (sound : s.context.Sound) (guardsListed : s.context.GuardsListed)
    (target : Option (Handle .guardCondition)) :
    (s.destroyGuard target).1.context.nodes = s.context.nodes ∧
      (s.destroyGuard target).1.context.graphGuards = s.context.graphGuards ∧
      ∀ e ∈ s.context.graphGuards, (s.destroyGuard target).1.context.guards.get e.2 = s.context.guards.get e.2 := by
  unfold destroyGuard
  split
  · exact ⟨rfl, rfl, fun _ _ => rfl⟩
  · split
    · exact ⟨rfl, rfl, fun _ _ => rfl⟩
    · exact ⟨rfl, rfl, fun _ _ => rfl⟩
    · rename_i got
      split
      · exact ⟨rfl, rfl, fun _ _ => rfl⟩
      · rename_i removed
        refine ⟨rfl, rfl, fun e mem => (Arena.removeGet sound.guards removed).2 e.2 fun own => ?_⟩
        obtain ⟨_, _, guard⟩ := guardsListed.listed e.1 e.2 mem
        rw [own, Arena.getExact.1 got] at guard
        cases guard

theorem destroyGuardReserved (guardsListed : s.context.GuardsListed) (mem : (k, g) ∈ s.context.graphGuards) :
    ∃ text, (s.destroyGuard (some g)).2 = .error (.invalidArgument text) := by
  obtain ⟨n, _, guard⟩ := guardsListed.listed k g mem
  simp only [destroyGuard, Handle.require, Arena.getExact.2 guard]
  exact ⟨_, rfl⟩

theorem releasedWorn (guardsListed : s.context.GuardsListed) (mem : (k, g) ∈ s.context.graphGuards) :
    (s.removeGraphGuard k).guards.age g.index = some (g.generation + 1) := by
  obtain ⟨n, _, guard⟩ := guardsListed.listed k g mem
  obtain ⟨guards, removed⟩ := Arena.removeRuns guard
  simp only [removeGraphGuard, (graphGuardListed guardsListed).2 mem, removed]
  exact (Arena.removeSlotsAge removed).2

theorem insertExhausted {kind : Kind} {α : Type} {a : Arena kind α} {v : α} {f : Failure}
    (failed : a.insert v = .error f) : ∃ text, f = .resourceExhausted text := by
  unfold Arena.insert at failed
  split at failed
  · exact ⟨_, (Except.error.inj failed).symm⟩
  · split at failed
    · cases failed
    · split at failed
      · exact ⟨_, (Except.error.inj failed).symm⟩
      · cases failed

theorem createNodeFull {name : String} (named : name ≠ "")
    (full : s.context.nodes.live = s.context.nodes.capacity ∨ s.context.guards.live = s.context.guards.capacity) :
    ∃ text, (s.createNode name).2 = .error (.resourceExhausted text) := by
  unfold createNode
  rw [if_neg named]
  split
  · exact ⟨_, rfl⟩
  · rename_i n b joined
    split
    · rename_i f failed
      exact (insertExhausted failed).imp fun text exhausted => congrArg Except.error exhausted
    · rename_i h nodes inserted
      rcases full with nodesFull | guardsFull
      · cases (Arena.insertFull nodesFull n).symm.trans inserted
      · rw [Arena.insertFull guardsFull]
        exact ⟨_, rfl⟩

end Site

namespace System

variable {s : System K}

def GuardsPaired (s : System K) : Prop := ∀ ctx c, s.contexts.get? ctx = some c → c.GuardsPaired

theorem guardsPairedFresh : ({} : System K).GuardsPaired := fun _ _ known => nomatch known

variable [Catalog K] [DecidableEq K]

theorem GuardsPaired.serve (h : s.GuardsPaired) (sound : s.Sound) (call : Call K) : (s.serve call).GuardsPaired :=
  (serveEdited sound call).keeps (fun settings => .empty _ settings)
    (fun ctx c _ known edits guardsPaired => guardsPaired.edit (sound.tables ctx c known) edits) h

theorem GuardsPaired.serveAll (h : s.GuardsPaired) (sound : s.Sound) (calls : List (Call K)) :
    (s.serveAll calls).GuardsPaired := by
  induction calls generalizing s with
  | nil => exact h
  | cons call rest ih => exact ih (h.serve sound call) (serveSound sound call)

end System

/-! ### Pairs -/

structure Context.NodeGuards (c : Context K) : Prop where
  node : ∀ h n, c.nodes.get h = .ok n → ∃ g, (h, g) ∈ c.graphGuards ∧ ∀ g', (h, g') ∈ c.graphGuards → g' = g
  entry : ∀ h g, (h, g) ∈ c.graphGuards → ∃ n, c.nodes.get h = .ok n ∧ c.guards.get g = .ok ⟨n.guard, .node h⟩
  once : (c.graphGuards.map (·.1)).Nodup
  owned : ∀ g k h, c.guards.get g = .ok ⟨k, .node h⟩ → (h, g) ∈ c.graphGuards
  nodes : c.nodes.live = c.nodes.values.length
  guards : c.guards.live = c.guards.values.length
  live : c.guards.live = c.nodes.live + (c.guards.values.filter fun g => g.owner = .caller).length

theorem Context.GuardsPaired.nodeGuards {c : Context K} (h : c.GuardsPaired) : c.NodeGuards where
  node k n got := by
    obtain ⟨g, mem⟩ := h.attended k n (Arena.getExact.1 got)
    exact ⟨g, mem, fun g' mem' => h.guardsListed.sole k g' g mem' mem⟩
  entry k g mem := by
    obtain ⟨n, found, guard⟩ := h.guardsListed.listed k g mem
    exact ⟨n, Arena.getExact.2 found, Arena.getExact.2 guard⟩
  once := h.once
  owned g κ k got := h.guardsListed.owned g κ k (Arena.getExact.1 got)
  nodes := by
    obtain ⟨_, kept⟩ := h.nodes
    rw [kept.entries, ← Arena.entriesValues, List.length_map]
  guards := by
    obtain ⟨_, kept⟩ := h.guards
    rw [kept.entries, ← Arena.entriesValues, List.length_map]
  live := h.guardsLive

variable [Catalog K] [DecidableEq K]

structure System.NodeGuards (s : System K) : Prop where
  contexts : ∀ ctx c, s.contexts.get? ctx = some c → c.NodeGuards
  told : ∀ ctx h g, (s.graphGuard ctx h).2 = .ok g ↔ ∃ c, s.contexts.get? ctx = some c ∧ (h, g) ∈ c.graphGuards
  granted : ∀ ctx h, (∃ g, (s.graphGuard ctx h).2 = .ok g) ↔
    ∃ c n, s.contexts.get? ctx = some c ∧ c.nodes.get h = .ok n
  reserved : ∀ ctx c h g, s.contexts.get? ctx = some c → (h, g) ∈ c.graphGuards →
    ∃ text, s.refusal (.destroyGuard ctx (some g)) = some (.invalidArgument text)
  spared : ∀ ctx target ctx' c, s.contexts.get? ctx' = some c →
    ∃ c', (s.serve (.destroyGuard ctx target)).contexts.get? ctx' = some c' ∧ c'.nodes = c.nodes ∧
      c'.graphGuards = c.graphGuards ∧ ∀ e ∈ c.graphGuards, c'.guards.get e.2 = c.guards.get e.2
  -- the handle of its guard has gone with a node, unless the slot has since been emptied through all generations
  stale : ∀ ctx c h g, s.contexts.get? ctx = some c → (h, g) ∈ c.graphGuards →
    s.refusal (.destroyNode ctx (some h)) = none → ∀ later,
    ¬ UInt32.size ∣ 1 + (s.serve (.destroyNode ctx (some h))).removals (.guard g) later → ∀ ctx' c',
    ((s.serve (.destroyNode ctx (some h))).serveAll later).contexts.get? ctx' = some c' →
      ∃ text, c'.guards.get g = .error (.invalidArgument text)
  full : ∀ ctx c name, s.contexts.get? ctx = some c → name ≠ "" →
    c.nodes.live = c.nodes.capacity ∨ c.guards.live = c.guards.capacity →
      ∃ text, s.refusal (.createNode ctx name) = some (.resourceExhausted text)
  undone : ∀ ctx name f, s.refusal (.createNode ctx name) = some f →
    s.bus.Restored (s.serve (.createNode ctx name)).bus ∧ ∀ ctx',
      Option.Rel Context.Stands (s.contexts.get? ctx') ((s.serve (.createNode ctx name)).contexts.get? ctx')

namespace System

variable {s : System K} {ctx : ContextId} {c : Context K} {k : Handle .node} {g : Handle .guardCondition}

omit [Catalog K] [DecidableEq K] in
theorem GuardsPaired.told (h : s.GuardsPaired) :
    (s.graphGuard ctx k).2 = .ok g ↔ ∃ c, s.contexts.get? ctx = some c ∧ (k, g) ∈ c.graphGuards := by
  rcases performSplit s ctx "node_graph_guard_condition" (Site.graphGuard · k) with
    ⟨unknown, _, _, none⟩ | ⟨c, known, _, _, answer⟩
  · rw [unknown]
    refine ⟨fun ok => ?_, fun ⟨_, there, _⟩ => nomatch there⟩
    rw [← graphGuard, ok] at none
    cases none
  · have told := Site.graphGuardTold (s := ⟨s.bus, s.observed, c⟩) (k := k) (g := g) (h ctx c known).guardsListed
    rw [graphGuard, answer, told, known]
    exact ⟨fun mem => ⟨c, rfl, mem⟩, fun ⟨_, same, mem⟩ => Option.some.inj same ▸ mem⟩

theorem GuardsPaired.spared (h : s.GuardsPaired) (sound : s.Sound) (target : Option (Handle .guardCondition))
    {ctx' : ContextId} (known : s.contexts.get? ctx' = some c) :
    ∃ c', (s.serve (.destroyGuard ctx target)).contexts.get? ctx' = some c' ∧ c'.nodes = c.nodes ∧
      c'.graphGuards = c.graphGuards ∧ ∀ e ∈ c.graphGuards, c'.guards.get e.2 = c.guards.get e.2 := by
  rcases performSplit s ctx "destroy_guard_condition" (Site.destroyGuard · target) with
    ⟨_, _, contexts, _⟩ | ⟨c', known', _, contexts, _⟩
  · exact ⟨c, (congrArg (·.get? ctx') contexts).trans known, rfl, rfl, fun _ _ => rfl⟩
  · have after : (s.serve (.destroyGuard ctx target)).contexts.get? ctx' = _ := congrArg (·.get? ctx') contexts
    rw [Table.getInsert] at after
    split at after
    · rename_i own
      subst own
      cases Option.some.inj (known.symm.trans known')
      exact ⟨_, after, Site.destroyGuardSpares (s := ⟨s.bus, s.observed, c⟩) (sound.tables ctx' c known)
        (h ctx' c known).guardsListed target⟩
    · exact ⟨c, after.trans known, rfl, rfl, fun _ _ => rfl⟩

theorem guardRetired (sound : s.Sound) (placed : s.Placed) (guardsListed : s.GuardsListed)
    (known : s.contexts.get? ctx = some c) (mem : (k, g) ∈ c.graphGuards)
    (granted : s.refusal (.destroyNode ctx (some k)) = none) :
    (s.serve (.destroyNode ctx (some k))).Retired (.guard g) 1 := by
  obtain ⟨c', site, drops⟩ := destroyDrops (d := .node k) granted
  cases Option.some.inj (known.symm.trans drops.known)
  have after := (drops.context ctx).trans (if_pos rfl)
  obtain ⟨_, _, guard⟩ := (guardsListed ctx c known).listed k g mem
  have own : g.context = ctx := (Arena.findExact.1 guard).2.1.trans (placed ctx c known).guards
  have opened := (serveSound sound (.destroyNode ctx (some k))).opened ctx site.context after
  subst own
  refine ⟨placed.serve sound _, opened, fun c' known' => ?_⟩
  cases Option.some.inj (known'.symm.trans after)
  cases drops.destroys with
  | node idle removed => exact Site.releasedWorn (s := ⟨s.bus, s.observed, c⟩) (guardsListed _ c known) mem

theorem Retired.stale {s' : System K} (retired : s'.Retired (.guard g) 1) (sound : s'.Sound)
    (own : g.implementation = implementationIdentifier) (later : List (Call K))
    (turning : ¬ UInt32.size ∣ 1 + s'.removals (.guard g) later) {ctx' : ContextId} {c' : Context K}
    (known : (s'.serveAll later).contexts.get? ctx' = some c') :
    ∃ text, c'.guards.get g = .error (.invalidArgument text) :=
  Arena.getMissing own ((retired.serveAll sound later).lacks turning known)

theorem SystemInvariant.nodeGuards (h : s.SystemInvariant) (placed : s.Placed) (guardsPaired : s.GuardsPaired) :
    s.NodeGuards where
  contexts ctx c known := (guardsPaired ctx c known).nodeGuards
  told ctx k g := guardsPaired.told
  granted ctx k := by
    constructor
    · rintro ⟨g, told⟩
      obtain ⟨c, known, mem⟩ := guardsPaired.told.1 told
      obtain ⟨n, found, _⟩ := (guardsPaired ctx c known).guardsListed.listed k g mem
      exact ⟨c, n, known, Arena.getExact.2 found⟩
    · rintro ⟨c, n, known, got⟩
      obtain ⟨g, mem⟩ := (guardsPaired ctx c known).attended k n (Arena.getExact.1 got)
      exact ⟨g, guardsPaired.told.2 ⟨c, known, mem⟩⟩
  reserved ctx c k g known mem := by
    obtain ⟨text, refused⟩ :=
      Site.destroyGuardReserved (s := ⟨s.bus, s.observed, c⟩) (guardsPaired ctx c known).guardsListed mem
    exact ⟨text, refusedExact.2 ((performAnswer _ known).trans refused)⟩
  spared ctx target ctx' c known := guardsPaired.spared h.sound target known
  stale ctx c k g known mem granted later turning ctx' c' known' := by
    have guardsListed : s.GuardsListed := fun ctx c known => (guardsPaired ctx c known).guardsListed
    obtain ⟨_, _, guard⟩ := (guardsListed ctx c known).listed k g mem
    exact (guardRetired h.sound placed guardsListed known mem granted).stale (serveSound h.sound _)
      (Arena.findExact.1 guard).1 later turning known'
  full ctx c name known named full := by
    obtain ⟨text, refused⟩ := Site.createNodeFull (s := ⟨s.bus, s.observed, c⟩) named full
    exact ⟨text, refusedExact.2 ((performAnswer _ known).trans refused)⟩
  undone ctx name f failed := by
    have reverts := reverts h failed
    exact ⟨reverts.domains, reverts.contexts⟩

end System

/-- After any calls, nodes and their guards are paired. -/
theorem nodeGuardsPaired (calls : List (Call K)) : (({} : System K).serveAll calls).NodeGuards :=
  (System.SystemInvariant.fresh.serveAll calls).nodeGuards (System.placedFresh.serveAll System.soundFresh calls)
    (System.guardsPairedFresh.serveAll System.soundFresh calls)

end Databus.Middleware
