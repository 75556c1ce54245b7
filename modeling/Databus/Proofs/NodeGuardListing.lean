import Databus.Proofs.ContextEdits

/-! The guard of a node stands under one handle, which is listed for the node. It comes with the node, is raised for the
node's graph, and goes with the node. -/
namespace Databus.Middleware

variable {K : Type}

namespace Context

structure GuardsListed (c : Context K) : Prop where
  listed : ∀ h g, (h, g) ∈ c.graphGuards →
    ∃ n, c.nodes.find? h = some n ∧ c.guards.find? g = some ⟨n.guard, .node h⟩
  owned : ∀ g k h, c.guards.find? g = some ⟨k, .node h⟩ → (h, g) ∈ c.graphGuards
  sole : ∀ h g g', (h, g) ∈ c.graphGuards → (h, g') ∈ c.graphGuards → g = g'

namespace GuardsListed

variable {c c' : Context K}

theorem empty (id : ContextId) (settings : Settings) : (Context.empty id settings : Context K).GuardsListed where
  listed _ _ mem := nomatch mem
  owned g _ _ found := by
    have none : (Context.empty id settings : Context K).guards.find? g = none := Arena.findNone fun _ _ there => by
      simp [Context.empty] at there
    exact nomatch none.symm.trans found
  sole _ _ _ mem := nomatch mem

theorem count (h : c.GuardsListed) (sound : c.Sound) (k : Handle .node) (f : Nat → Nat)
    (nodes : c'.nodes = (Site.countEndpoint c k f).nodes) (guards : c'.guards = c.guards)
    (graphGuards : c'.graphGuards = c.graphGuards) : c'.GuardsListed where
  listed k' g mem := by
    obtain ⟨n, found, guard⟩ := h.listed k' g (graphGuards ▸ mem)
    rw [nodes, guards, countNodes sound, found]
    split
    · exact ⟨_, rfl, guard⟩
    · exact ⟨n, rfl, guard⟩
  owned g k' k'' found := graphGuards ▸ h.owned g k' k'' (guards ▸ found)
  sole k' g g' mem mem' := h.sole k' g g' (graphGuards ▸ mem) (graphGuards ▸ mem')

theorem others (h : c.GuardsListed) (nodes : ∀ k, c'.nodes.find? k = c.nodes.find? k)
    (guards : ∀ g k n, c'.guards.find? g = some ⟨k, .node n⟩ ↔ c.guards.find? g = some ⟨k, .node n⟩)
    (graphGuards : c'.graphGuards = c.graphGuards) : c'.GuardsListed where
  listed k g mem := by
    obtain ⟨n, found, guard⟩ := h.listed k g (graphGuards ▸ mem)
    exact ⟨n, (nodes k).trans found, (guards g _ k).2 guard⟩
  owned g k n found := graphGuards ▸ h.owned g k n ((guards g k n).1 found)
  sole k g g' mem mem' := h.sole k g g' (graphGuards ▸ mem) (graphGuards ▸ mem')

theorem lodge (h : c.GuardsListed) (sound : c.Sound) {n : NodeRecord} {k : Handle .node}
    {nodes : Arena .node NodeRecord} {g : Handle .guardCondition} {guards : Arena .guardCondition GuardRecord}
    (inserted : c.nodes.insert n = .ok (k, nodes)) (guarded : c.guards.insert ⟨n.guard, .node k⟩ = .ok (g, guards)) :
    GuardsListed { c with nodes := nodes, guards := guards, graphGuards := (k, g) :: c.graphGuards } := by
  obtain ⟨_, _, vacant, node⟩ := Arena.insertFind sound.nodes inserted
  obtain ⟨_, _, vacant', guard⟩ := Arena.insertFind sound.guards guarded
  have newer {k' : Handle .node} {g' : Handle .guardCondition} (mem : (k', g') ∈ c.graphGuards) : k' ≠ k ∧ g' ≠ g := by
    obtain ⟨n', found, found'⟩ := h.listed k' g' mem
    refine ⟨?_, ?_⟩ <;> rintro rfl
    · cases vacant.symm.trans found
    · cases vacant'.symm.trans found'
  refine ⟨fun k' g' mem => ?_, fun g' κ k' found => ?_, fun k' g' g'' mem mem' => ?_⟩
  · rcases List.mem_cons.1 mem with own | old
    · cases own
      exact ⟨n, (node k).trans (if_pos rfl), (guard g).trans (if_pos rfl)⟩
    · obtain ⟨n', found, found'⟩ := h.listed k' g' old
      exact ⟨n', (node k').trans ((if_neg (newer old).1).trans found),
        (guard g').trans ((if_neg (newer old).2).trans found')⟩
  · simp only [guard] at found
    split at found
    · rename_i own
      cases Option.some.inj found
      exact own ▸ List.mem_cons_self
    · exact List.mem_cons_of_mem _ (h.owned g' κ k' found)
  · rcases List.mem_cons.1 mem with own | old <;> rcases List.mem_cons.1 mem' with own' | old'
    · exact (Prod.mk.inj own).2.trans (Prod.mk.inj own').2.symm
    · exact absurd (Prod.mk.inj own).1 (newer old').1
    · exact absurd (Prod.mk.inj own').1 (newer old).1
    · exact h.sole k' g' g'' old old'

theorem released {s : Site K} (sound : s.context.Sound) (h : s.context.GuardsListed) (k : Handle .node) :
    (s.removeGraphGuard k).nodes = s.context.nodes ∧ (s.removeGraphGuard k).guards.context = s.context.guards.context ∧
      (∀ g, (s.removeGraphGuard k).guards.find? g =
        if (k, g) ∈ s.context.graphGuards then none else s.context.guards.find? g) ∧
      ∀ e, e ∈ (s.removeGraphGuard k).graphGuards ↔ e ∈ s.context.graphGuards ∧ e.1 ≠ k := by
  unfold Site.removeGraphGuard
  cases listed : s.graphGuard? k with
  | none =>
    have absent (e : Handle .node × Handle .guardCondition) (mem : e ∈ s.context.graphGuards) : e.1 ≠ k := fun own => by
      have none := List.find?_eq_none.1 (Option.map_eq_none_iff.1 listed) e mem
      exact none (decide_eq_true own)
    refine ⟨rfl, rfl, fun g => (if_neg fun mem => absent _ mem rfl).symm, fun e => ?_⟩
    exact ⟨fun mem => ⟨mem, absent e mem⟩, And.left⟩
  | some g =>
    obtain ⟨⟨k', g'⟩, first, rfl⟩ := Option.map_eq_some_iff.1 listed
    have mem := List.mem_of_find?_eq_some first
    obtain rfl : k' = k := by simpa using List.find?_some first
    obtain ⟨n, _, found⟩ := h.listed k' g' mem
    obtain ⟨guards, removed⟩ := Arena.removeRuns found
    obtain ⟨_, context, _, find⟩ := Arena.removeFind sound.guards removed
    dsimp only
    rw [removed]
    refine ⟨rfl, context, fun g => ?_, fun e => ?_⟩
    · rw [find]
      by_cases own : g = g'
      · rw [if_pos own, if_pos (own ▸ mem)]
      · rw [if_neg own, if_neg fun mem' => own (h.sole k' g g' mem' mem)]
    · simp only [List.mem_filter, ne_eq, decide_not, Bool.not_eq_eq_eq_not, Bool.not_true, decide_eq_false_iff_not]

theorem part {s : Site K} (sound : s.context.Sound) (h : s.context.GuardsListed) {k : Handle .node} {n : NodeRecord}
    {nodes : Arena .node NodeRecord} (removed : s.context.nodes.remove k = .ok (n, nodes)) :
    GuardsListed { s.removeGraphGuard k with nodes := nodes } := by
  obtain ⟨_, _, guards, listed⟩ := released sound h k
  obtain ⟨_, _, _, node⟩ := Arena.removeFind sound.nodes removed
  refine ⟨fun k' g mem => ?_, fun g κ k' found => ?_, fun k' g g' mem mem' => ?_⟩
  · obtain ⟨old, other⟩ := (listed _).1 mem
    obtain ⟨n', found, found'⟩ := h.listed k' g old
    refine ⟨n', (node k').trans ((if_neg other).trans found),
      (guards g).trans ((if_neg fun mem' => other ?_).trans found')⟩
    obtain ⟨_, _, found''⟩ := h.listed k g mem'
    have same := congrArg GuardRecord.owner (Option.some.inj (found'.symm.trans found''))
    exact GuardOwner.node.inj same
  · have there := (guards g).symm.trans found
    split at there
    · cases there
    · rename_i other
      have old := h.owned g κ k' there
      exact (listed _).2 ⟨old, fun same => other (same ▸ old)⟩
  · exact h.sole k' g g' ((listed _).1 mem).1 ((listed _).1 mem').1

theorem edit (h : c.GuardsListed) (sound : c.Sound) (edits : c.Edits c') : c'.GuardsListed := by
  cases edits with
  | same => exact h
  | nodeAdded inserted guarded => exact h.lodge sound inserted guarded
  | unlodged inserted removed =>
    obtain ⟨sound', _, vacant, node⟩ := Arena.insertFind sound.nodes inserted
    obtain ⟨_, _, _, node'⟩ := Arena.removeFind sound' removed
    refine h.others (fun k => (node' k).trans ?_) (fun _ _ _ => .rfl) rfl
    rw [node]
    split
    · rename_i own
      exact own ▸ vacant.symm
    · rfl
  | parted own removed =>
    subst own
    exact part sound h removed
  | guarded inserted =>
    obtain ⟨_, _, vacant, guard⟩ := Arena.insertFind sound.guards inserted
    refine h.others (fun _ => rfl) (fun g k n => ?_) rfl
    rw [guard]
    split
    · rename_i own
      rw [own, vacant]
      exact ⟨nofun, nofun⟩
    · exact .rfl
  | unguarded own removed =>
    obtain ⟨_, _, found, guard⟩ := Arena.removeFind sound.guards removed
    refine h.others (fun _ => rfl) (fun g k n => ?_) rfl
    rw [guard]
    split
    · rename_i same
      refine ⟨nofun, fun there => ?_⟩
      rw [same, found] at there
      cases Option.some.inj there
      cases own
    · exact .rfl
  | @published _ r | @subscribed _ r => exact h.count sound r.node (· + 1) rfl rfl rfl
  | @unpublished _ r | @unsubscribed _ r => exact h.count sound r.node (· - 1) rfl rfl rfl

end GuardsListed
end Context

namespace System

def GuardsListed (s : System K) : Prop := ∀ ctx c, s.contexts.get? ctx = some c → c.GuardsListed

variable [Catalog K] [DecidableEq K] {s : System K}

omit [Catalog K] [DecidableEq K] in
theorem guardsListedFresh : ({} : System K).GuardsListed := fun _ _ known => nomatch known

theorem GuardsListed.serve (h : s.GuardsListed) (sound : s.Sound) (call : Call K) : (s.serve call).GuardsListed :=
  (serveEdited sound call).keeps (fun settings => .empty _ settings)
    (fun ctx c _ known edits guardsListed => guardsListed.edit (sound.tables ctx c known) edits) h

theorem GuardsListed.serveAll (h : s.GuardsListed) (sound : s.Sound) (calls : List (Call K)) :
    (s.serveAll calls).GuardsListed := by
  induction calls generalizing s with
  | nil => exact h
  | cons call rest ih => exact ih (h.serve sound call) (serveSound sound call)

end System
end Databus.Middleware
