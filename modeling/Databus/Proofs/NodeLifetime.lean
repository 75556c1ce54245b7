import Databus.Middleware.Nodes
import Databus.Proofs.DiscoveryReaders
import Databus.Proofs.EndpointRecords

/-! Nodes come and go: a context that has no room for a node sends its participant away again, and a node that
goes takes its participant along. Publishers and subscriptions stay as they are. -/
namespace Databus

namespace Middleware

theorem detachLeave (b : Bus) (n : NodeRecord) :
    (System.detachListeners b n).leave n.participant = b.leave n.participant := by
  unfold System.detachListeners
  cases found : b.participants.get? n.participant with
  | none => rfl
  | some x =>
    have detached : ∀ r : Reader, { { r with listener := none } with listener := none } =
        { r with listener := none } := fun _ => rfl
    have twice : (((b.readers.modify x.publications ({ · with listener := none })).modify
        x.subscriptions ({ · with listener := none })).modify x.publications
          ({ · with listener := none })).modify x.subscriptions ({ · with listener := none }) =
        (b.readers.modify x.publications ({ · with listener := none })).modify x.subscriptions
          ({ · with listener := none }) := by
      have swap : ∀ t : Table InstanceHandle Reader, (t.modify x.subscriptions ({ · with listener := none })).modify
          x.publications ({ · with listener := none }) = (t.modify x.publications
            ({ · with listener := none })).modify x.subscriptions ({ · with listener := none }) :=
        fun t => t.modifySwap (.inr fun _ => rfl)
      rw [swap, Table.modifyTwice _ _ detached, Table.modifyTwice _ _ detached]
    have found' : ((b.setListener x.publications none).setListener x.subscriptions
        none).participants.get? n.participant = some x := found
    dsimp only
    rw [Bus.leaveOpens found', Bus.leaveOpens found]
    simp only [Bus.vacated, Bus.marksGroups, Bus.setListener, Bus.modifyReader, twice]
    rfl

namespace Context

variable {K : Type}

structure AddsNode (c : Context K) (h : Handle .node) (n : NodeRecord) (c' : Context K) : Prop where
  settings : c'.settings = c.settings
  fresh : c.nodes.find? h = none
  nodes : ∀ h', c'.nodes.find? h' = if h' = h then some n else c.nodes.find? h'
  entries : ∀ ref, c'.findEntry ref = c.findEntry ref

structure RemovesNode (c : Context K) (h : Handle .node) (n : NodeRecord) (c' : Context K) : Prop where
  settings : c'.settings = c.settings
  held : c.nodes.find? h = some n
  nodes : ∀ h', c'.nodes.find? h' = if h' = h then none else c.nodes.find? h'
  entries : ∀ ref, c'.findEntry ref = c.findEntry ref

end Context

namespace Site

variable {K : Type} {s : Site K}

inductive NodeCreation (s : Site K) (name : String) : Option (Handle .node) → Site K → Prop
  | refused : NodeCreation s name none s
  | full {n : NodeRecord} {b : Bus} {c : Context K}
    (joined : joinNode s.bus name s.context.settings.domain = .ok (n, b)) (sound : c.Sound)
    (same : s.context.SameTables c) :
    NodeCreation s name none { s with bus := b.leave n.participant, context := c }
  | nodeAdded {n : NodeRecord} {b : Bus} {h : Handle .node} {c : Context K}
    (joined : joinNode s.bus name s.context.settings.domain = .ok (n, b)) (sound : c.Sound)
    (addsNode : s.context.AddsNode h n c) : NodeCreation s name (some h) { s with bus := b, context := c }

theorem createNodeAddsNode (sound : s.context.Sound) (name : String) :
    s.NodeCreation name (s.createNode name).2.toOption (s.createNode name).1 := by
  unfold createNode
  split
  · exact .refused
  · split
    · exact .refused
    · rename_i n b joined
      split
      · exact .full joined sound (.refl _)
      · rename_i h nodes inserted
        obtain ⟨sound', _, fresh, find⟩ := Arena.insertFind sound.nodes inserted
        split
        · rename_i g guards guarded
          refine .nodeAdded joined ?_ ⟨rfl, fresh, find, fun ref => by cases ref <;> rfl⟩
          exact { sound with
            nodes := sound'
            guards := (Arena.insertFind sound.guards guarded).1 }
        · dsimp only
          rw [detachLeave]
          have found : nodes.find? h = some n := (find h).trans (if_pos rfl)
          have got := Arena.getExact.2 found
          cases removed : nodes.remove h with
          | error f =>
            simp only [Arena.remove, got] at removed
            cases removed
          | ok gone =>
            obtain ⟨n', nodes'⟩ := gone
            obtain ⟨sound'', _, _, find'⟩ := Arena.removeFind sound' removed
            refine .full joined { sound with nodes := sound'' }
              ⟨rfl, fun h' => (find' h').trans ?_, rfl, rfl⟩
            rw [find]
            split
            · rename_i own
              rw [own, fresh]
            · rfl

inductive NodeDestruction (s : Site K) : Option (Handle .node) → Site K → Prop
  | refused : NodeDestruction s none s
  | parted {h : Handle .node} {n : NodeRecord} {c : Context K} (idle : n.endpoints = 0)
    (sound : c.Sound) (removesNode : s.context.RemovesNode h n c) :
    NodeDestruction s (some h) { s with bus := s.bus.leave n.participant, context := c }

theorem removeGraphGuardSame (sound : s.context.Sound) (h : Handle .node) :
    (s.removeGraphGuard h).Sound ∧ (s.removeGraphGuard h).settings = s.context.settings ∧
      (s.removeGraphGuard h).publishers = s.context.publishers ∧
      (s.removeGraphGuard h).subscriptions = s.context.subscriptions := by
  unfold removeGraphGuard
  split
  · exact ⟨sound, rfl, rfl, rfl⟩
  · dsimp only
    split
    · rename_i gone guards removed
      exact ⟨{ sound with guards := (Arena.removeFind sound.guards removed).1 }, rfl, rfl, rfl⟩
    · exact ⟨{ sound with }, rfl, rfl, rfl⟩

theorem destroyNodeRemovesNode (sound : s.context.Sound) (h : Option (Handle .node)) :
    s.NodeDestruction ((s.destroyNode h).2.toOption.bind fun _ => h) (s.destroyNode h).1 := by
  unfold destroyNode
  cases h with
  | none => exact .refused
  | some h =>
    simp only [Handle.require]
    split
    · exact .refused
    · rename_i n got
      have found := Arena.getExact.1 got
      split
      · exact .refused
      · rename_i idle
        split
        · exact .refused
        · rename_i gone nodes removed
          obtain ⟨sound', _, _, find⟩ := Arena.removeFind sound.nodes removed
          obtain ⟨kept, settings, publishers, subscriptions⟩ := removeGraphGuardSame sound h
          dsimp only
          rw [detachLeave]
          refine .parted (by omega) { kept with nodes := sound' }
            ⟨settings, found, find, fun ref => ?_⟩
          cases ref with
          | publisher h' => exact congrArg (fun a => (a.find? h').map (·.entry)) publishers
          | subscription h' => exact congrArg (fun a => (a.find? h').map (·.entry)) subscriptions

end Site
end Middleware
end Databus
