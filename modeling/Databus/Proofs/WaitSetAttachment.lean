import Databus.Proofs.WaitingSystem

/-! What is attached to a wait set. A wait attaches what it lists to a wait set of its own as it starts to block; to
one that there is already nobody attaches more, whatever is asked of the bus and whatever other waits do. -/
namespace Databus

namespace Bus

variable {a b b' c : Bus}

structure Narrows (b b' : Bus) : Prop where
  attached : ∀ ws, ws < b.nextKey → b'.attachedTo ws ⊆ b.attachedTo ws
  keys : b.nextKey ≤ b'.nextKey

theorem attachedMap (b : Bus) (ws : WaitSetId) :
    b.attachedTo ws = ((b.waitSets.get? ws).map WaitSet.conditions).getD [] := by
  unfold attachedTo
  cases b.waitSets.get? ws <;> rfl

namespace Narrows

theorem same (waitSets : b'.waitSets = b.waitSets) (keys : b.nextKey ≤ b'.nextKey) : Narrows b b' := by
  refine ⟨fun ws _ => ?_, keys⟩
  rw [attachedTo, waitSets, attachedTo]
  exact fun _ => id

theorem refl (b : Bus) : Narrows b b := .same rfl (Nat.le_refl _)

theorem trans (h : Narrows a b) (h' : Narrows b c) : Narrows a c := by
  refine ⟨fun ws old k mem => h.attached ws old ?_, Nat.le_trans h.keys h'.keys⟩
  exact h'.attached ws (Nat.lt_of_lt_of_le old h.keys) mem

theorem wake (b : Bus) (h : Hook) : Narrows b (b.wake h) := by
  refine ⟨fun ws _ _ mem => Middleware.Site.wakeAttached b h ws ▸ mem, ?_⟩
  cases h <;> exact Nat.le_refl _

theorem notify (b : Bus) (k : ConditionId) : Narrows b (b.notify k) :=
  List.foldlRecOn (motive := Narrows b) _ _ (.same rfl (Nat.le_refl _)) fun b' narrows h _ =>
    narrows.trans (.wake b' h)

theorem signal (k : ConditionId) (t : Trigger) (tells : Bool) :
    Narrows b (if tells then (b.setTrigger k t).notify k else b.setTrigger k t) := by
  have set : Narrows b (b.setTrigger k t) := .same rfl (Nat.le_refl _)
  split
  · exact set.trans (.notify _ k)
  · exact set

theorem setEnabled (b : Bus) (k : ConditionId) (mask : StatusMask) : Narrows b (b.setEnabled k mask) := by
  unfold Bus.setEnabled
  split
  · exact .signal ..
  · exact .refl b

theorem activate (b : Bus) (k : ConditionId) (mask : StatusMask) : Narrows b (b.activate k mask) := by
  unfold Bus.activate
  split
  · exact .signal ..
  · exact .refl b

theorem deactivate (b : Bus) (k : ConditionId) (mask : StatusMask) : Narrows b (b.deactivate k mask) := by
  unfold Bus.deactivate
  split
  · exact .same rfl (Nat.le_refl _)
  · exact .refl b

theorem setGuard (b : Bus) (k : ConditionId) (value : Bool) : Narrows b (b.setGuard k value) := by
  unfold Bus.setGuard
  split
  · exact .signal ..
  · exact .refl b

theorem takeGuard (b : Bus) (k : ConditionId) : Narrows b (b.takeGuard k).2 := by
  unfold Bus.takeGuard
  split
  · exact .same rfl (Nat.le_refl _)
  · exact .refl b

theorem modifyReader (b : Bus) (r : InstanceHandle) (f : Reader → Reader) : Narrows b (b.modifyReader r f) :=
  .same rfl (Nat.le_refl _)

theorem take (b : Bus) (r : InstanceHandle) : Narrows b (b.take r).2 := by
  unfold Bus.take
  split
  · exact .refl b
  · split
    · exact .deactivate b _ _
    · dsimp only
      split
      · exact (modifyReader b r _).trans (.deactivate _ _ _)
      · exact modifyReader b r _

theorem takeAll (b : Bus) (r : InstanceHandle) : Narrows b (b.takeAll r).2 := by
  unfold Bus.takeAll
  split
  · exact .refl b
  · exact (modifyReader b r _).trans (.deactivate _ _ _)

theorem enqueue (b : Bus) (n : Notice) : Narrows b (b.enqueue n) := by
  unfold Bus.enqueue
  split
  · exact .refl b
  · rename_i x found
    have queued := modifyReader b n.reader fun r => { r with mailbox := r.mailbox.push r.history n.arrival }
    have lost := List.foldlRecOn (motive := Narrows b)
      (List.replicate (x.mailbox.overflow x.history) ()) (fun b _ => b.activate x.condition .sampleLost)
      queued fun b' narrows _ _ => narrows.trans (.activate b' _ _)
    exact lost.trans (.activate _ _ _)

theorem drain (b : Bus) (side : Side) (graph : GraphId) (guard : ConditionId) (r : InstanceHandle) :
    Narrows b (b.drain side graph guard r).2 := by
  have taken := takeAll b r
  unfold Bus.drain
  dsimp only
  split
  · exact taken
  · rename_i g found
    have drawn : Narrows (b.takeAll r).2
        ((b.takeAll r).2.setGraph graph (g.absorb side (b.takeAll r).1).1) := .same rfl (Nat.le_refl _)
    dsimp only
    split
    · exact (taken.trans drawn).trans (setGuard _ _ _)
    · exact taken.trans drawn

theorem tables (h : OnlyTables b b') : Narrows b b' := by
  have e := congrArg Bus.waitSets h.same
  exact .same e (Nat.le_of_eq h.nextKey.symm)

theorem poll (b : Bus) (ws : WaitSetId) : Narrows b (b.poll ws).2 := by
  have scanned : Narrows b (b.scan ws).2 := by
    have same (ws' : WaitSetId) : ((b.scan ws).2.waitSets.get? ws').map WaitSet.conditions =
        (b.waitSets.get? ws').map WaitSet.conditions := Table.modifySame b.waitSets ws ws' fun _ => rfl
    refine ⟨fun ws' _ k mem => ?_, Nat.le_refl _⟩
    rwa [attachedMap, same, ← attachedMap] at mem
  unfold Bus.poll
  split <;> rename_i eq <;> rw [eq] at scanned <;> exact scanned

theorem dropWaitSet (b : Bus) (ws : WaitSetId) : Narrows b (b.dropWaitSet ws) := by
  have unhooked : Narrows b ((b.attachedTo ws).foldl (fun b c => b.removeHooks c (isWaitSet ws)) b) :=
    List.foldlRecOn (motive := Narrows b) _ _ (.refl b) fun b' narrows c _ =>
      narrows.trans (.same rfl (Nat.le_refl _))
  refine unhooked.trans ⟨fun ws' _ k mem => ?_, Nat.le_refl _⟩
  rw [attachedMap] at mem ⊢
  simp only [Bus.dropWaitSet, Table.getErase] at mem
  split at mem
  · cases mem
  · exact mem

theorem narrowsCarries : Carries Narrows where
  refl := .refl
  trans := .trans
  tables := tables
  enqueue := enqueue
  take := take
  takeAll := takeAll
  script _ _ _ := .same rfl (Nat.le_refl _)
  install b r _ := modifyReader b r _
  drain r _ := drain _ _ _ _ r
  newReader _ _ _ _ _ := .same rfl (Nat.le_refl _)
  newGuard _ := .same rfl (Nat.le_refl _)
  newGraph _ := .same rfl (Nat.le_succ _)

theorem run (b : Bus) (requests : List Request) : Narrows b (b.run requests) :=
  List.foldlRecOn (motive := Narrows b) requests request (.refl b) fun _ narrows _ _ =>
    narrows.trans (narrowsCarries.request (fun _ _ => .same rfl (Nat.le_succ _)) fun _ _ _ r _ => drain _ _ _ _ r)

end Narrows
end Bus

namespace Middleware

open Bus (Narrows)

namespace Site

theorem attachElsewhere {b b' : Bus} {ws ws' : WaitSetId} {k : ConditionId} (ok : b.attach ws k = .ok b')
    (other : ws' ≠ ws) : b'.attachedTo ws' = b.attachedTo ws' := by
  have hooked : (b.addHook k (.waitSet ws)).attachedTo ws' = b.attachedTo ws' := by
    unfold Bus.addHook
    dsimp only
    split
    · exact wakeAttached _ _ ws'
    · rfl
  unfold Bus.attach at ok
  split at ok
  · cases ok
  · cases ok
    refine Eq.trans ?_ hooked
    simp only [Bus.attachedTo, Table.getModify, if_neg other]

theorem attachAllAttached {ws ws' : WaitSetId} {claims : List (Waitable × ConditionId)} {b : Bus} {k : ConditionId}
    (mem : k ∈ (attachAll b ws claims).1.attachedTo ws') :
    k ∈ b.attachedTo ws' ∨ ws' = ws ∧ k ∈ claims.map Prod.snd := by
  induction claims generalizing b with
  | nil => exact .inl mem
  | cons first rest ih =>
    by_cases attached : first.2 ∈ (enabled b first).attachedTo ws
    · have refused : (attachAll b ws (first :: rest)).1 = enabled b first := by
        obtain ⟨_ | _, c⟩ := first <;>
          · simp only [enabled] at attached
            simp only [attachAll, Bus.attach, if_pos attached, enabled]
      rw [refused, enabledAttached] at mem
      exact .inl mem
    · obtain ⟨a, ok⟩ := attachFree attached
      rw [attachAllFirst ok] at mem
      rcases ih mem with old | ⟨own, listed⟩
      · by_cases own : ws' = ws
        · subst own
          rcases attachAttached ok old with old | new
          · exact .inl (enabledAttached b first ws' ▸ old)
          · exact .inr ⟨rfl, new ▸ List.mem_cons_self⟩
        · rw [attachElsewhere ok own, enabledAttached] at old
          exact .inl old
      · exact .inr ⟨own, List.mem_cons_of_mem _ listed⟩

end Site

variable {K : Type}

theorem System.turnNarrows (s : System K) (t : Ticket) (now : Nat) : s.bus.Narrows (s.turn t now).2.bus := by
  have polled := Narrows.poll s.bus t.waitSet
  unfold turn
  split <;> rename_i eq <;> rw [eq] at polled <;> exact polled

theorem System.endWaitNarrows (s : System K) (t : Ticket) (expired : Bool) :
    s.bus.Narrows (s.endWait t expired).2.bus :=
  endWaitKeeps .refl .trans .takeGuard .dropWaitSet s t expired

end Middleware
end Databus
