import Databus.Proofs.WaitSetAttachment
import Databus.Proofs.ConditionSignals

/-! Conditions attached to wait sets: each condition has one hook for each wait set that lists it and none for another,
however they are attached, detached and dropped, and a wait set is pending once one of its conditions has risen. -/
namespace Databus

namespace Bus

variable {b b' : Bus} {ws ws' : WaitSetId} {k k' : ConditionId}

/-! ### Lists of conditions -/

theorem replacePerm {l : List ConditionId} (once : l.Nodup) (mem : k ∈ l) (last : ConditionId) :
    (l.map fun x => if x = k then last else x).Perm (l.erase k ++ [last]) := by
  induction l with
  | nil => cases mem
  | cons x rest ih =>
    obtain ⟨apart, once⟩ := List.nodup_cons.1 once
    rw [List.map_cons]
    by_cases own : x = k
    · have kept (y : ConditionId) (mem : y ∈ rest) : (if y = k then last else y) = y :=
        if_neg fun (same : y = k) => apart (own.trans same.symm ▸ mem)
      rw [if_pos own, List.map_congr_left kept, List.map_id', own, List.erase_cons_head]
      exact (List.perm_append_singleton last rest).symm
    · rw [if_neg own, List.erase_cons_tail (by simpa using own)]
      exact (ih once ((List.mem_cons.1 mem).resolve_left (Ne.symm own))).cons x

theorem swapRemovePerm {l : List ConditionId} (once : l.Nodup) (mem : k ∈ l) : (swapRemove l k).Perm (l.erase k) := by
  obtain rfl | ⟨front, last, rfl⟩ := List.eq_nil_or_concat l
  · cases mem
  · rw [List.concat_eq_append] at once mem ⊢
    obtain ⟨once, _, apart⟩ := List.nodup_append.1 once
    simp only [swapRemove, List.getLast?_concat, List.dropLast_concat]
    split
    · rename_i own
      have new : k ∉ front := fun inside => apart k inside last (List.mem_singleton.2 rfl) own
      rw [List.erase_append_right _ new, own, List.erase_cons_head, List.append_nil]
    · rename_i other
      have inside : k ∈ front := (List.mem_append.1 mem).resolve_right fun mem => other (List.mem_singleton.1 mem)
      rw [List.erase_append_left _ inside]
      exact replacePerm once inside last

theorem memSwapRemove {l : List ConditionId} (once : l.Nodup) (mem : k ∈ l) :
    k' ∈ swapRemove l k ↔ k' ≠ k ∧ k' ∈ l := by
  rw [(swapRemovePerm once mem).mem_iff, once.mem_erase_iff]

theorem swapRemoveOnce {l : List ConditionId} (once : l.Nodup) (mem : k ∈ l) : (swapRemove l k).Nodup :=
  (swapRemovePerm once mem).nodup_iff.2 (once.erase k)

theorem attachedThere (mem : k ∈ b.attachedTo ws) : b.waitSets.contains ws = true := by
  unfold attachedTo at mem
  unfold Table.contains
  cases found : b.waitSets.get? ws with
  | none => simp [found] at mem
  | some x => rfl

theorem relistAttached (there : b.waitSets.contains ws = true) (g : List ConditionId → List ConditionId)
    (ws' : WaitSetId) : attachedTo { b with waitSets := b.waitSets.modify ws fun x =>
      { x with conditions := g x.conditions } } ws' = if ws' = ws then g (b.attachedTo ws) else b.attachedTo ws' := by
  obtain ⟨x, found⟩ := Option.isSome_iff_exists.1 there
  simp only [attachedMap, Table.getModify]
  split
  · rw [found]
    rfl
  · rfl

theorem addHookAttached (b : Bus) (k : ConditionId) (h : Hook) (ws : WaitSetId) :
    (b.addHook k h).attachedTo ws = b.attachedTo ws := by
  unfold addHook
  dsimp only
  split
  · exact Middleware.Site.wakeAttached _ h ws
  · rfl

theorem performAttached (b : Bus) (k : ConditionId) (p : TriggerStep) (ws : WaitSetId) :
    (p.perform b k).attachedTo ws = b.attachedTo ws := by
  rw [performSteps]
  split
  · exact Middleware.Site.notifyAttached (b.store k p) k ws
  · rfl

theorem lowerAttached (b : Bus) (ws ws' : WaitSetId) : (b.lower ws).attachedTo ws' = b.attachedTo ws' := by
  rw [attachedMap, attachedMap]
  exact congrArg (Option.getD · []) (Table.modifySame _ _ _ fun _ => rfl)

theorem attachOpens (ok : b.attach ws k = .ok b') : k ∉ b.attachedTo ws ∧
    b' = { b.addHook k (.waitSet ws) with waitSets := (b.addHook k (.waitSet ws)).waitSets.modify ws fun x =>
      { x with conditions := x.conditions ++ [k] } } := by
  unfold attach at ok
  split at ok
  · contradiction
  · rename_i free
    exact ⟨free, (Except.ok.inj ok).symm⟩

theorem detachOpens (ok : b.detach ws k = .ok b') : k ∈ b.attachedTo ws ∧
    b' = removeHooks { b with waitSets := b.waitSets.modify ws fun x =>
      { x with conditions := swapRemove x.conditions k } } k (isWaitSet ws) := by
  unfold detach at ok
  split at ok
  · contradiction
  · rename_i mem
    exact ⟨Decidable.not_not.1 mem, (Except.ok.inj ok).symm⟩

theorem detachMember (mem : k ∈ b.attachedTo ws) : ∃ b', b.detach ws k = .ok b' := by
  unfold detach
  rw [if_neg (Classical.not_not.2 mem)]
  exact ⟨_, rfl⟩

theorem attachLists (there : b.waitSets.contains ws = true) (ok : b.attach ws k = .ok b') (ws' : WaitSetId) :
    b'.attachedTo ws' = if ws' = ws then b.attachedTo ws ++ [k] else b.attachedTo ws' := by
  obtain ⟨_, rfl⟩ := attachOpens ok
  have live : (b.addHook k (.waitSet ws)).isLive = b.isLive := addHookLive ..
  rw [relistAttached ((congrFun live (.waitSet ws)).trans there) (· ++ [k]), addHookAttached, addHookAttached]

theorem detachLists (ok : b.detach ws k = .ok b') (ws' : WaitSetId) :
    b'.attachedTo ws' = if ws' = ws then swapRemove (b.attachedTo ws) k else b.attachedTo ws' := by
  obtain ⟨mem, rfl⟩ := detachOpens ok
  exact relistAttached (attachedThere mem) (swapRemove · k) ws'

theorem unhookWaits (l : List ConditionId) (b : Bus) (p : Hook → Bool) :
    (l.foldl (fun b c => b.removeHooks c p) b).waitSets = b.waitSets :=
  List.foldlRecOn (motive := fun b' : Bus => b'.waitSets = b.waitSets) _ _ rfl fun _ same _ _ => same

theorem dropLists (b : Bus) (ws ws' : WaitSetId) :
    (b.dropWaitSet ws).attachedTo ws' = if ws' = ws then [] else b.attachedTo ws' := by
  rw [attachedMap, dropWaitSet, unhookWaits, Table.getErase]
  split
  · rfl
  · exact (attachedMap b ws').symm

theorem detachQuiet (ok : b.detach ws k = .ok b') : Quiet b b' := by
  obtain ⟨_, rfl⟩ := detachOpens ok
  exact Quiet.trans (b := { b with waitSets := b.waitSets.modify ws fun x =>
    { x with conditions := swapRemove x.conditions k } }) ⟨rfl, fun _ => rfl, fun _ => rfl⟩ (removeHooksQuiet _ k _)

/-! ### Hooks of wait sets -/

theorem countUnhooked (l : List Hook) (ws ws' : WaitSetId) :
    (l.filter (!isWaitSet ws ·)).count (.waitSet ws') = if ws' = ws then 0 else l.count (.waitSet ws') := by
  split
  · rename_i own
    rw [List.count_eq_zero, List.mem_filter]
    rintro ⟨_, kept⟩
    simp [isWaitSet, own] at kept
  · rename_i other
    exact List.count_filter (by simp [isWaitSet, other])

theorem unhookHooks (l : List ConditionId) (b : Bus) (p : Hook → Bool) (k : ConditionId) :
    (l.foldl (fun b c => b.removeHooks c p) b).hooksAt k =
      if k ∈ l then (b.hooksAt k).filter (!p ·) else b.hooksAt k := by
  induction l generalizing b with
  | nil => rfl
  | cons c rest ih =>
    rw [List.foldl_cons, ih, removeHooksAt]
    by_cases own : k = c
    · rw [own, if_pos rfl, if_pos List.mem_cons_self, List.filter_filter]
      split
      · exact List.filter_congr fun h _ => Bool.and_self _
      · rfl
    · simp only [own, List.mem_cons, false_or, if_false]

end Bus

/-! ### Runs -/

inductive WaitSetStep
  | newWaitSet
  | newStatus
  | newGuard
  | attach (ws : WaitSetId) (k : ConditionId)
  | detach (ws : WaitSetId) (k : ConditionId)
  | drop (ws : WaitSetId)
  | adjust (k : ConditionId) (p : TriggerStep)
  | scan (ws : WaitSetId)
  deriving DecidableEq, Repr

def WaitSetStep.act (b : Bus) : WaitSetStep → Bus
  | .newWaitSet => b.newWaitSet.2
  | .newStatus => (b.newCondition .newStatus).2
  | .newGuard => (b.newCondition .newGuard).2
  | .attach ws k => if b.waitSets.contains ws ∧ b.conditions.contains k then b.after (b.attach ws k) else b
  | .detach ws k => b.after (b.detach ws k)
  | .drop ws => b.dropWaitSet ws
  | .adjust k p => p.perform b k
  | .scan ws => (b.scan ws).2

namespace Bus

variable {b b' : Bus} {ws ws' : WaitSetId} {k k' : ConditionId}

def runWaitSets (b : Bus) (acts : List WaitSetStep) : Bus := acts.foldl WaitSetStep.act b

theorem actAttach (b : Bus) (ws : WaitSetId) (k : ConditionId) : (WaitSetStep.attach ws k).act b = b ∨
    ∃ b', (WaitSetStep.attach ws k).act b = b' ∧ b.attach ws k = .ok b' ∧ b.waitSets.contains ws = true ∧
      b.conditions.contains k = true := by
  rw [WaitSetStep.act]
  split
  · rename_i both
    cases ok : b.attach ws k with
    | error f => exact .inl rfl
    | ok b' => exact .inr ⟨b', rfl, rfl, both⟩
  · exact .inl rfl

theorem actDetach (b : Bus) (ws : WaitSetId) (k : ConditionId) : (WaitSetStep.detach ws k).act b = b ∨
    ∃ b', (WaitSetStep.detach ws k).act b = b' ∧ b.detach ws k = .ok b' := by
  rw [WaitSetStep.act]
  cases ok : b.detach ws k with
  | error f => exact .inl rfl
  | ok b' => exact .inr ⟨b', rfl, rfl⟩

structure HooksMatch (b : Bus) : Prop where
  waitSets : ∀ ws, b.waitSets.contains ws = true → ws < b.nextKey
  conditions : ∀ k, b.conditions.contains k = true → k < b.nextCondition
  there : ∀ ws, ∀ k ∈ b.attachedTo ws, b.conditions.contains k = true
  once : ∀ ws, (b.attachedTo ws).Nodup
  hooks : ∀ ws k, (b.hooksAt k).count (.waitSet ws) = if k ∈ b.attachedTo ws then 1 else 0

theorem hooksMatchEmpty : HooksMatch {} where
  waitSets _ there := nomatch there
  conditions _ there := nomatch there
  there _ _ mem := nomatch mem
  once _ := .nil
  hooks _ _ := rfl

namespace HooksMatch

theorem countLive (h : HooksMatch b) (ws : WaitSetId) (k : ConditionId) :
    (b.liveHooks k).count (.waitSet ws) = (b.hooksAt k).count (.waitSet ws) := by
  rw [liveHooksAt]
  by_cases there : b.waitSets.contains ws = true
  · exact List.count_filter there
  · have bare : (b.hooksAt k).count (.waitSet ws) = 0 := by
      rw [h.hooks, if_neg fun mem => there (attachedThere mem)]
    exact Nat.le_zero.1 (bare ▸ List.filter_sublist.count_le _) |>.trans bare.symm

theorem hooked (h : HooksMatch b) (there : b.waitSets.contains ws = true) : Hooked b ws where
  there := there
  hooked k mem x found := by
    have one := h.hooks ws k
    rw [if_pos mem, hooksAt, found] at one
    exact List.count_pos_iff.1 (one ▸ Nat.zero_lt_one)

theorem freshKey (h : HooksMatch b) : b.waitSets.contains b.nextKey = false :=
  Bool.eq_false_iff.2 fun there => Nat.lt_irrefl _ (h.waitSets _ there)

theorem freshCondition (h : HooksMatch b) : b.conditions.contains b.nextCondition = false :=
  Bool.eq_false_iff.2 fun there => Nat.lt_irrefl _ (h.conditions _ there)

theorem newAttached (h : HooksMatch b) (ws : WaitSetId) : b.newWaitSet.2.attachedTo ws = b.attachedTo ws := by
  simp only [attachedMap, newWaitSet, Table.getInsert]
  split
  · rename_i new
    rw [new, Table.absent h.freshKey]
    rfl
  · rfl

theorem newWaitSet (h : HooksMatch b) : HooksMatch b.newWaitSet.2 := by
  refine ⟨fun ws known => ?_, h.conditions, fun ws k mem => ?_, fun ws => ?_, fun ws k => ?_⟩
  · rw [Bus.newWaitSet, Table.containsInsert, Bool.or_eq_true, beq_iff_eq] at known
    rcases known with new | old
    · exact new ▸ Nat.lt_succ_self _
    · exact Nat.lt_succ_of_lt (h.waitSets ws old)
  · rw [h.newAttached] at mem
    exact h.there ws k mem
  · rw [h.newAttached]
    exact h.once ws
  · rw [h.newAttached]
    exact h.hooks ws k

theorem newCondition (h : HooksMatch b) {x : Condition} (bare : x.hooks = []) : HooksMatch (b.newCondition x).2 := by
  refine ⟨h.waitSets, fun k known => ?_, fun ws k mem => ?_, h.once, fun ws k => ?_⟩
  · rw [Bus.newCondition, Table.containsInsert, Bool.or_eq_true, beq_iff_eq] at known
    rcases known with new | old
    · exact new ▸ Nat.lt_succ_self _
    · exact Nat.lt_succ_of_lt (h.conditions k old)
  · rw [Bus.newCondition, Table.containsInsert, h.there ws k mem, Bool.or_true]
  · rw [newHooks bare h.freshCondition]
    exact h.hooks ws k

theorem keep (h : HooksMatch b) (frame : OnlySignals b b') (live : b'.isLive = b.isLive)
    (there : ∀ k, b'.conditions.contains k = b.conditions.contains k)
    (attached : ∀ ws, b'.attachedTo ws = b.attachedTo ws)
    (hooks : ∀ k, b'.hooksAt k = b.hooksAt k ∨ b'.hooksAt k = b.liveHooks k) : HooksMatch b' := by
  refine ⟨fun ws known => ?_, fun k known => ?_, fun ws k mem => ?_, fun ws => ?_, fun ws k => ?_⟩
  · rw [(OnlyTraffic.ofSignals frame).nextKey]
    exact h.waitSets ws ((congrFun live (.waitSet ws)).symm.trans known)
  · rw [frame.nextCondition]
    exact h.conditions k ((there k).symm.trans known)
  · rw [attached] at mem
    rw [there]
    exact h.there ws k mem
  · rw [attached]
    exact h.once ws
  · rw [attached, ← h.hooks]
    rcases hooks k with same | pruned
    · rw [same]
    · rw [pruned, h.countLive]

theorem adjust (h : HooksMatch b) (k : ConditionId) (p : TriggerStep) : HooksMatch (p.perform b k) :=
  h.keep (performFrame b k p) (performLive b k p) (performContains b k p) (performAttached b k p) (performHooks b k p)

theorem scan (h : HooksMatch b) (ws : WaitSetId) : HooksMatch (b.scan ws).2 :=
  h.keep rfl (liveSame (fun _ => Table.containsModify ..) fun _ => rfl) (fun _ => rfl) (lowerAttached b ws)
    fun _ => .inl rfl

theorem attach (h : HooksMatch b) (there : b.waitSets.contains ws = true) (known : b.conditions.contains k = true)
    (ok : b.attach ws k = .ok b') : HooksMatch b' := by
  have attached := attachLists there ok
  obtain ⟨free, rfl⟩ := attachOpens ok
  have live : (b.addHook k (.waitSet ws)).isLive = b.isLive := addHookLive ..
  have quiet := addHookQuiet b k (.waitSet ws)
  have frame := OnlyTraffic.ofSignals quiet.signals
  refine ⟨fun ws' old => ?_, fun k' old => ?_, fun ws' k' mem => ?_, fun ws' => ?_, fun ws' k' => ?_⟩
  · rw [Table.containsModify] at old
    exact frame.nextKey ▸ h.waitSets ws' ((congrFun live (.waitSet ws')).symm.trans old)
  · exact quiet.signals.nextCondition ▸ h.conditions k' ((quiet.contains k').symm.trans old)
  · refine (quiet.contains k').trans ?_
    rw [attached] at mem
    split at mem
    · rcases List.mem_append.1 mem with old | new
      · exact h.there ws k' old
      · exact List.mem_singleton.1 new ▸ known
    · exact h.there ws' k' mem
  · rw [attached]
    split
    · exact List.nodup_append.2 ⟨h.once ws, List.pairwise_singleton _ k, fun x old y new same =>
        free (List.mem_singleton.1 new ▸ same ▸ old)⟩
    · exact h.once ws'
  · rw [attached]
    change ((b.addHook k (.waitSet ws)).hooksAt k').count (.waitSet ws') = _
    rw [addHookAt known]
    by_cases own : k' = k
    · rw [own, if_pos rfl, List.count_append, h.countLive, h.hooks]
      by_cases same : ws' = ws
      · simp [same, free]
      · simp [same, Ne.symm same]
    · rw [if_neg own, h.hooks]
      by_cases same : ws' = ws
      · simp [same, own]
      · simp [same]

theorem detach (h : HooksMatch b) (ok : b.detach ws k = .ok b') : HooksMatch b' := by
  have attached := detachLists ok
  obtain ⟨mem, rfl⟩ := detachOpens ok
  have contains (k' : ConditionId) :
    (b.removeHooks k (isWaitSet ws)).conditions.contains k' = b.conditions.contains k' :=
    (removeHooksQuiet b k _).contains k'
  refine ⟨fun ws' old => ?_, fun k' old => ?_, fun ws' k' mem' => ?_, fun ws' => ?_, fun ws' k' => ?_⟩
  · exact h.waitSets ws' ((Table.containsModify ..).symm.trans old)
  · exact h.conditions k' ((contains k').symm.trans old)
  · refine (contains k').trans ?_
    rw [attached] at mem'
    split at mem'
    · exact h.there ws k' ((memSwapRemove (h.once ws) mem).1 mem').2
    · exact h.there ws' k' mem'
  · rw [attached]
    split
    · exact swapRemoveOnce (h.once ws) mem
    · exact h.once ws'
  · rw [attached]
    change ((b.removeHooks k (isWaitSet ws)).hooksAt k').count (.waitSet ws') = _
    rw [removeHooksAt]
    by_cases own : k' = k
    · rw [own, if_pos rfl, countUnhooked, h.hooks]
      by_cases same : ws' = ws
      · simp [same, memSwapRemove (h.once ws) mem]
      · simp [same]
    · rw [if_neg own, h.hooks]
      by_cases same : ws' = ws
      · simp [same, own, memSwapRemove (h.once ws) mem]
      · simp [same]

theorem drop (h : HooksMatch b) (ws : WaitSetId) : HooksMatch (b.dropWaitSet ws) := by
  have quiet := dropWaitSetQuiet b ws
  have frame := OnlyTraffic.ofSignals quiet.signals
  refine ⟨fun ws' old => ?_, fun k old => ?_, fun ws' k mem => ?_, fun ws' => ?_, fun ws' k => ?_⟩
  · rw [dropWaitSet, Table.containsErase, unhookWaits, Bool.and_eq_true] at old
    exact frame.nextKey ▸ h.waitSets ws' old.2
  · exact quiet.signals.nextCondition ▸ h.conditions k ((quiet.contains k).symm.trans old)
  · rw [dropLists] at mem
    split at mem
    · cases mem
    · exact (quiet.contains k).trans (h.there ws' k mem)
  · rw [dropLists]
    split
    · exact .nil
    · exact h.once ws'
  · rw [dropLists]
    change (hooksAt ((b.attachedTo ws).foldl (fun b c => b.removeHooks c (isWaitSet ws)) b) k).count _ = _
    rw [unhookHooks]
    by_cases own : k ∈ b.attachedTo ws
    · rw [if_pos own, countUnhooked, h.hooks]
      by_cases same : ws' = ws
      · simp [same]
      · simp [same]
    · rw [if_neg own, h.hooks]
      by_cases same : ws' = ws
      · simp [same, own]
      · simp [same]

end HooksMatch

theorem hooksMatchAct (h : HooksMatch b) (a : WaitSetStep) : HooksMatch (a.act b) := by
  cases a with
  | newWaitSet => exact h.newWaitSet
  | newStatus | newGuard => exact h.newCondition rfl
  | attach ws k =>
    rcases actAttach b ws k with same | ⟨b', done, ok, there, known⟩
    · exact same.symm ▸ h
    · exact done ▸ h.attach there known ok
  | detach ws k =>
    rcases actDetach b ws k with same | ⟨b', done, ok⟩
    · exact same.symm ▸ h
    · exact done ▸ h.detach ok
  | drop ws => exact h.drop ws
  | adjust k p => exact h.adjust k p
  | scan ws => exact h.scan ws

/-! ### The flag -/

theorem pendingThere (up : b.isPending ws = true) : b.waitSets.contains ws = true := by
  unfold isPending at up
  unfold Table.contains
  cases found : b.waitSets.get? ws with
  | none => simp [found] at up
  | some x => rfl

theorem relistPending (b : Bus) (ws : WaitSetId) (g : List ConditionId → List ConditionId) (ws' : WaitSetId) :
    isPending { b with waitSets := b.waitSets.modify ws fun x => { x with conditions := g x.conditions } } ws' =
      b.isPending ws' := by
  simp only [isPending, Table.getModify]
  split
  · rename_i own
    rw [own, Option.any_map]
  · rfl

theorem addHookPending (up : b.isPending ws = true) (k : ConditionId) (h : Hook) :
    (b.addHook k h).isPending ws = true := by
  unfold addHook
  dsimp only
  split
  · rw [wakePending (b := b.setHooks k _) (pendingThere up)]
    exact Bool.or_eq_true_iff.2 (.inl up)
  · exact up

theorem actPending (h : HooksMatch b) (up : b.isPending ws = true) {a : WaitSetStep} (scan : a ≠ .scan ws)
    (drop : a ≠ .drop ws) : (a.act b).isPending ws = true := by
  cases a with
  | newWaitSet =>
    have old : ws ≠ b.nextKey := Nat.ne_of_lt (h.waitSets ws (pendingThere up))
    simp only [WaitSetStep.act, isPending, Bus.newWaitSet, Table.getInsert, if_neg old]
    exact up
  | newStatus | newGuard => exact up
  | attach ws' k =>
    rcases actAttach b ws' k with same | ⟨b', done, ok, _⟩
    · exact same.symm ▸ up
    · obtain ⟨_, rfl⟩ := attachOpens ok
      rw [done]
      exact (relistPending _ ws' (· ++ [k]) ws).trans (addHookPending up k (.waitSet ws'))
  | detach ws' k =>
    rcases actDetach b ws' k with same | ⟨b', done, ok⟩
    · exact same.symm ▸ up
    · obtain ⟨_, rfl⟩ := detachOpens ok
      rw [done]
      exact (relistPending b ws' (swapRemove · k) ws).trans up
  | drop ws' =>
    have other : ws ≠ ws' := fun same => drop (same ▸ rfl)
    rw [WaitSetStep.act, isPending, dropWaitSet, unhookWaits, Table.getErase, if_neg other]
    exact up
  | adjust k p =>
    rw [WaitSetStep.act, performSteps]
    split
    · rw [notifyPending (b := b.store k p) (pendingThere up)]
      exact Bool.or_eq_true_iff.2 (.inl up)
    · exact up
  | scan ws' =>
    have other : ws ≠ ws' := fun same => scan (same ▸ rfl)
    simp only [WaitSetStep.act, scanLowers, lower, isPending, Table.getModify, if_neg other]
    exact up

def Due (b : Bus) (ws : WaitSetId) (k : ConditionId) : Prop := k ∈ b.attachedTo ws ∧ b.conditionValue k = true

theorem adjustPending (h : HooksMatch b) (mem : k ∈ b.attachedTo ws) {k' : ConditionId} {p : TriggerStep}
    (low : b.conditionValue k = false) (high : (p.perform b k').conditionValue k = true) :
    (p.perform b k').isPending ws = true := by
  obtain ⟨rfl, told⟩ := performRises low high
  have there := attachedThere mem
  rw [performSteps, if_pos told, notifyPending (b := b.store k p) there, storeLiveHooks, Bool.or_eq_true,
    decide_eq_true_iff]
  refine .inr ?_
  cases found : b.conditions.get? k with
  | none => exact absurd (h.there ws k mem) (by rw [Table.contains, found]; exact Bool.false_ne_true)
  | some x => exact (h.hooked there).live mem found

theorem duePending (h : HooksMatch b) {a : WaitSetStep} (due : (a.act b).Due ws k) (new : ¬ b.Due ws k) :
    (a.act b).isPending ws = true := by
  obtain ⟨mem, high⟩ := due
  have still (attached : (a.act b).attachedTo ws ⊆ b.attachedTo ws)
      (value : (a.act b).conditionValue k = b.conditionValue k) : (a.act b).isPending ws = true :=
    absurd ⟨attached mem, value ▸ high⟩ new
  cases a with
  | newWaitSet => exact still (fun _ mem => h.newAttached ws ▸ mem) rfl
  | newStatus | newGuard => exact still (fun _ mem => mem) (newValue rfl h.freshCondition k)
  | attach ws' k' =>
    rcases actAttach b ws' k' with same | ⟨b', done, ok, there, _⟩
    · exact still (by rw [same]; exact fun _ mem => mem) (by rw [same])
    · rw [done] at mem high ⊢
      rw [(attachQuiet ok).values] at high
      rw [attachLists there ok] at mem
      split at mem
      · rename_i own
        rw [own, attachPending there ok]
        rcases List.mem_append.1 mem with old | last
        · exact absurd ⟨own ▸ old, high⟩ new
        · rw [← List.mem_singleton.1 last, high, Bool.or_true]
      · exact absurd ⟨mem, high⟩ new
  | detach ws' k' =>
    rcases actDetach b ws' k' with same | ⟨b', done, ok⟩
    · exact still (by rw [same]; exact fun _ mem => mem) (by rw [same])
    · rw [done] at still ⊢
      refine still (fun x mem => ?_) ((detachQuiet ok).values k)
      rw [detachLists ok] at mem
      split at mem
      · rename_i own
        exact own ▸ ((memSwapRemove (h.once ws') (detachOpens ok).1).1 mem).2
      · exact mem
  | drop ws' =>
    refine still (fun x mem => ?_) ((dropWaitSetQuiet b ws').values k)
    rw [WaitSetStep.act, dropLists] at mem
    split at mem
    · cases mem
    · exact mem
  | adjust k' p =>
    rw [WaitSetStep.act, performAttached] at mem
    exact adjustPending h mem (Bool.eq_false_iff.2 fun value => new ⟨mem, value⟩) high
  | scan ws' => exact still (fun _ mem => lowerAttached b ws' ws ▸ mem) rfl

/-! ### Every run -/

theorem hooksMatchRun (h : HooksMatch b) (acts : List WaitSetStep) : HooksMatch (b.runWaitSets acts) :=
  List.foldlRecOn (motive := HooksMatch) acts WaitSetStep.act h fun _ hooksMatch a _ => hooksMatchAct hooksMatch a

theorem runPending (h : HooksMatch b) (up : b.isPending ws = true) {acts : List WaitSetStep} (scan : .scan ws ∉ acts)
    (drop : .drop ws ∉ acts) : (b.runWaitSets acts).isPending ws = true := by
  induction acts generalizing b with
  | nil => exact up
  | cons a rest ih =>
    refine ih (hooksMatchAct h a) (actPending h up ?_ ?_) (fun later => scan (List.mem_cons_of_mem _ later))
      fun later =>
      drop (List.mem_cons_of_mem _ later)
    · exact fun now => scan (now ▸ List.mem_cons_self)
    · exact fun now => drop (now ▸ List.mem_cons_self)

structure Answers (b : Bus) : Prop where
  attach : ∀ ws k, if k ∈ b.attachedTo ws
    then b.attach ws k = .error (.alreadyAttached k) ∧ (WaitSetStep.attach ws k).act b = b
    else ∃ b', b.attach ws k = .ok b' ∧ (b.waitSets.contains ws = true → ∀ ws',
      b'.attachedTo ws' = if ws' = ws then b.attachedTo ws ++ [k] else b.attachedTo ws')
  detach : ∀ ws k, if k ∈ b.attachedTo ws
    then (swapRemove (b.attachedTo ws) k).Perm ((b.attachedTo ws).erase k) ∧ ∃ b', b.detach ws k = .ok b' ∧ ∀ ws',
      b'.attachedTo ws' = if ws' = ws then swapRemove (b.attachedTo ws) k else b.attachedTo ws'
    else b.detach ws k = .error (.notAttached k) ∧ (WaitSetStep.detach ws k).act b = b
  drop : ∀ ws ws', (b.dropWaitSet ws).attachedTo ws' = if ws' = ws then [] else b.attachedTo ws'
  poll : ∀ ws, (b.poll ws).1 = if (b.attachedTo ws).filter b.conditionValue = [] then .error .timeout
    else .ok ((b.attachedTo ws).filter b.conditionValue)
  looks : ∀ ws, (∀ k, (b.poll ws).2.trigger? k = b.trigger? k) ∧
    (∀ ws', (b.poll ws).2.attachedTo ws' = b.attachedTo ws') ∧ ∀ k, (b.poll ws).2.hooksAt k = b.hooksAt k

theorem pollScans (b : Bus) (ws : WaitSetId) : b.poll ws =
    (if b.triggered ws = [] then .error .timeout else .ok (b.triggered ws), b.lower ws) := by
  have found : (b.lower ws).triggered ws = b.triggered ws := by
    rw [triggered, lowerAttached, triggered]
    rfl
  unfold poll
  rw [scanLowers, found]
  cases b.triggered ws <;> rfl

theorem answers (h : HooksMatch b) : b.Answers where
  attach ws k := by
    split
    · rename_i mem
      have refused : b.attach ws k = .error (.alreadyAttached k) := if_pos mem
      refine ⟨refused, ?_⟩
      rw [WaitSetStep.act, refused]
      exact ite_self b
    · rename_i free
      obtain ⟨b', ok⟩ := Middleware.Site.attachFree free
      exact ⟨b', ok, fun there => attachLists there ok⟩
  detach ws k := by
    split
    · rename_i mem
      obtain ⟨b', ok⟩ := detachMember mem
      exact ⟨swapRemovePerm (h.once ws) mem, b', ok, detachLists ok⟩
    · rename_i free
      have refused : b.detach ws k = .error (.notAttached k) := if_pos free
      refine ⟨refused, ?_⟩
      rw [WaitSetStep.act, refused]
      rfl
  drop := dropLists b
  poll ws := by
    rw [pollScans]
    rfl
  looks ws := by
    rw [pollScans]
    exact ⟨fun _ => rfl, lowerAttached b ws, fun _ => rfl⟩

/-- However wait sets are attached, detached and dropped, and conditions raised and lowered: attachments are the same on
both sides, and once what is attached to a wait set has come to be true, the wait set is pending until it is scanned or
dropped. -/
theorem attachmentsHold (acts : List WaitSetStep) :
    let b := ({} : Bus).runWaitSets acts
    (∀ ws k, (b.hooksAt k).count (.waitSet ws) = if k ∈ b.attachedTo ws then 1 else 0) ∧
    (∀ ws, (b.attachedTo ws).Nodup) ∧ b.Answers ∧
    ∀ before a after ws k, acts = before ++ a :: after → (a.act (({} : Bus).runWaitSets before)).Due ws k →
      ¬ (({} : Bus).runWaitSets before).Due ws k → .scan ws ∉ after → .drop ws ∉ after → b.isPending ws = true := by
  intro b
  have hooksMatch : b.HooksMatch := hooksMatchRun hooksMatchEmpty acts
  refine ⟨hooksMatch.hooks, hooksMatch.once, answers hooksMatch, fun before a after ws k eq due new scan drop => ?_⟩
  have begun := hooksMatchRun hooksMatchEmpty before
  have split : b = (a.act (({} : Bus).runWaitSets before)).runWaitSets after := by
    change ({} : Bus).runWaitSets acts = _
    rw [eq, runWaitSets, List.foldl_append, List.foldl_cons]
    rfl
  rw [split]
  exact runPending (hooksMatchAct begun a) (duePending begun due new) scan drop

example : let b :=
  ({} : Bus).runWaitSets [.newWaitSet, .newGuard, .newGuard, .newGuard, .attach 1 1, .attach 1 2, .attach 1 3,
    .detach 1 1, .scan 1, .adjust 2 (.setGuard true)]
    b.attachedTo 1 = [3, 2] ∧ b.isPending 1 = true ∧ b.triggered 1 = [2] := by
  decide

end Bus
end Databus
