import Databus.Proofs.NodeGraphVersion

/-! Guards that callers create for themselves are theirs alone: no graph ever raises them. Guards that graphs raise are
made with the node that listens, and are new as it comes. -/
namespace Databus

namespace Bus

variable {b : Bus} {γ : GraphId} {k : ConditionId}

theorem requestFeeds {q : Request} (feeds : (b.request q).Feeds γ k) :
    b.Feeds γ k ∨ ∃ side, q = .newListener (.discovery side γ k) := by
  obtain ⟨l, side, found⟩ := feeds
  rcases openedListeners (q.opened b) ((requestSteady b q).discovery.1 found) with old | new
  · exact .inl ⟨l, side, old⟩
  · exact .inr ⟨side, new⟩

theorem runFeeds {requests : List Request} (feeds : (b.run requests).Feeds γ k) :
    b.Feeds γ k ∨ ∃ side, .newListener (.discovery side γ k) ∈ requests := by
  induction requests generalizing b with
  | nil => exact .inl feeds
  | cons q rest ih =>
    rcases ih feeds with first | ⟨side, later⟩
    · exact (requestFeeds first).imp_right fun ⟨side, own⟩ => ⟨side, own ▸ List.mem_cons_self⟩
    · exact .inr ⟨side, List.mem_cons_of_mem q later⟩

end Bus

namespace Middleware

open Bus (Wired)

variable {K : Type}

def Reserved (b : Bus) (t : Table ContextId (Context K)) : Prop :=
  ∀ ctx c h g, t.get? ctx = some c → c.guards.find? h = some g → g.owner = .caller →
    ∀ γ, ¬ b.Feeds γ g.condition

theorem Site.nodeCreationListeners {s : Site K} {name : String} {l : Listener}
    (listed : .newListener l ∈ s.nodeCreationAsks name) :
    ∃ side γ, l = .discovery side γ (s.bus.request (.join s.context.settings.domain)).nextCondition := by
  unfold nodeCreationAsks at listed
  split at listed
  · cases listed
  · rw [List.cons_append, List.mem_cons, List.mem_append] at listed
    rcases listed with own | listed | listed
    · cases own
    · simp only [equip, List.mem_cons, List.not_mem_nil, or_false, reduceCtorEq, false_or,
        Request.newListener.injEq] at listed
      rcases listed with rfl | rfl
      · exact ⟨.publication, _, rfl⟩
      · exact ⟨.subscription, _, rfl⟩
    · split at listed
      · cases listed
      · cases List.mem_singleton.1 listed

variable [Catalog K] [DecidableEq K] {s : System K}

theorem System.serveFeeds (statusesAgree : s.bus.StatusesAgree) {call : Call K} {γ : GraphId} {k : ConditionId}
    (guard : s.bus.IsGuard k) (feeds : (s.serve call).bus.Feeds γ k) : s.bus.Feeds γ k := by
  cases signals : call.signals with
  | true =>
    obtain ⟨l, side, found⟩ := feeds
    exact ⟨l, side, (signalsWait s signals).listeners ▸ found⟩
  | false =>
    rw [s.serveRuns signals] at feeds
    refine (Bus.runFeeds feeds).resolve_right fun ⟨side, listed⟩ => ?_
    have others (creates : ∀ ctx name, call ≠ .createNode ctx name) : False := by
      cases s.asked creates _ listed with
      | gentle gentle => cases gentle
    cases call with
    | createNode ctx name =>
      cases known : s.contexts.get? ctx with
      | none =>
        simp only [asks, known] at listed
        cases listed
      | some c =>
        rw [asksNodeCreation known] at listed
        obtain ⟨_, _, own⟩ := Site.nodeCreationListeners listed
        cases own
        obtain ⟨raised, there⟩ := guard
        obtain ⟨statusesAgree', evolves⟩ := s.bus.requestLeads (.join c.settings.domain) statusesAgree
        obtain ⟨t, there', _⟩ := evolves.triggers _ _ there
        exact Nat.lt_irrefl _ (statusesAgree'.conditions _ t there')
    | _ => exact others fun _ _ own => by cases own

namespace Reserved

omit [Catalog K] [DecidableEq K] in
theorem fresh : Reserved {} (.empty : Table ContextId (Context K)) := fun _ _ _ _ known => nomatch known

theorem serve (sound : s.Sound) (conditionsAgree : ConditionsAgree s.bus s.contexts) (wired : Wired s.bus)
    (h : Reserved s.bus s.contexts) (call : Call K) : Reserved (s.serve call).bus (s.serve call).contexts := by
  have old {ctx : ContextId} {c : Context K} {k : Handle .guardCondition} {g : GuardRecord}
      (known : s.contexts.get? ctx = some c) (found : c.guards.find? k = some g) (own : g.owner = .caller)
      (γ : GraphId) (feeds : (s.serve call).bus.Feeds γ g.condition) : False :=
    h ctx c k g known found own γ
      (System.serveFeeds conditionsAgree.statusesAgree (conditionsAgree.guards ctx c k g known found) feeds)
  intro ctx c k g known found own γ feeds
  cases System.serveConditionsKept sound conditionsAgree.statusesAgree call with
  | idle leads contexts =>
    rw [contexts] at known
    exact old known found own γ feeds
  | opened bus contexts unsubscribed unguarded =>
    rw [contexts, Table.getInsert] at known
    split at known
    · cases Option.some.inj known
      exact nomatch (unguarded k).symm.trans found
    · exact old known found own γ feeds
  | closed leads contexts =>
    rw [contexts, Table.getErase] at known
    split at known
    · cases known
    · exact old known found own γ feeds
  | @acted ctx' c' site there keepsConditions bus contexts =>
    rw [contexts, Table.getInsert] at known
    split at known
    · cases Option.some.inj known
      rcases keepsConditions.guards k g found with before | ⟨_, ⟨node, owner⟩ | ⟨condition, listeners⟩⟩
      · exact old there before own γ feeds
      · exact nomatch own.symm.trans owner
      · rw [bus] at feeds
        obtain ⟨l, side, heard⟩ := feeds
        have fed : s.bus.Feeds γ g.condition := ⟨l, side, listeners ▸ heard⟩
        obtain ⟨raised, guard⟩ := wired.guards γ _ fed
        exact Nat.lt_irrefl _ (condition ▸ wired.conditions _ _ guard)
    · exact old known found own γ feeds

end Reserved

end Middleware
end Databus
