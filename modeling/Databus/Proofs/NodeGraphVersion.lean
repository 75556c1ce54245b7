import Databus.Proofs.GraphAgreement
import Databus.Proofs.CallRequests
import Databus.Proofs.GraphVersion

/-! What calls ask of the bus is gentle to every watch that lives on, so the version of a live node's graph counts what
came into the node's sight and left it, over all acts and from before the node was there. -/
namespace Databus

def Any (_ _ : String) : Prop := True

namespace Bus

variable {P : Bus → Request → Prop} {w : NodeWatch} {m : Member}

theorem allowedAll {requests : List Request} (each : ∀ q ∈ requests, ∀ b, P b q) (b : Bus) :
    Allowed P b requests := by
  induction requests generalizing b with
  | nil => trivial
  | cons q rest ih => exact ⟨each q List.mem_cons_self b, ih (fun q mem => each q (List.mem_cons_of_mem _ mem)) _⟩

theorem allowedAppend {b : Bus} {requests later : List Request} (first : Allowed P b requests)
    (second : Allowed P (b.run requests) later) : Allowed P b (requests ++ later) := by
  induction requests generalizing b with
  | nil => exact second
  | cons q rest ih => exact ⟨first.1, ih first.2 second⟩

theorem gentleRequest {q : Request} (gentle : q.isGentle) (b : Bus) : Gentle Any w m b q := by
  cases q <;> first | exact ⟨trivial, trivial⟩ | cases gentle

theorem detachGentle {r : InstanceHandle} (other : ∀ side, r ≠ m.inbox side) (b : Bus) :
    Gentle Any w m b (.setListener r none) := ⟨trivial, other, fun _ _ _ none => nomatch none⟩

end Bus

namespace Middleware

open Bus (Allowed Gentle)

variable {K : Type} {s : System K} {own : List InstanceHandle} {w : NodeWatch} {m : Member}

/-! ### Gentle calls -/

theorem nodeCreationGentle (site : Site K) (orderly : site.bus.Orderly Any) (watched : site.bus.Watched w m)
    (name : String) : Allowed (Gentle Any w m) site.bus (site.nodeCreationAsks name) := by
  have joins : (site.bus.request (.join site.context.settings.domain)).Orderly Any :=
    Bus.orderlyRequest orderly trivial
  have older : w.graph < (site.bus.request (.join site.context.settings.domain)).nextKey := by
    obtain ⟨g, fed, _⟩ := Bus.watchedRequest (q := .join site.context.settings.domain) orderly watched trivial trivial
    exact joins.membersAgree.graphs _ g fed.graph
  obtain ⟨g, fed, _⟩ := watched
  have apart (side side' : Side) : (site.bus.newMember site.context.settings.domain).inbox side ≠ m.inbox side' := by
    obtain ⟨x, found, _⟩ := fed.reader side'
    exact Nat.ne_of_gt (Nat.lt_trans (orderly.membersAgree.readers _ x found)
      (Bus.memberInbox site.bus site.context.settings.domain side))
  unfold Site.nodeCreationAsks
  split
  · trivial
  · rw [List.cons_append]
    refine ⟨⟨trivial, trivial⟩, Bus.allowedAppend ?_ (Bus.allowedAll (fun q mem b => ?_) _)⟩
    · exact Bus.allowedBoth (Site.equipProper Any _ _ _) (Site.equipSpares _ older apart)
    · split at mem
      · cases mem
      · obtain rfl := List.mem_singleton.1 mem
        exact ⟨trivial, Nat.ne_of_gt (orderly.membersAgree.old _ m fed.member)⟩

section Calls

variable [Catalog K] [DecidableEq K]

theorem endsOthers (sound : s.Sound) (h : Agrees Any s.bus (.of s.contexts) own) {call : Call K} {n : NodeRecord}
    (ends : s.Ends call n) (stays : (Directory.of (s.serve call).contexts).Live w) :
    n.participant ≠ w.participant := by
  obtain ⟨ctx', k', n', live, rfl⟩ := stays
  obtain ⟨ctx, c, known, ⟨rfl, listed⟩ | ⟨k, rfl, found, ok⟩⟩ := ends <;> intro same
  · obtain ⟨k, there⟩ := Arena.memValues.1 listed
    simp only [System.serve, System.close, known] at live
    rw [Directory.ofErase] at live
    obtain ⟨other, before⟩ := Directory.shutNode.1 live
    exact other (h.apart _ _ _ _ _ _ (((Directory.ofKnown known).2.1 k).trans there) before same).1.symm
  · rcases performSplit s ctx "destroy_node" (Site.destroyNode · (some k)) with
      ⟨absent, _⟩ | ⟨c', known', _, contexts, _⟩
    · rw [known] at absent
      cases absent
    · cases Option.some.inj (known.symm.trans known')
      have parted := Site.destroyNodeRemovesNode (s := ⟨s.bus, s.observed, c⟩) (sound.tables ctx c known) (some k)
      rw [System.serve, System.destroyNode, contexts] at live
      rw [ok] at parted
      generalize (Site.destroyNode ⟨s.bus, s.observed, c⟩ (some k)).1 = site at parted live
      cases parted with
      | parted idle sound' removesNode =>
        rw [Directory.ofRemovesNode known removesNode] at live
        obtain ⟨other, before⟩ := Directory.clearNode.1 live
        obtain ⟨rfl, rfl⟩ := h.apart _ _ _ _ _ _ (((Directory.ofKnown known).2.1 k).trans found) before same
        exact other ⟨rfl, rfl⟩

theorem asksGentle (sound : s.Sound) (h : Agrees Any s.bus (.of s.contexts) own) (call : Call K)
    (stays : (Directory.of (s.serve call).contexts).Live w) (watched : s.bus.Watched w m) :
    Allowed (Gentle Any w m) s.bus (s.asks call) := by
  have member : s.bus.members.get? w.participant = some m := by
    obtain ⟨g, fed, _⟩ := watched
    exact fed.member
  have others (creates : ∀ ctx name, call ≠ .createNode ctx name) :
      Allowed (Gentle Any w m) s.bus (s.asks call) := by
    refine Bus.allowedAll (fun q mem b => ?_) _
    cases s.asked creates q mem with
    | gentle gentle => exact Bus.gentleRequest gentle b
    | leaves ends => exact ⟨trivial, endsOthers sound h ends stays⟩
    | detaches ends found side =>
      have peer := (h.orderly.membersAgree.members _).trans (congrArg (Option.map Participant.member) found)
      refine Bus.detachGentle (fun side' same => ?_) b
      exact endsOthers sound h ends stays (h.orderly.membersAgree.inboxOwn member peer same).1
    | @takes ctx c k r known found =>
      have held := Directory.ofSubscription known found
      exact ⟨trivial, fun side same => (h.outer ctx _ _ held).2 _ m side member same.symm⟩
  cases call with
  | createNode ctx name =>
    cases known : s.contexts.get? ctx with
    | none =>
      simp only [System.asks, known]
      trivial
    | some c =>
      exact System.asksNodeCreation known name ▸ nodeCreationGentle ⟨s.bus, s.observed, c⟩ h.orderly watched name
  | _ => exact others fun _ _ own => by cases own

theorem signalsWait (s : System K) {call : Call K} (signals : call.signals = true) :
    Bus.OnlyWaits s.bus (s.serve call).bus := by
  have idle : Bus.OnlyWaits s.bus s.bus := .ofSignals (.refl _)
  cases call with
  | triggerGuard ctx h =>
    rcases performSplit s ctx "trigger_guard_condition" (Site.triggerGuard · h) with ⟨_, bus, _⟩ | ⟨c, _, bus, _⟩
    · exact bus.symm ▸ idle
    · refine bus.symm ▸ ?_
      unfold Site.triggerGuard
      split
      · exact idle
      · exact .ofSignals (Bus.setGuardFrame _ _ _)
  | beginWait ctx clock timeout subscriptions guards =>
    rcases performSplit s ctx "wait" (Site.beginWait clock timeout subscriptions guards) with
      ⟨_, bus, _⟩ | ⟨c, _, bus, _⟩
    · exact bus.symm ▸ idle
    · exact bus.symm ▸ (Site.beginWaitWaits ⟨s.bus, s.observed, c⟩ clock timeout subscriptions guards).1
  | turn t now => exact (System.turnWaits s t now).1
  | endWait t expired => exact System.endWaitWaits s t expired
  | _ => cases signals

/-! ### Nodes that are new -/

omit [Catalog K] [DecidableEq K] in
theorem stepNodes {asked : TypeSupport K → String → Prop} {b b' : Bus} {t t' : Table ContextId (Context K)}
    (step : System.Step asked b t b' t') {ctx : ContextId} {k : Handle .node} {n' : NodeRecord}
    (found : (Directory.of t').node ctx k = some n') :
    (∃ n, (Directory.of t).node ctx k = some n ∧ n.watch = n'.watch) ∨
      ∃ name domain, Site.joinNode b name domain = .ok (n', b') := by
  cases step with
  | idle waits => exact .inl ⟨n', found, rfl⟩
  | opened new sound bare unstaked =>
    rw [Directory.ofOpened new bare unstaked] at found
    exact .inl ⟨n', found, rfl⟩
  | closed known =>
    rw [Directory.ofErase] at found
    exact .inl ⟨n', (Directory.shutNode.1 found).2, rfl⟩
  | @acted ctx' c observed s' known siteStep =>
    have same {c' : Context K} (same : c.SameTables c')
        (found : (Directory.of (t.insert ctx' c')).node ctx k = some n') :
        ∃ n, (Directory.of t).node ctx k = some n ∧ n.watch = n'.watch :=
      ⟨n', Directory.ofSame known same ▸ found, rfl⟩
    cases siteStep with
    | aside how =>
      cases how with
      | quiet calm kept sound => exact .inl (same kept found)
      | addsNode how =>
        cases how with
        | refused => exact .inl (same (.refl c) found)
        | full joined sound kept => exact .inl (same kept found)
        | nodeAdded joined sound addsNode =>
          rw [Directory.ofAddsNode known addsNode] at found
          have vacant := ((Directory.ofKnown known).2.1 _).trans addsNode.fresh
          rcases (Directory.setNodeNode vacant).1 found with ⟨_, _, rfl⟩ | old
          · exact .inr ⟨_, _, joined⟩
          · exact .inl ⟨n', old, rfl⟩
      | removesNode how =>
        cases how with
        | refused => exact .inl (same (.refl c) found)
        | parted idle sound removesNode =>
          rw [Directory.ofRemovesNode known removesNode] at found
          exact .inl ⟨n', (Directory.clearNode.1 found).2, rfl⟩
    | grants asked how =>
      cases how with
      | granted _ _ _ _ _ _ enters =>
        rw [Directory.ofEnters known enters] at found
        exact .inl (Agrees.counted found)
      | _ => exact .inl (same (.refl c) found)
    | releases how =>
      cases how with
      | refused => exact .inl (same (.refl c) found)
      | orphaned _ _ _ _ givesUp | released _ _ _ _ givesUp =>
        rw [Directory.ofGivesUp known givesUp] at found
        obtain ⟨n, before, watch⟩ := Agrees.counted found
        exact .inl ⟨n, before, watch⟩
    | writes | takes => exact .inl (same (.refl c) found)

omit [Catalog K] [DecidableEq K] in
theorem memberOld {b : Bus} {requests : List Request} (joins : ∀ q ∈ requests, ∀ domain, q ≠ .join domain)
    {p : InstanceHandle} (found : (b.run requests).members.get? p = some m) : b.members.get? p = some m := by
  induction requests generalizing b with
  | nil => exact found
  | cons q rest ih =>
    rcases Bus.memberNew (ih (fun q mem => joins q (List.mem_cons_of_mem _ mem)) found) with old | ⟨_, domain, own, _⟩
    · exact old
    · exact absurd own (joins q List.mem_cons_self domain)

theorem serveMember {call : Call K} (creates : ∀ ctx name, call ≠ .createNode ctx name) {p : InstanceHandle}
    (found : (s.serve call).bus.members.get? p = some m) : s.bus.members.get? p = some m := by
  cases signals : call.signals with
  | true => exact (signalsWait s signals).members ▸ found
  | false =>
    rw [s.serveRuns signals] at found
    refine memberOld (fun q mem domain own => ?_) found
    subst own
    cases s.asked creates _ mem with
    | gentle gentle => cases gentle

omit [Catalog K] [DecidableEq K] in
theorem nodeCreationCounts {site : Site K} (sound : site.context.Sound) (orderly : site.bus.Orderly Any) (name : String)
    {k : Handle .node} {n' : NodeRecord} (found : (site.createNode name).1.context.nodes.find? k = some n') :
    site.context.nodes.find? k = some n' ∨ n'.participant = site.bus.nextHandle ∧
      (site.createNode name).1.bus.version n'.graph = site.bus.applied n'.participant (site.nodeCreationAsks name) := by
  have how := Site.createNodeAddsNode sound name
  unfold Site.nodeCreationAsks
  cases result : (site.createNode name).2 with
  | error f =>
    rw [result] at how
    generalize (site.createNode name).1 = site' at how found
    cases how with
    | refused => exact .inl found
    | full joined sound' same => exact .inl ((same.nodes k).symm.trans found)
  | ok h =>
    rw [result] at how
    dsimp only
    generalize (site.createNode name).1 = site' at how found
    cases how with
    | @nodeAdded n b _ c joined sound' addsNode =>
      rw [addsNode.nodes] at found
      split at found
      · cases Option.some.inj found
        obtain ⟨fits, _, _, watch, rfl⟩ := Site.joinNodeOpens joined
        have named : ¬ (name = "" ∨ maxDomainId < site.context.settings.domain) := by
          rintro (rfl | large)
          · cases result
          · exact Nat.not_lt.2 fits large
        have counted := Site.enterVersion orderly fits
        dsimp only at counted
        rw [← watch, Bus.runFirst] at counted
        have participant : n'.participant = site.bus.nextHandle := congrArg NodeWatch.participant watch
        rw [if_neg named, List.append_nil, participant, ← watch]
        dsimp only
        exact .inr ⟨rfl, counted⟩
      · exact .inl found

theorem serveNodes (sound : s.Sound) (h : Agrees Any s.bus (.of s.contexts) own) (call : Call K) {ctx : ContextId}
    {k : Handle .node} {n' : NodeRecord} (found : (Directory.of (s.serve call).contexts).node ctx k = some n') :
    (∃ n, (Directory.of s.contexts).node ctx k = some n ∧ n.watch = n'.watch) ∨
      n'.participant = s.bus.nextHandle ∧
        (s.serve call).bus.version n'.graph = s.bus.applied n'.participant (s.asks call) := by
  have others (creates : ∀ ctx name, call ≠ .createNode ctx name) :
      ∃ n, (Directory.of s.contexts).node ctx k = some n ∧ n.watch = n'.watch := by
    rcases stepNodes (System.serveSteps sound call).1 found with old | ⟨name, domain, joined⟩
    · exact old
    · -- a participant that is new is no member yet, and only creating a node makes it one
      obtain ⟨participant, _, ⟨g, fed, _⟩, _⟩ := Site.joinNodeWatched h.orderly joined
      have old := h.orderly.membersAgree.old _ _ (serveMember creates fed.member)
      exact absurd participant (Nat.ne_of_lt old)
  cases call with
  | createNode ctx' name =>
    rcases performSplit s ctx' "create_node" (Site.createNode · name) with
      ⟨absent, _, contexts, _⟩ | ⟨c, known, bus, contexts, _⟩
    · rw [System.serve, System.createNode, contexts] at found
      exact .inl ⟨n', found, rfl⟩
    · rw [System.serve, System.createNode, contexts, (Directory.ofInsert _ _ _).2.1] at found
      rw [System.asksNodeCreation known, System.serve, System.createNode, bus]
      split at found
      · rename_i own
        rcases nodeCreationCounts (sound.tables ctx' c known) h.orderly name found with old | new
        · exact .inl ⟨n', own ▸ ((Directory.ofKnown known).2.1 k).trans old, rfl⟩
        · exact .inr new
      · exact .inl ⟨n', found, rfl⟩
  | _ => exact .inl (others fun _ _ own => by cases own)

end Calls

end Middleware
end Databus
