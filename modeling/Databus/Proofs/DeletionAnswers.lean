import Databus.Proofs.CreationLog

/-! What a parent answers to a deletion, told by who was created under whom and which links are dissolved already. A
subscriber knows a reader that it does not list by its participant alone. -/
namespace Databus

namespace ParentLink

def Posed (b : Bus) : ParentLink → Prop
  | .group p g => (b.participants.get? p).isSome ∧ (b.groups.get? g).isSome
  | .writer g w => (b.writers.get? w).isSome ∧
    ∃ y, b.groups.get? g = some y ∧ y.side = .publication ∧ (b.participants.get? y.participant).isSome
  | .reader g r => (b.readers.get? r).isSome ∧
    ∃ y, b.groups.get? g = some y ∧ y.side = .subscription ∧ (b.participants.get? y.participant).isSome

def Bare (l : CreationLog) : ParentLink → Prop
  | .group _ g => (∀ w, .writer g w ∈ l.made → .writer g w ∈ l.gone) ∧
    ∀ r, .reader g r ∈ l.made → .reader g r ∈ l.gone
  | _ => True

def Stray (b : Bus) (l : CreationLog) : ParentLink → Prop
  | .reader g r => .reader g r ∉ l.made ∧ ∃ z y, b.readers.get? r = some z ∧ b.groups.get? g = some y ∧
    z.participant = y.participant
  | _ => False

structure Judged (b : Bus) (l : CreationLog) (d : ParentLink) : Prop where
  granted : (∃ b', d.answer b = .ok b') ↔ d ∈ l.made ∧ d ∉ l.gone ∧ d.Bare l
  repeated : d.answer b = .error .alreadyDeleted ↔ d ∈ l.gone ∨ d.Stray b l
  refused : (∃ text, d.answer b = .error (.preconditionNotMet text)) ↔ ¬ d.Stray b l ∧ (d ∉ l.made ∨ ¬ d.Bare l)

variable {b : Bus} {l : CreationLog}

theorem bareExact (h : b.LogAgrees l) {p g : InstanceHandle} {y : Group} (found : b.groups.get? g = some y) :
    Bare l (.group p g) ↔ y.endpoints = [] := by
  have sided := h.sided g y
  have held := h.held g y found
  rw [List.eq_nil_iff_forall_not_mem]
  unfold Group.link at held
  cases side : y.side with
  | publication =>
    simp only [side] at held sided
    have none (r : InstanceHandle) : ParentLink.reader g r ∉ l.made := fun made => nomatch (sided r found).2 made
    simp [Bare, held, none]
  | subscription =>
    simp only [side] at held sided
    have none (w : InstanceHandle) : ParentLink.writer g w ∉ l.made := fun made => nomatch (sided w found).1 made
    simp [Bare, held, none]

theorem groupJudged (h : b.LogAgrees l) {p g : InstanceHandle} (posed : Posed b (.group p g)) :
    Judged b l (.group p g) := by
  obtain ⟨present, there⟩ := posed
  obtain ⟨x, present⟩ := Option.isSome_iff_exists.1 present
  obtain ⟨y, found⟩ := Option.isSome_iff_exists.1 there
  have own := h.groups g y found p
  have bare := bareExact h (p := p) found
  have listed := h.listed p x present g
  have spent := h.spent (.group p g)
  have answers : answer b (.group p g) =
      if y.participant ≠ p then .error (.otherParticipant y.side)
      else if y.endpoints ≠ [] then .error (.stillOwns y.side y.endpoints.length)
      else if g ∉ x.groups then .error .alreadyDeleted
      else .ok { b.markDeleted g with
        participants := b.participants.modify p fun x => { x with groups := x.groups.erase g } } := by
    simp only [answer, Bus.deleteGroup, found, Bus.owns, present, Bool.not_eq_true', decide_eq_false_iff_not]
  by_cases mine : y.participant = p
  · rw [if_neg (Decidable.not_not.2 mine)] at answers
    have made := own.2 mine.symm
    by_cases none : y.endpoints = []
    · rw [if_neg (Decidable.not_not.2 none)] at answers
      by_cases here : g ∈ x.groups
      · rw [if_neg (Decidable.not_not.2 here)] at answers
        exact ⟨by simp [answers, made, (listed.1 here).2, bare.2 none], by simp [answers, (listed.1 here).2, Stray],
          by simp [answers, made, bare.2 none]⟩
      · rw [if_pos here] at answers
        have gone : ParentLink.group p g ∈ l.gone := Decidable.not_not.1 fun live => here (listed.2 ⟨made, live⟩)
        exact ⟨by simp [answers, gone], by simp [answers, gone], by simp [answers, made, bare.2 none]⟩
    · rw [if_pos none] at answers
      have live : ParentLink.group p g ∉ l.gone := fun gone => none (h.shut g y p found gone).2
      have owning := mt bare.1 none
      exact ⟨by simp [answers, owning], by simp [answers, live, Stray, Fault.stillOwns],
        by simp [answers, owning, Stray, Fault.stillOwns]⟩
  · rw [if_pos mine] at answers
    have other := mt own.1 (Ne.symm mine)
    exact ⟨by simp [answers, other], by simp [answers, mt spent other, Stray, Fault.otherParticipant],
      by simp [answers, other, Stray, Fault.otherParticipant]⟩

theorem writerJudged (h : b.LogAgrees l) {g w : InstanceHandle} (posed : Posed b (.writer g w)) :
    Judged b l (.writer g w) := by
  obtain ⟨there, y, found, side, present⟩ := posed
  obtain ⟨z, known⟩ := Option.isSome_iff_exists.1 there
  have own := h.writers w z known g
  have held := h.held g y found w
  have spent := h.spent (.writer g w)
  rw [Group.link, side] at held
  by_cases mine : z.publisher = g
  · have made := own.2 mine.symm
    by_cases here : w ∈ y.endpoints
    · have answers : ∃ b', answer b (.writer g w) = .ok b' := by
        simp only [answer, Bus.deleteWriter, known, found, if_neg (Decidable.not_not.2 mine),
          if_neg (Decidable.not_not.2 here)]
        exact ⟨_, rfl⟩
      obtain ⟨b', answers⟩ := answers
      exact ⟨by simp [answers, made, (held.1 here).2, Bare], by simp [answers, (held.1 here).2, Stray],
        by simp [answers, made, Bare]⟩
    · have answers : answer b (.writer g w) = .error .alreadyDeleted := by
        simp only [answer, Bus.deleteWriter, known, found, if_neg (Decidable.not_not.2 mine), if_pos here]
      have gone : ParentLink.writer g w ∈ l.gone := Decidable.not_not.1 fun live => here (held.2 ⟨made, live⟩)
      exact ⟨by simp [answers, gone], by simp [answers, gone], by simp [answers, made, Bare]⟩
  · have answers : answer b (.writer g w) = .error (.otherPublisher w) := by
      simp only [answer, Bus.deleteWriter, known, found, if_pos mine]
    have other := mt own.1 (Ne.symm mine)
    exact ⟨by simp [answers, other], by simp [answers, mt spent other, Stray, Fault.otherPublisher],
      by simp [answers, other, Stray, Fault.otherPublisher]⟩

theorem readerJudged (h : b.LogAgrees l) {g r : InstanceHandle} (posed : Posed b (.reader g r)) :
    Judged b l (.reader g r) := by
  obtain ⟨there, y, found, side, present⟩ := posed
  obtain ⟨z, known⟩ := Option.isSome_iff_exists.1 there
  have held := h.held g y found r
  have spent := h.spent (.reader g r)
  rw [Group.link, side] at held
  have stray : Stray b l (.reader g r) ↔ .reader g r ∉ l.made ∧ z.participant = y.participant := by
    simp [Stray, known, found]
  by_cases here : r ∈ y.endpoints
  · have answers : ∃ b', answer b (.reader g r) = .ok b' := by
      simp only [answer, Bus.deleteReader, known, found, if_neg (Decidable.not_not.2 here)]
      exact ⟨_, rfl⟩
    obtain ⟨b', answers⟩ := answers
    obtain ⟨made, live⟩ := held.1 here
    exact ⟨by simp [answers, made, live, Bare], by simp [answers, live, stray, made], by simp [answers, made, Bare]⟩
  · have answers : answer b (.reader g r) =
        .error (if z.participant = y.participant then .alreadyDeleted else .readerOfOther r) := by
      simp only [answer, Bus.deleteReader, known, found, if_pos here]
    by_cases same : z.participant = y.participant
    · rw [if_pos same] at answers
      by_cases made : ParentLink.reader g r ∈ l.made
      · have gone : ParentLink.reader g r ∈ l.gone := Decidable.not_not.1 fun live => here (held.2 ⟨made, live⟩)
        exact ⟨by simp [answers, gone], by simp [answers, gone], by simp [answers, made, Bare]⟩
      · exact ⟨by simp [answers, made], by simp [answers, stray, made, same], by simp [answers, stray, made, same]⟩
    · rw [if_neg same] at answers
      have other : ParentLink.reader g r ∉ l.made := fun made => same (h.readers r z g y known found made)
      exact ⟨by simp [answers, other], by simp [answers, mt spent other, stray, same, Fault.readerOfOther],
        by simp [answers, other, stray, same, Fault.readerOfOther]⟩

theorem judged (h : b.LogAgrees l) {d : ParentLink} (posed : d.Posed b) : d.Judged b l := by
  cases d with
  | group p g => exact groupJudged h posed
  | writer g w => exact writerJudged h posed
  | reader g r => exact readerJudged h posed

theorem refusedStays {d : ParentLink} {f : Fault} (refused : d.answer b = .error f) : b.request d.deletion = b := by
  cases d <;> simp only [answer] at refused <;> simp only [deletion, Bus.request, refused, Bus.after]

theorem grantedGone {d : ParentLink} {b' : Bus} (granted : d.answer b = .ok b') : d ∈ (l.enter b d.deletion).gone := by
  cases d <;> simp only [answer] at granted <;>
    simp [deletion, CreationLog.enter, Request.dissolves?, granted, Except.toOption]

end ParentLink

namespace Bus

/-- After any requests, and for any entity of the right kind asked for at a parent whose participant is present: the
deletion is granted exactly where the parent created the entity, has not deleted it, and it owns nothing; what was
deleted stays deleted; and but for strays, whatever is refused otherwise fails its precondition. -/
theorem deletionsJudged (requests : List Request) (d : ParentLink) (posed : d.Posed (({} : Bus).run requests)) :
    let b := ({} : Bus).run requests
    let l := ({} : Bus).creationLog {} requests
    ((∃ b', d.answer b = .ok b') ↔ d ∈ l.made ∧ d ∉ l.gone ∧ d.Bare l) ∧
    (d.answer b = .error .alreadyDeleted ↔ d ∈ l.gone ∨ d.Stray b l) ∧
    ((∃ text, d.answer b = .error (.preconditionNotMet text)) ↔ ¬ d.Stray b l ∧ (d ∉ l.made ∨ ¬ d.Bare l)) ∧
    (∀ f, d.answer b = .error f → b.request d.deletion = b) ∧
    ((∃ b', d.answer b = .ok b') → ∀ later, d.Posed ((b.request d.deletion).run later) →
      d.answer ((b.request d.deletion).run later) = .error .alreadyDeleted) := by
  intro b l
  have creationInvariant : CreationInvariant b l := creationInvariantEmpty.run requests
  obtain ⟨granted, repeated, refused⟩ := ParentLink.judged creationInvariant.logAgrees posed
  refine ⟨granted, repeated, refused, fun f => ParentLink.refusedStays, fun ⟨b', ok⟩ later again => ?_⟩
  have next := creationInvariant.run (d.deletion :: later)
  refine (ParentLink.judged next.logAgrees again).repeated.2 (.inl ?_)
  exact (creationLogGrow later _ _).2 d (ParentLink.grantedGone ok)

def siblings : List Request :=
  [.join 0, .registerType 1 "T", .createTopic 1 "t" "T" .standard, .createGroup .subscription 1,
    .createGroup .subscription 1, .createReader 4 ⟨1, "t", "T", .standard⟩ .standard]

theorem siblingsDelete :
    let b := ({} : Bus).run siblings
    (∃ b', ParentLink.answer b (.reader 4 6) = .ok b') ∧
      ParentLink.answer ((b.request (.deleteReader 4 6)).run [.createGroup .publication 1]) (.reader 4 6) =
        .error .alreadyDeleted := by
  intro b
  have posed : ParentLink.Posed b (.reader 4 6) := by
    refine ⟨by decide +kernel, ⟨.subscription, 1, 0, [6], false⟩, by decide +kernel, rfl, by decide +kernel⟩
  obtain ⟨granted, _, _, _, again⟩ := deletionsJudged siblings (.reader 4 6) posed
  have given := granted.2 ⟨by decide +kernel, by decide +kernel, trivial⟩
  refine ⟨given, again given [.createGroup .publication 1] ⟨by decide +kernel, ⟨.subscription, 1, 0, [], false⟩,
    by decide +kernel, rfl, by decide +kernel⟩⟩

/-- A live reader, asked for at a sibling of its subscriber, is answered as deleted. -/
theorem strayPassesForDeleted :
    let b := ({} : Bus).run siblings
    let l := ({} : Bus).creationLog {} siblings
    ParentLink.Posed b (.reader 5 6) ∧ .reader 4 6 ∈ l.made ∧ l.gone = [] ∧ .reader 5 6 ∉ l.made ∧
      ParentLink.answer b (.reader 5 6) = .error .alreadyDeleted ∧ ∃ b',
        ParentLink.answer b (.reader 4 6) = .ok b' := by
  intro b l
  have logAgrees : LogAgrees b l := (creationInvariantEmpty.run siblings).logAgrees
  have known : (b.readers.get? 6).map Reader.participant = some 1 := by decide +kernel
  obtain ⟨z, known, owner⟩ := Option.map_eq_some_iff.1 known
  have first : b.groups.get? 4 = some ⟨.subscription, 1, 0, [6], false⟩ := by decide +kernel
  have second : b.groups.get? 5 = some ⟨.subscription, 1, 0, [], false⟩ := by decide +kernel
  have present : (b.participants.get? 1).isSome := by decide +kernel
  have posed : ParentLink.Posed b (.reader 5 6) := ⟨Option.isSome_of_mem known, _, second, rfl, present⟩
  have unmade : ParentLink.reader 5 6 ∉ l.made := by decide +kernel
  have made : ParentLink.reader 4 6 ∈ l.made := by decide +kernel
  have none : l.gone = [] := by decide +kernel
  refine ⟨posed, made, none, unmade, ?_, ?_⟩
  · exact (ParentLink.readerJudged logAgrees posed).repeated.2 (.inr ⟨unmade, z, _, known, second, owner⟩)
  · have own := ParentLink.readerJudged logAgrees (g := 4) (r := 6) ⟨Option.isSome_of_mem known, _, first, rfl, present⟩
    exact own.granted.2 ⟨made, by simp [none], trivial⟩

end Bus
end Databus
