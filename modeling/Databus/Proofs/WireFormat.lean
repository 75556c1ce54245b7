import Databus.Announcement

/-! The wire form of announcements from both sides: exactly the octets of that form are accepted, each as the one
announcement that is written so, and all others are refused as bad parameters. A reader that moves along the octets and
may not look outside of them comes to the same. -/
namespace Databus

namespace Octets

def IsText (o : Octets) : Prop := (⟨o.toArray⟩ : ByteArray).IsValidUTF8

def measured (o : Octets) : Octets := word 4 o.length ++ o

theorem textIsText (s : String) : (ofText s).IsText := s.isValidUTF8

theorem isTextExact {o : Octets} (text : o.IsText) : ∃ s, ofText s = o :=
  ⟨String.fromUTF8 ⟨o.toArray⟩ text, rfl⟩

theorem textMeasured (s : String) : (ofText s).measured = Announcement.textField s := by
  rw [measured, textLength, Announcement.textField]

end Octets

namespace Announcement

/-- Two handles of eight octets each, then two texts behind their lengths, and nothing more. -/
inductive WireForm : Octets → Prop
  | intro {key participant topic type : Octets} (keyWide : key.length = 8) (participantWide : participant.length = 8)
    (topicFits : topic.length < UInt32.size) (topicText : topic.IsText) (typeFits : type.length < UInt32.size)
    (typeText : type.IsText) : WireForm (key ++ participant ++ topic.measured ++ type.measured)

/-! ### What is accepted -/

theorem decodeExact {o : Octets} {a : Announcement} : decode o = .ok a ↔
    a.encode = o ∧ a.topic.utf8ByteSize < UInt32.size ∧ a.type.utf8ByteSize < UInt32.size := by
  constructor
  · exact encodeDecoded
  · rintro ⟨rfl, topic, type⟩
    exact decodeEncoded topic type

theorem handleExact {o : Octets} (wide : o.length = 8) : ∃ key : UInt64, Octets.word 8 key.toNat = o := by
  have small : o.toNat < UInt64.size := by
    have bound := Octets.readBounded o
    rwa [wide] at bound
  have word := Octets.wordRead o
  rw [wide] at word
  exact ⟨UInt64.ofNat o.toNat, by rw [UInt64.toNat_ofNat_of_lt' small, word]⟩

theorem acceptedExact {o : Octets} : (∃ a, decode o = .ok a) ↔ WireForm o := by
  constructor
  · rintro ⟨a, ok⟩
    obtain ⟨rfl, topic, type⟩ := decodeExact.1 ok
    rw [encode, ← Octets.textMeasured, ← Octets.textMeasured]
    exact .intro (Octets.wordLength 8 _) (Octets.wordLength 8 _) topic (Octets.textIsText _) type (Octets.textIsText _)
  · intro form
    cases form with
    | intro keyWide participantWide topicFits topicText typeFits typeText =>
      obtain ⟨key, rfl⟩ := handleExact keyWide
      obtain ⟨participant, rfl⟩ := handleExact participantWide
      obtain ⟨topic, rfl⟩ := Octets.isTextExact topicText
      obtain ⟨type, rfl⟩ := Octets.isTextExact typeText
      refine ⟨⟨key, participant, topic, type⟩, decodeExact.2 ⟨?_, topicFits, typeFits⟩⟩
      rw [encode, Octets.textMeasured, Octets.textMeasured]

/-! ### Where the wire form ends -/

theorem measuredUnique {o o' rest rest' : Octets} (fits : o.length < UInt32.size) (fits' : o'.length < UInt32.size)
    (same : o.measured ++ rest = o'.measured ++ rest') : o = o' ∧ rest = rest' := by
  rw [Octets.measured, Octets.measured, List.append_assoc, List.append_assoc] at same
  obtain ⟨size, content⟩ := List.append_inj same (by rw [Octets.wordLength, Octets.wordLength])
  have read {n : Nat} (small : n < UInt32.size) : (Octets.word 4 n).toNat = n := Octets.readWord small
  have length : o.length = o'.length := by
    have value := congrArg Octets.toNat size
    rwa [read fits, read fits'] at value
  exact List.append_inj content length

theorem formComplete {o more : Octets} (form : WireForm o) (longer : WireForm (o ++ more)) : more = [] := by
  cases form with
  | @intro key participant topic type keyWide participantWide topicFits _ typeFits _ =>
    generalize whole : key ++ participant ++ topic.measured ++ type.measured ++ more = longerOctets at longer
    cases longer with
    | @intro key' participant' topic' type' keyWide' participantWide' topicFits' _ typeFits' _ =>
      simp only [List.append_assoc] at whole
      obtain ⟨_, afterKey⟩ := List.append_inj whole (keyWide.trans keyWide'.symm)
      obtain ⟨_, afterParticipant⟩ := List.append_inj afterKey (participantWide.trans participantWide'.symm)
      obtain ⟨_, afterTopic⟩ := measuredUnique topicFits topicFits' afterParticipant
      rw [← List.append_nil type'.measured] at afterTopic
      exact (measuredUnique typeFits typeFits' afterTopic).2

/-! ### What is refused -/

def Blames {α : Type} (m : Except Fault α) : Prop := ∀ f, m = .error f → ∃ detail, f = .badParameter detail

theorem blamesBind {α β : Type} {m : Except Fault α} {next : α → Except Fault β} (first : Blames m)
    (later : ∀ a, Blames (next a)) : Blames (m >>= next) := fun f failed => by
  cases m with
  | error g =>
    cases Except.error.inj failed
    exact first f rfl
  | ok a => exact later a f failed

theorem blamesOk {α : Type} (a : α) : Blames (.ok a) := fun _ failed => nomatch failed

theorem blamesBad {α : Type} (detail : String) : Blames (.error (.badParameter detail) : Except Fault α) :=
  fun _ failed => ⟨detail, (Except.error.inj failed).symm⟩

theorem cutBlames (total n : Nat) (o : Octets) : Blames (cut total n o) := by
  unfold cut
  split
  · exact blamesOk _
  · exact blamesBad _

theorem handleBlames (total : Nat) (o : Octets) : Blames (readHandle total o) :=
  blamesBind (cutBlames total 8 o) fun _ => blamesOk _

theorem textBlames (total : Nat) (o : Octets) : Blames (readText total o) := by
  refine blamesBind (cutBlames total 4 o) fun size => blamesBind (cutBlames total _ _) fun text => ?_
  dsimp only
  split
  · exact blamesOk _
  · exact blamesBad _

theorem decodeBlames (o : Octets) : Blames (decode o) := by
  refine blamesBind (handleBlames _ _) fun key => blamesBind (handleBlames _ _) fun participant =>
    blamesBind (textBlames _ _) fun topic => blamesBind (textBlames _ _) fun type => ?_
  dsimp only
  split
  · exact blamesOk _
  · exact blamesBad _

end Announcement

/-! ### Reading along the octets -/

structure Cursor where
  octets : Octets
  position : Nat
  deriving DecidableEq, Repr

namespace Cursor

def slice? (o : Octets) (first last : Nat) : Option Octets :=
  if first ≤ last ∧ last ≤ o.length then some ((o.take last).drop first) else none

def fill? (width : Nat) (o : Octets) : Option Octets := if o.length = width then some o else none

def left? (c : Cursor) : Option Nat :=
  if c.position ≤ c.octets.length then some (c.octets.length - c.position) else none

def read (c : Cursor) (n : Nat) : ExceptT Fault Option (Octets × Cursor) :=
  if c.position + n ≤ c.octets.length then do
    let o ← (slice? c.octets c.position (c.position + n) : Option Octets)
    return (o, { c with position := c.position + n })
  else throw (.truncatedAt c.position)

def readWord (c : Cursor) (width : Nat) : ExceptT Fault Option (Nat × Cursor) := do
  let (o, c) ← c.read width
  let o ← (fill? width o : Option Octets)
  return (o.toNat, c)

def readHandle (c : Cursor) : ExceptT Fault Option (UInt64 × Cursor) := do
  let (key, c) ← c.readWord 8
  return (UInt64.ofNat key, c)

def readText (c : Cursor) : ExceptT Fault Option (String × Cursor) := do
  let (size, c) ← c.readWord 4
  let (o, c) ← c.read size
  match Octets.text? o with
  | some s => return (s, c)
  | none => throw .notText

def decode (o : Octets) : ExceptT Fault Option Announcement := do
  let (key, c) ← readHandle ⟨o, 0⟩
  let (participant, c) ← c.readHandle
  let (topic, c) ← c.readText
  let (type, c) ← c.readText
  if c.position = o.length then return ⟨key, participant, topic, type⟩
  else
    let count ← (c.left? : Option Nat)
    throw (.trailing count)

inductive Follows {α β : Type} (R : α → β → Prop) : ExceptT Fault Option α → Except Fault β → Prop
  | failed (f : Fault) : Follows R (throw f) (.error f)
  | done {a : α} {b : β} (same : R a b) : Follows R (pure a) (.ok b)

variable {α β γ δ : Type} {o : Octets}

theorem Follows.bind {R : α → β → Prop} {S : γ → δ → Prop} {m : ExceptT Fault Option α} {m' : Except Fault β}
    {next : α → ExceptT Fault Option γ} {next' : β → Except Fault δ} (first : Follows R m m')
    (later : ∀ a b, R a b → Follows S (next a) (next' b)) : Follows S (m >>= next) (m' >>= next') := by
  cases first with
  | failed f => exact .failed f
  | done same => exact later _ _ same

theorem Follows.exact {m : ExceptT Fault Option α} {m' : Except Fault α} (h : Follows Eq m m') : m.run = some m' := by
  cases h with
  | failed f => rfl
  | done same => exact same ▸ rfl

inductive At (o : Octets) : α × Cursor → α × Octets → Prop
  | inside {a : α} {position : Nat} (within : position ≤ o.length) : At o (a, ⟨o, position⟩) (a, o.drop position)

theorem readFollows {position : Nat} (within : position ≤ o.length) (n : Nat) :
    Follows (fun x y => At o x y ∧ x.1.length = n) (read ⟨o, position⟩ n)
      (Announcement.cut o.length n (o.drop position)) := by
  have length : (o.drop position).length = o.length - position := List.length_drop
  unfold read Announcement.cut
  dsimp only
  by_cases enough : position + n ≤ o.length
  · rw [if_pos enough, if_pos (by omega), List.drop_drop]
    have sliced : slice? o position (position + n) = some ((o.drop position).take n) := by
      rw [slice?, if_pos ⟨Nat.le_add_right position n, enough⟩, List.drop_take, Nat.add_sub_cancel_left]
    rw [sliced]
    exact .done ⟨.inside enough, by rw [List.length_take]; omega⟩
  · rw [if_neg enough, if_neg (by omega), length, Nat.sub_sub_self within]
    exact .failed _

theorem wordFollows {R : γ → δ → Prop} {position width : Nat} (within : position ≤ o.length)
    {next : Nat × Cursor → ExceptT Fault Option γ} {next' : Octets × Octets → Except Fault δ}
    (later : ∀ (x : Octets) (position : Nat), position ≤ o.length →
      Follows R (next (x.toNat, ⟨o, position⟩)) (next' (x, o.drop position))) :
    Follows R (readWord ⟨o, position⟩ width >>= next)
      (Announcement.cut o.length width (o.drop position) >>= next') := by
  rw [readWord, bind_assoc]
  refine (readFollows within width).bind fun x y read => ?_
  obtain ⟨stands, length⟩ := read
  cases stands with
  | @inside x position' within' =>
    simp only [fill?, if_pos length]
    exact later x position' within'

theorem handleFollows {position : Nat} (within : position ≤ o.length) :
    Follows (At o) (readHandle ⟨o, position⟩) (Announcement.readHandle o.length (o.drop position)) :=
  wordFollows within fun _ _ within' => .done (.inside within')

theorem textFollows {position : Nat} (within : position ≤ o.length) :
    Follows (At o) (readText ⟨o, position⟩) (Announcement.readText o.length (o.drop position)) := by
  refine wordFollows within fun size position' within' => (readFollows within' size.toNat).bind fun x y read => ?_
  cases read.1 with
  | @inside x position'' within'' =>
    dsimp only
    cases Octets.text? x with
    | none => exact .failed _
    | some s => exact .done (.inside within'')

theorem decodeFollows (o : Octets) : (decode o).run = some (Announcement.decode o) := by
  refine Follows.exact ((handleFollows (Nat.zero_le _)).bind ?_)
  rintro _ _ ⟨within⟩
  refine (handleFollows within).bind ?_
  rintro _ _ ⟨within⟩
  refine (textFollows within).bind ?_
  rintro _ _ ⟨within⟩
  refine (textFollows within).bind ?_
  rintro _ _ @⟨_, position, within⟩
  have length : (o.drop position).length = o.length - position := List.length_drop
  dsimp only
  by_cases whole : position = o.length
  · rw [if_pos whole, whole, List.drop_length]
    exact .done rfl
  · rw [if_neg whole]
    cases left : o.drop position with
    | nil =>
      rw [left, List.length_nil] at length
      exact absurd (by omega) whole
    | cons first more =>
      simp only [left?, if_pos within, ← length, left]
      exact .failed _

end Cursor

namespace Announcement

structure Inverse : Prop where
  reads : ∀ a : Announcement, decode a.encode = .ok a ↔
    a.topic.utf8ByteSize < UInt32.size ∧ a.type.utf8ByteSize < UInt32.size
  writes : ∀ o a, decode o = .ok a → a.encode = o
  accepts : ∀ o, (∃ a, decode o = .ok a) ↔ WireForm o
  refuses : ∀ o, ¬ WireForm o → ∃ detail, decode o = .error (.badParameter detail)
  inside : ∀ o, (Cursor.decode o).run = some (decode o)
  shorter : ∀ o o', WireForm o → o' <+: o → o' ≠ o → ∃ detail, decode o' = .error (.badParameter detail)
  longer : ∀ o o', WireForm o → o <+: o' → o' ≠ o → ∃ detail, decode o' = .error (.badParameter detail)

theorem wireExact : Inverse := by
  have refuses (o : Octets) (other : ¬ WireForm o) : ∃ detail, decode o = .error (.badParameter detail) := by
    cases outcome : decode o with
    | ok a => exact absurd (acceptedExact.1 ⟨a, outcome⟩) other
    | error f =>
      obtain ⟨detail, rfl⟩ := decodeBlames o f outcome
      exact ⟨detail, rfl⟩
  refine ⟨fun a => ?_, fun o a ok => (decodeExact.1 ok).1, fun o => acceptedExact, refuses, Cursor.decodeFollows,
    fun o o' form first other => refuses o' fun form' => other ?_,
    fun o o' form first other => refuses o' fun form' => other ?_⟩
  · exact decodeExact.trans (and_iff_right rfl)
  · obtain ⟨more, rfl⟩ := first
    rw [formComplete form' form, List.append_nil]
  · obtain ⟨more, rfl⟩ := first
    rw [formComplete form form', List.append_nil]

end Announcement
end Databus
