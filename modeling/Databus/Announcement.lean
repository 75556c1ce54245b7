import Databus.Fault
import Databus.Octets

/-!
What discovery says of an endpoint, and its wire form: two 64-bit handles, then topic and type, each
behind a 32-bit length, all little-endian. Main statements: what was written reads back while both names
fit their lengths, and whatever is accepted is the written form of what was read.
-/
namespace Databus

structure Announcement where
  key : UInt64
  participant : UInt64
  topic : String
  type : String
  deriving DecidableEq, Repr

namespace Announcement

def textField (s : String) : Octets := Octets.word 4 s.utf8ByteSize ++ Octets.ofText s

def encode (a : Announcement) : Octets :=
  Octets.word 8 a.key.toNat ++ Octets.word 8 a.participant.toNat ++
    textField a.topic ++ textField a.type

def cut (total n : Nat) (rest : Octets) : Except Fault (Octets × Octets) :=
  if n ≤ rest.length then .ok (rest.take n, rest.drop n)
  else .error (.truncatedAt (total - rest.length))

def readHandle (total : Nat) (rest : Octets) : Except Fault (UInt64 × Octets) := do
  let (o, rest) ← cut total 8 rest
  return (UInt64.ofNat o.toNat, rest)

def readText (total : Nat) (rest : Octets) : Except Fault (String × Octets) := do
  let (size, rest) ← cut total 4 rest
  let (o, rest) ← cut total size.toNat rest
  match Octets.text? o with
  | some s => .ok (s, rest)
  | none => .error .notText

def decode (o : Octets) : Except Fault Announcement := do
  let (key, rest) ← readHandle o.length o
  let (participant, rest) ← readHandle o.length rest
  let (topic, rest) ← readText o.length rest
  let (type, rest) ← readText o.length rest
  match rest with
  | [] => .ok ⟨key, participant, topic, type⟩
  | _ :: _ => .error (.trailing rest.length)

def publicationTopic : String := "DCPSPublication"
def subscriptionTopic : String := "DCPSSubscription"
def typeName : String := "conduit::dds_::EndpointBuiltinTopicData_"

/-! ### Reading what was written -/

theorem cutAppend (total : Nat) (o rest : Octets) : cut total o.length (o ++ rest) = .ok (o, rest) := by
  simp [cut]

theorem handleWritten (total : Nat) (key : UInt64) (rest : Octets) :
    readHandle total (Octets.word 8 key.toNat ++ rest) = .ok (key, rest) := by
  have cutting := cutAppend total (Octets.word 8 key.toNat) rest
  rw [Octets.wordLength] at cutting
  have value : (Octets.word 8 key.toNat).toNat = key.toNat := Octets.readWord key.toNat_lt
  simp only [readHandle, cutting, bind, Except.bind, value, UInt64.ofNat_toNat, pure, Except.pure]

theorem textWritten (total : Nat) {s : String} (fits : s.utf8ByteSize < UInt32.size) (rest : Octets) :
    readText total (textField s ++ rest) = .ok (s, rest) := by
  have size := cutAppend total (Octets.word 4 s.utf8ByteSize) (Octets.ofText s ++ rest)
  rw [Octets.wordLength] at size
  have text := cutAppend total (Octets.ofText s) rest
  rw [Octets.textLength] at text
  have value : (Octets.word 4 s.utf8ByteSize).toNat = s.utf8ByteSize := Octets.readWord fits
  simp only [readText, textField, List.append_assoc, size, bind, Except.bind, value, text,
    Octets.textRead]

theorem decodeEncoded {a : Announcement} (topic : a.topic.utf8ByteSize < UInt32.size)
    (type : a.type.utf8ByteSize < UInt32.size) : decode a.encode = .ok a := by
  have last := textWritten a.encode.length type []
  rw [List.append_nil] at last
  unfold decode
  generalize a.encode.length = total at last
  simp only [encode, List.append_assoc, bind, Except.bind, handleWritten, textWritten total topic, last]

/-! ### Writing what was read -/

theorem cutJoined {total n : Nat} {o x rest : Octets} (ok : cut total n o = .ok (x, rest)) :
    x.length = n ∧ x ++ rest = o := by
  unfold cut at ok
  split at ok
  · rename_i enough
    cases Except.ok.inj ok
    exact ⟨by simp [enough], List.take_append_drop n o⟩
  · contradiction

theorem handleRead {total : Nat} {o rest : Octets} {key : UInt64}
    (ok : readHandle total o = .ok (key, rest)) : Octets.word 8 key.toNat ++ rest = o := by
  unfold readHandle at ok
  cases cutting : cut total 8 o with
  | error f => simp [cutting, bind, Except.bind] at ok
  | ok p =>
    obtain ⟨x, tail⟩ := p
    simp only [cutting, bind, Except.bind, pure, Except.pure] at ok
    cases Except.ok.inj ok
    obtain ⟨size, joined⟩ := cutJoined cutting
    have small : x.toNat < UInt64.size := by
      have bound := Octets.readBounded x
      rw [size] at bound
      exact bound
    have value : (UInt64.ofNat x.toNat).toNat = x.toNat := UInt64.toNat_ofNat_of_lt' small
    have word := Octets.wordRead x
    rw [size] at word
    rw [value, word, joined]

theorem textReadBack {total : Nat} {o rest : Octets} {s : String}
    (ok : readText total o = .ok (s, rest)) :
    s.utf8ByteSize < UInt32.size ∧ textField s ++ rest = o := by
  unfold readText at ok
  cases first : cut total 4 o with
  | error f => simp [first, bind, Except.bind] at ok
  | ok p =>
    obtain ⟨size, tail⟩ := p
    simp only [first, bind, Except.bind] at ok
    cases second : cut total size.toNat tail with
    | error f => simp [second] at ok
    | ok q =>
      obtain ⟨x, end'⟩ := q
      simp only [second] at ok
      cases text : Octets.text? x with
      | none => simp [text] at ok
      | some t =>
        simp only [text] at ok
        cases Except.ok.inj ok
        obtain ⟨width, front⟩ := cutJoined first
        obtain ⟨count, back⟩ := cutJoined second
        have octets := Octets.readText text
        have length : s.utf8ByteSize = size.toNat := by
          rw [← Octets.textLength, octets, count]
        have bound := Octets.readBounded size
        rw [width] at bound
        have word := Octets.wordRead size
        rw [width] at word
        refine ⟨by rw [length]; exact bound, ?_⟩
        rw [textField, length, word, octets, List.append_assoc, back, front]

theorem encodeDecoded {o : Octets} {a : Announcement} (ok : decode o = .ok a) :
    a.encode = o ∧ a.topic.utf8ByteSize < UInt32.size ∧ a.type.utf8ByteSize < UInt32.size := by
  unfold decode at ok
  cases key : readHandle o.length o with
  | error f => simp [key, bind, Except.bind] at ok
  | ok k =>
    simp only [key, bind, Except.bind] at ok
    cases participant : readHandle o.length k.2 with
    | error f => simp [participant] at ok
    | ok p =>
      simp only [participant] at ok
      cases topic : readText o.length p.2 with
      | error f => simp [topic] at ok
      | ok t =>
        simp only [topic] at ok
        cases type : readText o.length t.2 with
        | error f => simp [type] at ok
        | ok y =>
          simp only [type] at ok
          obtain ⟨y, rest⟩ := y
          cases rest with
          | cons x r => simp at ok
          | nil =>
            cases Except.ok.inj ok
            have first := handleRead key
            have second := handleRead participant
            have third := textReadBack topic
            have fourth := textReadBack type
            refine ⟨?_, third.1, fourth.1⟩
            have tail : textField y = t.2 := by simpa using fourth.2
            rw [encode, tail, List.append_assoc, List.append_assoc, third.2, second, first]

end Announcement
end Databus
