/-!
Octet strings: little-endian words and UTF-8 text.
Main statements: a word that fits its width reads back, every octet string is the word it reads as,
and text reads back exactly from its own octets.
-/
namespace Databus

abbrev Octets := List UInt8

namespace Octets

def word : Nat → Nat → Octets
  | 0, _ => []
  | width + 1, n => UInt8.ofNat n :: word width (n / 256)

def toNat : Octets → Nat
  | [] => 0
  | o :: r => o.toNat + 256 * toNat r

def ofText (s : String) : Octets := s.toByteArray.data.toList

def text? (o : Octets) : Option String := String.fromUTF8? ⟨o.toArray⟩

@[simp] theorem wordLength (width n : Nat) : (word width n).length = width := by
  induction width generalizing n with
  | zero => rfl
  | succ width ih => simp [word, ih]

def span : Nat → Nat
  | 0 => 1
  | width + 1 => 256 * span width

theorem readBounded (o : Octets) : o.toNat < span o.length := by
  induction o with
  | nil => exact Nat.one_pos
  | cons x r ih =>
    have small := x.toNat_lt
    simp only [toNat, List.length_cons, span]
    omega

theorem readWord {width n : Nat} (h : n < span width) : (word width n).toNat = n := by
  induction width generalizing n with
  | zero => exact (Nat.lt_one_iff.1 h).symm
  | succ width ih =>
    have high : n / 256 < span width := Nat.div_lt_of_lt_mul h
    simp only [word, toNat, ih high, UInt8.toNat_ofNat']
    omega

theorem wordRead (o : Octets) : word o.length o.toNat = o := by
  induction o with
  | nil => rfl
  | cons x r ih =>
    have small := x.toNat_lt
    have low : UInt8.ofNat (x.toNat + 256 * toNat r) = x := by
      apply UInt8.toNat_inj.1
      simp only [UInt8.toNat_ofNat']
      omega
    have high : (x.toNat + 256 * toNat r) / 256 = toNat r := by omega
    simp only [List.length_cons, word, toNat, low, high, ih]

theorem textLength (s : String) : (ofText s).length = s.utf8ByteSize := by
  rfl

@[simp] theorem textRead (s : String) : text? (ofText s) = some s := by
  unfold text? String.fromUTF8?
  exact dif_pos s.isValidUTF8

theorem readText {o : Octets} {s : String} (h : text? o = some s) : ofText s = o := by
  unfold text? String.fromUTF8? at h
  split at h
  · obtain rfl := Option.some.inj h
    rfl
  · contradiction

end Octets
end Databus
