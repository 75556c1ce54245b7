/-!
Unsigned decimal numerals below a bound: an optional plus sign, at least one ASCII digit, nothing else.
-/
namespace Databus.Text

def unsigned (cs : List Char) : List Char :=
  match cs with
  | '+' :: r => r
  | cs => cs

def digitsValue (cs : List Char) : Nat :=
  cs.foldl (fun n c => 10 * n + (c.toNat - '0'.toNat)) 0

def numeral? (bound : Nat) (s : String) : Option Nat :=
  let digits := unsigned s.toList
  if digits ≠ [] ∧ digits.all Char.isDigit ∧ digitsValue digits < bound
  then some (digitsValue digits) else none

end Databus.Text
