import Switchboard.Limit

/-! # Numbers in decimal digits

* `Text.natOf` — the number that ASCII digits write, with a plus sign or without;
* `Text.intOf` — the same with a minus sign as well;
* `Text.natBelow`, `Text.int64Of` — those of them that fit a machine word. -/

namespace Switchboard.Text

/-- The number that digits write, after the digits that came to `n`. -/
def digitsFrom (n : Nat) : List Char → Option Nat
  | [] => some n
  | c :: s => if '0' ≤ c ∧ c ≤ '9' then digitsFrom (n * 10 + (c.toNat - 48)) s else none

/-- The number that one or more digits write. -/
def digitsOf (s : List Char) : Option Nat := if s.isEmpty then none else digitsFrom 0 s

/-- The number that a text of digits writes; a plus sign may stand in front. -/
def natOf (text : String) : Option Nat :=
  match text.toList with
  | '+' :: s => digitsOf s
  | s => digitsOf s

/-- The whole number that a text of digits writes; a sign may stand in front. -/
def intOf (text : String) : Option Int :=
  match text.toList with
  | '+' :: s => (digitsOf s).map Int.ofNat
  | '-' :: s => (digitsOf s).map fun n => -(n : Int)
  | s => (digitsOf s).map Int.ofNat

/-- The number that a text writes, if it is below `limit`. -/
def natBelow (limit : Nat) (text : String) : Option Nat :=
  (natOf text).filter (· < limit)

/-- The whole number of 64 bits with sign that a text writes. -/
def int64Of (text : String) : Option Int :=
  (intOf text).filter fun n => -(Limit.bits63 : Int) ≤ n ∧ n < Limit.bits63

end Switchboard.Text
