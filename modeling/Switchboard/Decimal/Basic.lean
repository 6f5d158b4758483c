/-! # Decimals as they are written

A number with a fraction, an exponent or too many digits for a machine word is
kept the way it was written: a sign, its digits read as one whole number, and
the power of ten that they are scaled by.  Nothing is rounded here; the binary
number that stands nearest is the subject of `Switchboard.Decimal.Binary`.

* `Decimal` — sign, significand and power of ten;
* `Decimal.text` — its written form: plain digits while the point falls near
  them, and a power of ten beyond that. -/

namespace Switchboard

/-- A decimal number `± significand · 10 ^ exponent`. -/
structure Decimal where
  negative : Bool
  significand : Nat
  exponent : Int
deriving DecidableEq, Repr

namespace Decimal

def digits (n : Nat) : List Char := Nat.toDigits 10 n

def zeros (n : Nat) : List Char := List.replicate n '0'

def intText : Int → List Char
  | .ofNat n => digits n
  | .negSucc n => '-' :: digits (n + 1)

/-- One digit, a point and the others; the point goes if there are no others. -/
def pointed : List Char → List Char
  | [] => []
  | [d] => [d]
  | d :: ds => d :: '.' :: ds

/-- A power of ten with its sign, which is never left out. -/
def exponentText : Int → List Char
  | .ofNat n => '+' :: digits n
  | .negSucc n => '-' :: digits (n + 1)

/-- The digits with the point `point` places after the first of them was
written.  Up to sixteen places before the point and five behind it are written
out; beyond that a power of ten follows the leading digit. -/
def layout (ds : List Char) (point : Int) : List Char :=
  let count : Int := ds.length
  if count ≤ point ∧ point ≤ 16 then
    ds ++ zeros (point - count).toNat ++ ['.', '0']
  else if 0 < point ∧ point ≤ 16 then
    ds.take point.toNat ++ '.' :: ds.drop point.toNat
  else if -5 < point ∧ point ≤ 0 then
    '0' :: '.' :: (zeros (-point).toNat ++ ds)
  else
    pointed ds ++ 'e' :: exponentText (point - 1)

/-- The written form of a decimal.  Zero has the one form `0.0`. -/
def text (d : Decimal) : List Char :=
  let body :=
    if d.significand = 0 then ['0', '.', '0']
    else layout (digits d.significand) ((digits d.significand).length + d.exponent)
  if d.negative then '-' :: body else body

end Decimal

end Switchboard
