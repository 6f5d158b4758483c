import Switchboard.Decimal.Basic

/-! # The binary number nearest to a decimal

Numbers with a fraction are held by the program in 64-bit binary form: 53 bits
and a power of two.  Everything here is exact arithmetic on `Nat`; no machine
float is involved.

* `Binary.round` — the nearest binary number of a ratio, ties to even;
* `Decimal.overflows` — the decimals whose reading leaves the binary range;
* `Decimal.shortest` — the decimal with the fewest digits that reads back as the
  same binary number, which is the form in which such a number is shown. -/

namespace Switchboard

/-- A non-negative binary number `mantissa · 2 ^ exponent`. -/
structure Binary where
  mantissa : Nat
  exponent : Int
deriving DecidableEq, Repr

namespace Binary

def twos (n : Nat) : Nat := Nat.pow 2 n

def tens (n : Nat) : Nat := Nat.pow 10 n

/-- The bits of a mantissa. -/
def precision : Nat := 53

/-- The power of two of the smallest positive number. -/
def leastExponent : Int := -1074

/-- The first whole number that rounds beyond the largest binary number. -/
def overflow : Nat := twos 1024 - twos 970

/-- The quotient of two numbers, rounded to the nearest whole number; a half goes
to the even neighbour. -/
def divRound (num den : Nat) : Nat :=
  let q := num / den
  let r := num % den
  if 2 * r < den then q
  else if den < 2 * r then q + 1
  else if q % 2 = 0 then q else q + 1

/-- `num / den` in units of `2 ^ e`, as a ratio again. -/
def scale (num den : Nat) (e : Int) : Nat × Nat :=
  if 0 ≤ e then (num, den * twos e.toNat) else (num * twos (-e).toNat, den)

/-- The power of two in whose units `num / den` has 53 bits before the point. -/
def unitOf (num den : Nat) : Int :=
  -- in this unit the quotient has 53 bits before the point, or one more
  let guess : Int := (num.log2 : Int) - den.log2 - precision
  let (n, d) := scale num den guess
  max leastExponent (if twos precision ≤ n / d then guess + 1 else guess)

/-- The binary number nearest to `num / den`, a tie going to the even mantissa. -/
def round (num den : Nat) : Binary :=
  if num = 0 then ⟨0, leastExponent⟩
  else
    let e := unitOf num den
    let (n, d) := scale num den e
    let m := divRound n d
    -- rounding up may have made one bit too many
    if m = twos precision then ⟨twos (precision - 1), e + 1⟩ else ⟨m, e⟩

def ratio (b : Binary) : Nat × Nat :=
  if 0 ≤ b.exponent then (b.mantissa * twos b.exponent.toNat, 1)
  else (b.mantissa, twos (-b.exponent).toNat)

def mul (a b : Binary) : Binary :=
  round (a.ratio.1 * b.ratio.1) (a.ratio.2 * b.ratio.2)

def div (a b : Binary) : Binary :=
  round (a.ratio.1 * b.ratio.2) (a.ratio.2 * b.ratio.1)

def powerOfTen (n : Nat) : Binary := round (tens n) 1

/-- Division by `10 ^ n`.  The largest power of ten that has a binary form is
`10 ^ 308`, so a greater one is divided off in steps of that size. -/
def divPowerOfTen (b : Binary) (n : Nat) : Binary :=
  if b.mantissa = 0 then b
  else if n ≤ 308 then b.div (powerOfTen n)
  else divPowerOfTen (b.div (powerOfTen 308)) (n - 308)
termination_by n

/-! ## The shortest decimal

The numbers that round to `mantissa · 2 ^ exponent` form an interval, reaching
half a unit to either side (a quarter below, where the unit changes), ends
included when the mantissa is even.  Of the decimals in it those with the fewest
digits win, and of two of them the nearer. -/

/-- The interval in quarters of a unit: its lower and its upper end. -/
def span (b : Binary) : Nat × Nat :=
  let low := if b.mantissa = twos (precision - 1) ∧ leastExponent < b.exponent then 1 else 2
  (4 * b.mantissa - low, 4 * b.mantissa + 2)

/-- Whether `n · 10 ^ k` lies in the interval of `b`. -/
def within (b : Binary) (n : Nat) (k : Int) : Bool :=
  let quarters : Int := b.exponent - 2
  let left := n * tens k.toNat * twos (-quarters).toNat
  let unit := tens (-k).toNat * twos quarters.toNat
  let (low, high) := b.span
  if b.mantissa % 2 = 0 then low * unit ≤ left ∧ left ≤ high * unit
  else low * unit < left ∧ left < high * unit

/-- The best `n` with `n · 10 ^ k` in the interval of `b`: the neighbour of `b` on
that grid that is nearer, if one of the two lies in the interval. -/
def onGrid (b : Binary) (k : Int) : Option Nat :=
  let (num, den) := b.ratio
  let n := num * tens (-k).toNat
  let d := den * tens k.toNat
  let below := n / d
  let nearest := divRound n d
  let other := if nearest = below then below + 1 else below
  if b.within nearest k then some nearest
  else if b.within other k then some other
  else none

/-- The power of ten at the leading digit of `b`, at most one too great. -/
def leading (b : Binary) : Int :=
  let (num, den) := b.ratio
  if den ≤ num then (Decimal.digits (num / den)).length
  else 1 - (Decimal.digits (den / num)).length + 1

/-- The first hit on the grids `10 ^ k`, `10 ^ (k - 1)`, and so on. -/
def shortestFrom (b : Binary) (k : Int) : Nat → Nat × Int
  | 0 => (b.mantissa, k)
  | steps + 1 =>
    match b.onGrid k with
    | some n => if n = 0 then shortestFrom b (k - 1) steps else (n, k)
    | none => shortestFrom b (k - 1) steps

/-- The fewest digits, and their power of ten, that read back as `b`. -/
def shortest (b : Binary) : Nat × Int :=
  if b.mantissa = 0 then (0, 0) else shortestFrom b b.leading 20

end Binary

namespace Decimal

/-- Whether reading the decimal leaves the binary range.  The digits and the power
of ten are rounded apart and then multiplied, and the product is rounded again. -/
def overflows (significand : Nat) (exponent : Int) : Bool :=
  significand ≠ 0 ∧
    (308 < exponent ∨
      0 ≤ exponent ∧
        let f := (Binary.round significand 1).ratio
        let p := (Binary.powerOfTen exponent.toNat).ratio
        Binary.overflow * (f.2 * p.2) ≤ f.1 * p.1)

/-- The binary number that a decimal in range is read as. -/
def toBinary (d : Decimal) : Binary :=
  let f := Binary.round d.significand 1
  if f.mantissa = 0 then f
  else if 0 ≤ d.exponent then f.mul (Binary.powerOfTen d.exponent.toNat)
  else f.divPowerOfTen (-d.exponent).toNat

/-- The decimal with the fewest digits among those read as the same binary number. -/
def shortest (d : Decimal) : Decimal :=
  let (n, k) := d.toBinary.shortest
  ⟨d.negative, n, k⟩

end Decimal

end Switchboard
