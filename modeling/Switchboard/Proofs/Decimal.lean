import Mathlib.Algebra.Order.Field.Power
import Mathlib.Algebra.Order.Field.Rat
import Mathlib.Tactic.FieldSimp
import Mathlib.Tactic.Linarith
import Mathlib.Tactic.Positivity
import Mathlib.Tactic.Ring
import Switchboard.Decimal.Binary

/-! # The decimals that binary numbers are shown as

A finite binary number is shown by few digits, and what is shown does not lie beyond the binary
range when it is read, although the reader rounds three times on the way.

* `Decimal.digits_bounds` — a number and how many digits it has;
* `Binary.Finite`, `Binary.value` — the finite numbers of 64 bits, and what they are worth;
* `Binary.round_le` — rounding makes a whole number greater by one part in `2 ^ 53` at most;
* `Binary.shortest_le`, `Binary.shortest_lt` — what is shown is at most half a unit too great,
  and its digits fit into 64 bits;
* `Binary.Finite.in_range` — and it is in range.
-/

namespace Switchboard

open Binary (twos tens precision leastExponent overflow)

/-! ## Digits -/

theorem Decimal.digits_bounds (n : Nat) :
    n < 10 ^ (digits n).length ∧ (0 < n → 10 ^ (digits n).length ≤ 10 * n) := by
  induction n using Nat.strongRecOn with
  | ind n ih =>
    rw [digits, Nat.toDigits_eq_if (by decide)]
    split
    · next hsmall => exact ⟨by simpa using hsmall, fun hn => by simpa using Nat.succ_le_of_lt hn⟩
    · next hlarge =>
      obtain ⟨hlt, hle⟩ := ih (n / 10) (by omega)
      have hle := hle (by omega)
      rw [digits] at hlt hle
      rw [List.length_append, List.length_singleton, Nat.pow_succ]
      omega

/-- The digits of a quotient, of which there are some, count its powers of ten. -/
theorem Decimal.digits_div_bounds {num den : Nat} (hden : 0 < den) (hle : den ≤ num) :
    num < den * 10 ^ (digits (num / den)).length ∧
      10 ^ (digits (num / den)).length * den ≤ 10 * num := by
  obtain ⟨hbelow, habove⟩ := digits_bounds (num / den)
  have hquotient := Nat.div_mul_le_self num den
  refine ⟨(Nat.lt_mul_div_succ num hden).trans_le (Nat.mul_le_mul_left den hbelow), ?_⟩
  calc 10 ^ (digits (num / den)).length * den
      ≤ 10 * (num / den) * den := Nat.mul_le_mul_right den (habove (Nat.div_pos hle hden))
    _ = 10 * (num / den * den) := Nat.mul_assoc _ _ _
    _ ≤ 10 * num := Nat.mul_le_mul_left 10 hquotient

theorem zpow_toNat {a : ℚ} (ha : a ≠ 0) (k : Int) : a ^ k.toNat = a ^ k * a ^ (-k).toNat := by
  rw [← zpow_natCast, ← zpow_natCast, ← zpow_add₀ ha]
  congr 1
  omega

namespace Binary

variable {b : Binary} {n : Nat} {k : Int}

/-! ## What a binary number is worth -/

/-- The finite numbers of the binary format of 64 bits.  The first bit of the mantissa is set
unless the exponent is the least one. -/
structure Finite (b : Binary) : Prop where
  mantissa : b.mantissa < twos precision
  least : leastExponent ≤ b.exponent
  greatest : b.exponent ≤ 971
  normal : twos (precision - 1) ≤ b.mantissa ∨ b.exponent = leastExponent

/-- What a binary number is worth. -/
def value (b : Binary) : ℚ := b.mantissa * 2 ^ b.exponent

/-- Half a unit more than a binary number. -/
def top (b : Binary) : ℚ := (b.mantissa + 1 / 2) * 2 ^ b.exponent

theorem cast_twos (n : Nat) : (twos n : ℚ) = 2 ^ n := by
  rw [twos]
  exact Nat.cast_pow 2 n

theorem cast_tens (n : Nat) : (tens n : ℚ) = 10 ^ n := by
  rw [tens]
  exact Nat.cast_pow 10 n

theorem ratio_pos (b : Binary) : 0 < b.ratio.2 := by
  unfold ratio
  split
  · exact Nat.one_pos
  · exact Nat.two_pow_pos _

theorem value_mul_ratio (b : Binary) : b.value * b.ratio.2 = b.ratio.1 := by
  have hsplit := zpow_toNat (a := 2) (by norm_num) b.exponent
  unfold ratio value
  split
  · next h =>
    rw [Int.toNat_of_nonpos (by omega : -b.exponent ≤ 0), pow_zero, mul_one] at hsplit
    push_cast [cast_twos]
    rw [hsplit, mul_one]
  · next h =>
    rw [Int.toNat_of_nonpos (by omega : b.exponent ≤ 0), pow_zero] at hsplit
    push_cast [cast_twos]
    rw [mul_assoc, ← hsplit, mul_one]

theorem value_eq (b : Binary) : b.value = b.ratio.1 / b.ratio.2 := by
  have hpos : (0 : ℚ) < b.ratio.2 := Nat.cast_pos.2 b.ratio_pos
  rw [eq_div_iff hpos.ne', value_mul_ratio]

theorem value_pos (hm : b.mantissa ≠ 0) : 0 < b.value := by
  have : (0 : ℚ) < b.mantissa := Nat.cast_pos.2 (Nat.pos_of_ne_zero hm)
  unfold value
  positivity

/-! ## Rounding -/

theorem divRound_le (num den : Nat) : 2 * (divRound num den * den) ≤ 2 * num + den := by
  have hdiv := Nat.div_add_mod num den
  have hup : (num / den + 1) * den = den * (num / den) + den := by ring
  have hdown : num / den * den = den * (num / den) := Nat.mul_comm _ _
  unfold divRound
  dsimp only
  split
  · omega
  split
  · omega
  split <;> omega

/-- The unit of a whole number is small. -/
theorem unitOf_le (hn : n ≠ 0) (he : 0 ≤ unitOf n 1) : 2 ^ 52 * 2 ^ (unitOf n 1).toNat ≤ n := by
  have hguess : unitOf n 1 ≤ n.log2 - 52 := by
    have hone : Nat.log2 1 = 0 := rfl
    unfold unitOf at he ⊢
    simp only [hone, precision, leastExponent] at he ⊢
    generalize scale n 1 _ = p at he ⊢
    split_ifs at he ⊢ <;> omega
  calc 2 ^ 52 * 2 ^ (unitOf n 1).toNat = 2 ^ (52 + (unitOf n 1).toNat) := (pow_add _ _ _).symm
    _ ≤ 2 ^ n.log2 := Nat.pow_le_pow_right (by decide) (by omega)
    _ ≤ n := Nat.log2_self_le hn

theorem value_carry (m : Nat) (e : Int) :
    (if m = twos precision then (⟨twos (precision - 1), e + 1⟩ : Binary) else ⟨m, e⟩).value
      = m * 2 ^ e := by
  split
  · next hm =>
    rw [hm, value, zpow_add₀ (by norm_num), cast_twos, cast_twos, precision]
    ring
  · rfl

/-- A whole number is rounded to one that is hardly greater. -/
theorem round_le (n : Nat) : (round n 1).value ≤ n * (1 + 1 / 2 ^ 53) := by
  by_cases hn : n = 0
  · simp [hn, round, value]
  rw [round, if_neg hn]
  simp only [value_carry]
  have hsplit := zpow_toNat (a := 2) (by norm_num) (unitOf n 1)
  unfold scale
  split
  · next he =>
    -- at most half a unit is added, and the number has 53 bits above the unit
    have hunit : (2 ^ 52 * 2 ^ (unitOf n 1).toNat : ℚ) ≤ n := by exact_mod_cast unitOf_le hn he
    have hround := divRound_le n (1 * twos (unitOf n 1).toNat)
    rw [Int.toNat_of_nonpos (by omega : -unitOf n 1 ≤ 0), pow_zero, mul_one] at hsplit
    have hround' : (2 * (divRound n (1 * twos (unitOf n 1).toNat) * 2 ^ (unitOf n 1).toNat) : ℚ)
        ≤ 2 * n + 2 ^ (unitOf n 1).toNat := by
      rw [← cast_twos]
      simpa using (Nat.cast_le (α := ℚ)).2 hround
    rw [← hsplit]
    linarith
  · next he =>
    -- nothing is cut off
    have hround := divRound_le (n * twos (-unitOf n 1).toNat) 1
    have hle : divRound (n * twos (-unitOf n 1).toNat) 1 ≤ n * twos (-unitOf n 1).toNat := by
      omega
    have hle' : (divRound (n * twos (-unitOf n 1).toNat) 1 : ℚ) ≤ n * 2 ^ (-unitOf n 1).toNat := by
      rw [← cast_twos]
      exact_mod_cast hle
    rw [Int.toNat_of_nonpos (by omega : unitOf n 1 ≤ 0), pow_zero] at hsplit
    have hpos : (0 : ℚ) < 2 ^ unitOf n 1 := by positivity
    calc (divRound (n * twos (-unitOf n 1).toNat) 1 : ℚ) * 2 ^ unitOf n 1
        ≤ n * 2 ^ (-unitOf n 1).toNat * 2 ^ unitOf n 1 := mul_le_mul_of_nonneg_right hle' hpos.le
      _ = n * (2 ^ unitOf n 1 * 2 ^ (-unitOf n 1).toNat) := by ring
      _ = n * 1 := by rw [← hsplit]
      _ ≤ n * (1 + 1 / 2 ^ 53) := by gcongr; norm_num

/-! ## The decimal that is shown -/

theorem le_top_of_within (h : b.within n k = true) : (n : ℚ) * 10 ^ k ≤ b.top := by
  have hten := zpow_toNat (a := 10) (by norm_num) k
  have htwo := zpow_toNat (a := 2) (by norm_num) (b.exponent - 2)
  have hle : n * tens k.toNat * twos (-(b.exponent - 2)).toNat
      ≤ (4 * b.mantissa + 2) * (tens (-k).toNat * twos (b.exponent - 2).toNat) := by
    unfold within span at h
    dsimp only at h
    split at h <;> simp only [decide_eq_true_eq] at h
    · exact h.2
    · exact h.2.le
  have hcast : (n * 10 ^ k.toNat * 2 ^ (-(b.exponent - 2)).toNat : ℚ)
      ≤ (4 * b.mantissa + 2) * (10 ^ (-k).toNat * 2 ^ (b.exponent - 2).toNat) := by
    simp only [← cast_tens, ← cast_twos]
    exact_mod_cast hle
  have hquarters : b.top = (4 * b.mantissa + 2) * 2 ^ (b.exponent - 2) := by
    rw [top, zpow_sub₀ (by norm_num)]
    ring
  rw [hten, htwo] at hcast
  rw [hquarters]
  refine le_of_mul_le_mul_right ?_
    (show (0 : ℚ) < 10 ^ (-k).toNat * 2 ^ (-(b.exponent - 2)).toNat by positivity)
  calc (n : ℚ) * 10 ^ k * (10 ^ (-k).toNat * 2 ^ (-(b.exponent - 2)).toNat)
      = n * (10 ^ k * 10 ^ (-k).toNat) * 2 ^ (-(b.exponent - 2)).toNat := by ring
    _ ≤ _ := hcast
    _ = (4 * b.mantissa + 2) * 2 ^ (b.exponent - 2)
        * (10 ^ (-k).toNat * 2 ^ (-(b.exponent - 2)).toNat) := by ring

theorem within_of_onGrid (h : b.onGrid k = some n) : b.within n k = true := by
  unfold onGrid at h
  dsimp only at h
  split_ifs at h <;> cases h <;> assumption

/-- The power of ten at which the search begins lies above the number, but not far. -/
theorem leading_bounds (hm : b.mantissa ≠ 0) :
    b.value < 10 ^ b.leading ∧ (10 : ℚ) ^ b.leading ≤ 100 * b.value := by
  have hratio := b.value_mul_ratio
  have hpos := value_pos hm
  have hden := b.ratio_pos
  have hden' : (0 : ℚ) < b.ratio.2 := Nat.cast_pos.2 hden
  have hnum : 0 < b.ratio.1 := by
    rw [← Nat.cast_pos (α := ℚ), ← hratio]
    positivity
  unfold leading
  generalize b.ratio = r at *
  obtain ⟨num, den⟩ := r
  dsimp only at *
  split
  · -- the whole part has as many digits as its leading one says
    obtain ⟨hbelow, habove⟩ := Decimal.digits_div_bounds hden ‹_›
    rw [zpow_natCast]
    generalize (Decimal.digits (num / den)).length = count at hbelow habove
    have hbelow : (num : ℚ) < den * 10 ^ count := by exact_mod_cast hbelow
    have habove : (10 ^ count * den : ℚ) ≤ 10 * num := by exact_mod_cast habove
    rw [← hratio] at hbelow habove
    constructor
    · refine lt_of_mul_lt_mul_right ?_ hden'.le
      linarith
    · refine le_of_mul_le_mul_right ?_ hden'
      have hworth : 0 < b.value * den := mul_pos hpos hden'
      linarith
  · -- and so with the whole part of the inverse
    obtain ⟨habove, hbelow⟩ := Decimal.digits_div_bounds hnum (by omega : num ≤ den)
    have htwo (count : Nat) : (10 : ℚ) ^ (1 - (count : Int) + 1) = 100 / 10 ^ count := by
      rw [sub_add_eq_add_sub, zpow_sub₀ (by norm_num), zpow_natCast]
      norm_num
    rw [htwo]
    generalize (Decimal.digits (den / num)).length = count at hbelow habove
    have hbelow : (10 ^ count * num : ℚ) ≤ 10 * den := by exact_mod_cast hbelow
    have habove : (den : ℚ) < num * 10 ^ count := by exact_mod_cast habove
    rw [← hratio] at hbelow habove
    have hcount : (0 : ℚ) < 10 ^ count := by positivity
    rw [lt_div_iff₀ hcount, div_le_iff₀ hcount]
    constructor
    · refine lt_of_mul_lt_mul_right ?_ hden'.le
      linarith
    · refine le_of_mul_le_mul_right ?_ hden'
      linarith

theorem shortestFrom_cases {steps : Nat} {start : Int}
    (h : shortestFrom b start steps = (n, k)) :
    b.onGrid k = some n ∧ start - steps < k ∨ n = b.mantissa ∧ k = start - steps := by
  induction steps generalizing start with
  | zero =>
    cases h
    exact .inr ⟨rfl, by simp⟩
  | succ steps ih =>
    have hnext (h : shortestFrom b (start - 1) steps = (n, k)) :
        b.onGrid k = some n ∧ start - (steps + 1 : Nat) < k ∨
          n = b.mantissa ∧ k = start - (steps + 1 : Nat) := by
      obtain ⟨hgrid, hk⟩ | ⟨hn, hk⟩ := ih h
      · exact .inl ⟨hgrid, by omega⟩
      · exact .inr ⟨hn, by omega⟩
    rw [shortestFrom] at h
    split at h
    · next n' hgrid =>
      split at h
      · exact hnext h
      · cases h
        exact .inl ⟨hgrid, by omega⟩
    · exact hnext h

theorem top_le (hm : b.mantissa ≠ 0) : b.top ≤ 3 / 2 * b.value := by
  have hone : (1 : ℚ) ≤ b.mantissa := Nat.one_le_cast.2 (Nat.one_le_iff_ne_zero.2 hm)
  have hpos : (0 : ℚ) < 2 ^ b.exponent := by positivity
  unfold top value
  nlinarith

/-- What is shown is not more than half a unit too great. -/
theorem shortest_le (hm : b.mantissa ≠ 0) (hprec : b.mantissa < twos precision) :
    (b.shortest.1 : ℚ) * 10 ^ b.shortest.2 ≤ b.top := by
  have hshortest : b.shortest = shortestFrom b b.leading 20 := if_neg hm
  obtain ⟨hgrid, -⟩ | ⟨hn, hk⟩ :=
    shortestFrom_cases (n := b.shortest.1) (k := b.shortest.2) (by rw [← hshortest])
  · exact le_top_of_within (within_of_onGrid hgrid)
  · -- the grid of the last step is so fine that the mantissa is too small for it
    have hmant : (b.mantissa : ℚ) ≤ 2 ^ 53 := by
      rw [← cast_twos]
      exact_mod_cast hprec.le
    have hlead := (leading_bounds hm).2
    have hpos := value_pos hm
    rw [hn, hk, zpow_sub₀ (by norm_num)]
    have hvalue : b.value ≤ b.top := by
      unfold value top
      gcongr
      linarith
    have hgrid : (10 : ℚ) ^ b.leading / 10 ^ ((20 : Nat) : Int) ≤ b.value / 10 ^ 18 := by
      rw [zpow_natCast, div_le_div_iff₀ (by positivity) (by positivity)]
      nlinarith
    calc (b.mantissa : ℚ) * (10 ^ b.leading / 10 ^ ((20 : Nat) : Int))
        ≤ 2 ^ 53 * (b.value / 10 ^ 18) := by gcongr
      _ ≤ b.value := by linarith
      _ ≤ b.top := hvalue

/-- The digits that are shown fit into 64 bits. -/
theorem shortest_lt (hprec : b.mantissa < twos precision) : b.shortest.1 < 2 ^ 64 := by
  by_cases hm : b.mantissa = 0
  · simp [shortest, hm]
  have hshortest : b.shortest = shortestFrom b b.leading 20 := if_neg hm
  obtain ⟨hgrid, hk⟩ | ⟨hn, -⟩ :=
    shortestFrom_cases (n := b.shortest.1) (k := b.shortest.2) (by rw [← hshortest])
  · have htop := le_top_of_within (within_of_onGrid hgrid)
    have hlead := (leading_bounds hm).1
    have hpos : (0 : ℚ) < 10 ^ b.shortest.2 := by positivity
    have hpower : (10 : ℚ) ^ b.leading ≤ 10 ^ 19 * 10 ^ b.shortest.2 := by
      rw [← zpow_natCast, ← zpow_add₀ (by norm_num)]
      exact zpow_le_zpow_right₀ (by norm_num) (by omega)
    have hle : (b.shortest.1 : ℚ) ≤ 3 / 2 * 10 ^ 19 := by
      refine le_of_mul_le_mul_right ?_ hpos
      have := top_le hm
      linarith
    have hlt : (b.shortest.1 : ℚ) < (2 ^ 64 : Nat) := by
      refine hle.trans_lt ?_
      norm_num
    exact_mod_cast hlt
  · rw [hn]
    exact hprec.trans (by decide)

/-! ## The binary range -/

theorem tens_le_tens {i j : Nat} (h : i ≤ j) : tens i ≤ tens j := Nat.pow_le_pow_right (by decide) h

/-- A decimal is in range if it is so far inside that rounding cannot take it out. -/
theorem in_range_of_lt (h : (n : ℚ) * 10 ^ k * (1 + 1 / 2 ^ 53) ^ 2 < overflow) :
    Decimal.overflows n k = false := by
  by_contra hover
  simp only [Decimal.overflows, ne_eq, decide_eq_true_eq, Bool.not_eq_false, Bool.decide_and,
    Bool.decide_or, Bool.and_eq_true, Bool.or_eq_true] at hover
  obtain ⟨hn, hk⟩ := hover
  have hpower : (10 : ℚ) ^ k = tens k.toNat := by
    rw [cast_tens, ← zpow_natCast, Int.toNat_of_nonneg (by omega)]
  have hlimit : overflow < tens 309 := by decide +kernel
  have hmono : 308 < k → tens 309 ≤ tens k.toNat := fun hk => tens_le_tens (by omega)
  have hf := round_le n
  have hp := round_le (tens k.toNat)
  rw [← powerOfTen, value_eq] at hp
  rw [value_eq] at hf
  rw [hpower] at h
  generalize tens k.toNat = power at *
  generalize tens 309 = limit at *
  generalize overflow = most at *
  obtain hlarge | ⟨-, hproduct⟩ := hk
  · -- so great a power of ten is out of range by itself
    have hmul : power ≤ n * power := Nat.le_mul_of_pos_left _ (Nat.pos_of_ne_zero hn)
    have hle : (most : ℚ) ≤ n * power := by
      have := hmono hlarge
      exact_mod_cast (by omega)
    have hfactor : (n * power : ℚ) ≤ n * power * (1 + 1 / 2 ^ 53) ^ 2 :=
      le_mul_of_one_le_right (by positivity) (by norm_num)
    linarith
  · have hf' : (0 : ℚ) < (round n 1).ratio.2 := Nat.cast_pos.2 (ratio_pos _)
    have hp' : (0 : ℚ) < (powerOfTen k.toNat).ratio.2 := Nat.cast_pos.2 (ratio_pos _)
    have hle : (most : ℚ) ≤ (round n 1).ratio.1 / (round n 1).ratio.2
        * ((powerOfTen k.toNat).ratio.1 / (powerOfTen k.toNat).ratio.2) := by
      rw [div_mul_div_comm, le_div_iff₀ (by positivity)]
      exact_mod_cast hproduct
    have hmul : ((round n 1).ratio.1 / (round n 1).ratio.2
        * ((powerOfTen k.toNat).ratio.1 / (powerOfTen k.toNat).ratio.2) : ℚ)
          ≤ n * (1 + 1 / 2 ^ 53) * (power * (1 + 1 / 2 ^ 53)) := by
      gcongr
    linarith

theorem overflow_eq : overflow = (2 ^ 54 - 1) * twos 970 := by decide +kernel

/-- Half a unit beyond a binary number is inside the range, the last two of them apart. -/
theorem Finite.top_lt (hb : b.Finite) (hlast : b.exponent = 971 → b.mantissa < 2 ^ 53 - 2) :
    b.top * (1 + 1 / 2 ^ 53) ^ 2 < overflow := by
  have hunit : (2 : ℚ) ^ (970 : Int) = twos 970 := by
    rw [cast_twos, ← zpow_natCast]
    rfl
  have hpos : (0 : ℚ) < twos 970 := hunit ▸ zpow_pos (by norm_num) _
  have hfactor : ((2 ^ 54 - 1 : Nat) : ℚ) = 2 ^ 54 - 1 := by norm_num
  have hbound : (overflow : ℚ) = (2 ^ 54 - 1) * twos 970 := by
    rw [overflow_eq, Nat.cast_mul, hfactor]
  rw [hbound, top]
  generalize (twos 970 : ℚ) = unit at *
  obtain he | he : b.exponent = 971 ∨ b.exponent ≤ 970 := by have := hb.greatest; omega
  · have hm : (b.mantissa : ℚ) + 3 ≤ 2 ^ 53 := by
      have := hlast he
      exact_mod_cast (by omega : b.mantissa + 3 ≤ 2 ^ 53)
    have hexp : (2 : ℚ) ^ b.exponent = 2 * unit := by
      rw [he, ← hunit]
      exact zpow_one_add₀ (by norm_num) 970
    have hm' : (b.mantissa : ℚ) + 1 / 2 ≤ 2 ^ 53 - 5 / 2 := by linarith
    calc ((b.mantissa : ℚ) + 1 / 2) * 2 ^ b.exponent * (1 + 1 / 2 ^ 53) ^ 2
        = (b.mantissa + 1 / 2) * (2 * (1 + 1 / 2 ^ 53) ^ 2) * unit := by rw [hexp]; ring
      _ ≤ (2 ^ 53 - 5 / 2) * (2 * (1 + 1 / 2 ^ 53) ^ 2) * unit := by gcongr
      _ < (2 ^ 54 - 1) * unit := mul_lt_mul_of_pos_right (by norm_num) hpos
  · have hm : (b.mantissa : ℚ) + 1 ≤ 2 ^ 53 := by
      have : b.mantissa < 2 ^ 53 := hb.mantissa
      exact_mod_cast this
    have hexp : (2 : ℚ) ^ b.exponent ≤ unit := hunit ▸ zpow_le_zpow_right₀ (by norm_num) he
    have hm' : (b.mantissa : ℚ) + 1 / 2 ≤ 2 ^ 53 := by linarith
    calc ((b.mantissa : ℚ) + 1 / 2) * 2 ^ b.exponent * (1 + 1 / 2 ^ 53) ^ 2
        ≤ 2 ^ 53 * unit * (1 + 1 / 2 ^ 53) ^ 2 := by gcongr
      _ = 2 ^ 53 * (1 + 1 / 2 ^ 53) ^ 2 * unit := by ring
      _ < (2 ^ 54 - 1) * unit := mul_lt_mul_of_pos_right (by norm_num) hpos

/-- What a finite binary number is shown as is in range. -/
theorem Finite.in_range (hb : b.Finite) :
    Decimal.overflows b.shortest.1 b.shortest.2 = false := by
  by_cases hm : b.mantissa = 0
  · simp [shortest, hm, Decimal.overflows]
  by_cases hlast : b.exponent = 971 → b.mantissa < 2 ^ 53 - 2
  · -- far enough inside
    refine in_range_of_lt (lt_of_le_of_lt ?_ (hb.top_lt hlast))
    have := shortest_le hm hb.mantissa
    gcongr
  · -- the last two numbers, of which the greater is shown below its value
    have hmant : b.mantissa < 2 ^ 53 := hb.mantissa
    have hlast' : b = ⟨2 ^ 53 - 2, 971⟩ ∨ b = ⟨2 ^ 53 - 1, 971⟩ := by
      obtain ⟨m, e⟩ := b
      simp only [Binary.mk.injEq] at hlast hmant ⊢
      omega
    obtain rfl | rfl := hlast' <;> decide +kernel

end Binary

end Switchboard
