import Switchboard.Json.Reader
import Switchboard.Proofs.Json.Written

/-! # Whole numbers are read back as they were written

A number without sign is written by its digits, of which the first is no zero unless it is
the only one.  As long as it fits into 64 bits the reader takes in all of them, and what may
follow a value is neither a digit nor a point nor the letter of an exponent.

* `numeral`, `numeral_digits` — the number that digits write, and that of the digits of a number;
* `digits_cases` — zero, or no zero in front;
* `absorb_eq` — digits that fit are all taken in;
* `Leads`, `unsigned_append` — the digits that a number begins with;
* `reads_ofNat` — a whole number.
-/

namespace Switchboard.Json

open Switchboard.Bytes (ascii ofChars)

/-! ## Digits -/

theorem ofChars_eq_map {s : List Char} (hs : ∀ c ∈ s, c.toNat < 128) : ofChars s = s.map ascii := by
  induction s with
  | nil => rfl
  | cons c s ih =>
    obtain ⟨hc, hs⟩ := List.forall_mem_cons.1 hs
    rw [ofChars_ascii hc, ih hs, List.map_cons]

theorem toNat_of_isDigit {c : Char} (hc : c.isDigit = true) : 48 ≤ c.toNat ∧ c.toNat ≤ 57 := by
  simp only [Char.isDigit, Bool.and_eq_true, decide_eq_true_eq] at hc
  exact hc

theorem toNat_ascii {c : Char} (hc : c.toNat < 128) : (ascii c).toNat = c.toNat := by
  rw [ascii, UInt8.toNat_ofNat']
  omega

theorem isDigit_ascii {c : Char} (hc : c.isDigit = true) : isDigit (ascii c) = true := by
  obtain ⟨hlow, hhigh⟩ := toNat_of_isDigit hc
  have hnat := toNat_ascii (c := c) (by omega)
  have hzero : (ascii '0').toNat = 48 := rfl
  have hnine : (ascii '9').toNat = 57 := rfl
  simp only [isDigit, UInt8.le_iff_toNat_le, hnat, hzero, hnine, hlow, hhigh, and_self, decide_true]

theorem isDigit_of_mem {n : Nat} : ∀ c ∈ Decimal.digits n, c.isDigit = true :=
  fun _ => Nat.isDigit_of_mem_toDigits (by decide) (by decide)

theorem ofChars_digits (n : Nat) : ofChars (Decimal.digits n) = (Decimal.digits n).map ascii := by
  refine ofChars_eq_map fun c hc => ?_
  have := toNat_of_isDigit (isDigit_of_mem c hc)
  omega

theorem isDigit_of_mem_ofChars {n : Nat} :
    ∀ b ∈ ofChars (Decimal.digits n), isDigit b = true := by
  intro b hb
  rw [ofChars_digits, List.mem_map] at hb
  obtain ⟨c, hc, rfl⟩ := hb
  exact isDigit_ascii (isDigit_of_mem c hc)

/-- The number that digits write behind those of `m`. -/
def numeral (m : Nat) (ds : List UInt8) : Nat := ds.foldl (fun n d => n * 10 + digitValue d) m

theorem numeral_chars {s : List Char} (hs : ∀ c ∈ s, c.isDigit = true) (m : Nat) :
    numeral m (s.map ascii) = Nat.ofDigitChars 10 s m := by
  induction s generalizing m with
  | nil => rfl
  | cons c s ih =>
    obtain ⟨hc, hs⟩ := List.forall_mem_cons.1 hs
    have hvalue : digitValue (ascii c) = c.toNat - '0'.toNat := by
      have := toNat_of_isDigit hc
      rw [digitValue, toNat_ascii (by omega)]
      rfl
    have hnext := ih hs (10 * m + (c.toNat - '0'.toNat))
    rw [← hvalue, Nat.mul_comm] at hnext
    rw [List.map_cons, numeral, List.foldl_cons, ← numeral, hnext, Nat.ofDigitChars,
      Nat.ofDigitChars, List.foldl_cons, hvalue, Nat.mul_comm]

theorem numeral_digits (n : Nat) : numeral 0 (ofChars (Decimal.digits n)) = n := by
  rw [ofChars_digits, numeral_chars isDigit_of_mem]
  exact Nat.ofDigitChars_toDigits (by decide) (by decide)

theorem le_numeral (m : Nat) (ds : List UInt8) : m ≤ numeral m ds := by
  induction ds generalizing m with
  | nil => exact Nat.le_refl m
  | cons d ds ih =>
    have := ih (m * 10 + digitValue d)
    rw [numeral, List.foldl_cons, ← numeral]
    omega

/-- Digits of a number that fits are all taken in. -/
theorem absorb_eq {m : Nat} {ds : List UInt8} (hfits : numeral m ds < Limit.bits64) :
    absorb m ds = (numeral m ds, ds.length, 0) := by
  induction ds generalizing m with
  | nil => rfl
  | cons d ds ih =>
    have hnext : numeral m (d :: ds) = numeral (m * 10 + digitValue d) ds := rfl
    rw [hnext] at hfits
    have hfirst : m * 10 + digitValue d < Limit.bits64 :=
      Nat.lt_of_le_of_lt (le_numeral _ ds) hfits
    simp only [absorb, if_pos hfirst, ih hfits, hnext, List.length_cons]

theorem head_digits {n : Nat} (hn : 0 < n) : ∃ d s, Decimal.digits n = Nat.digitChar d :: s ∧
    0 < d ∧ d < 10 := by
  induction n using Nat.strongRecOn with
  | ind n ih =>
    rw [Decimal.digits, Nat.toDigits_eq_if (by decide)]
    split
    · next hsmall => exact ⟨n, [], rfl, hn, hsmall⟩
    · next hlarge =>
      -- the first digit is that of the number without its last one
      obtain ⟨d, s, hds, hd⟩ := ih (n / 10) (by omega) (by omega)
      rw [Decimal.digits] at hds
      exact ⟨d, s ++ [Nat.digitChar (n % 10)], by rw [hds, List.cons_append], hd⟩

theorem digits_cases (n : Nat) :
    (n = 0 ∧ ofChars (Decimal.digits n) = [ascii '0']) ∨
      ∃ b s, ofChars (Decimal.digits n) = b :: s ∧ b ≠ ascii '0' := by
  obtain rfl | hn := Nat.eq_zero_or_pos n
  · exact .inl ⟨rfl, rfl⟩
  · obtain ⟨d, s, hds, hpos, hten⟩ := head_digits hn
    have hzero : ∀ d < 10, 0 < d → ascii (Nat.digitChar d) ≠ ascii '0' := by decide
    refine .inr ⟨ascii (Nat.digitChar d), s.map ascii, ?_, hzero d hten hpos⟩
    rw [ofChars_digits, hds, List.map_cons]

theorem first_digit (n : Nat) :
    ∃ b s, ofChars (Decimal.digits n) = b :: s ∧ isDigit b = true := by
  have hdigits := isDigit_of_mem_ofChars (n := n)
  obtain ⟨-, hzero⟩ | ⟨b, s, hbs, -⟩ := digits_cases n
  · exact ⟨ascii '0', [], hzero, rfl⟩
  · exact ⟨b, s, hbs, hdigits b (hbs ▸ List.mem_cons_self)⟩

/-! ## Numbers -/

theorem Delimited.cases {rest : List UInt8} (hrest : Delimited rest) :
    rest = [] ∨ ∃ b t, rest = b :: t ∧ (b = ascii ',' ∨ b = ascii ']' ∨ b = ascii '}') := by
  cases rest with
  | nil => exact .inl rfl
  | cons b t => exact .inr ⟨b, t, rfl, hrest b rfl⟩

theorem head_delimited {rest : List UInt8} (hrest : Delimited rest) :
    rest.head?.any isDigit = false := by
  obtain rfl | ⟨b, t, rfl, rfl | rfl | rfl⟩ := hrest.cases <;> rfl

theorem takeWhile_isDigit {rest : List UInt8} (hrest : rest.head?.any isDigit = false) :
    rest.takeWhile isDigit = [] := by
  cases rest with
  | nil => rfl
  | cons b t =>
    have hb : isDigit b = false := by simpa using hrest
    simp [hb]

theorem dropWhile_isDigit {rest : List UInt8} (hrest : rest.head?.any isDigit = false) :
    rest.dropWhile isDigit = rest := by
  cases rest with
  | nil => rfl
  | cons b t =>
    have hb : isDigit b = false := by simpa using hrest
    simp [hb]

theorem afterWhole_delimited {rest : List UInt8} (hrest : Delimited rest) (n : Nat) :
    afterWhole false n 0 rest = .ok (.whole n, rest) := by
  obtain rfl | ⟨b, t, rfl, rfl | rfl | rfl⟩ := hrest.cases <;> rfl

/-- Digits that a number may begin with: no zero stands in front of others. -/
def Leads (ds : List UInt8) : Prop :=
  (∀ d ∈ ds, isDigit d = true) ∧ (ds = [ascii '0'] ∨ ∃ b s, ds = b :: s ∧ b ≠ ascii '0')

theorem leads_digits (n : Nat) : Leads (ofChars (Decimal.digits n)) := by
  refine ⟨isDigit_of_mem_ofChars, ?_⟩
  obtain ⟨-, hzero⟩ | hother := digits_cases n
  · exact .inl hzero
  · exact .inr hother

/-- The digits in front of whatever else a number goes on with. -/
theorem unsigned_append (negative : Bool) {ds rest : List UInt8} (hds : Leads ds)
    (hfits : numeral 0 ds < Limit.bits64) (hrest : rest.head?.any isDigit = false) :
    unsigned negative (ds ++ rest) = afterWhole negative (numeral 0 ds) 0 rest := by
  obtain ⟨hdigits, rfl | ⟨b, s, rfl, hb⟩⟩ := hds
  · -- after a zero in front no digit may follow
    rw [List.singleton_append, unsigned]
    simp only [if_true, hrest]
    rfl
  · obtain ⟨hfirst, hothers⟩ := List.forall_mem_cons.1 hdigits
    rw [List.cons_append, unsigned]
    simp only [hb, if_false, hfirst, if_true, List.takeWhile_append_of_pos hothers,
      List.dropWhile_append_of_pos hothers, takeWhile_isDigit hrest, dropWhile_isDigit hrest,
      List.append_nil, absorb_eq hfits]

theorem unsigned_digits {n : Nat} (hn : n < Limit.bits64) {rest : List UInt8}
    (hrest : Delimited rest) :
    unsigned false (ofChars (Decimal.digits n) ++ rest) = .ok (.whole n, rest) := by
  have hvalue := numeral_digits n
  rw [unsigned_append false (leads_digits n) (hvalue.symm ▸ hn) (head_delimited hrest), hvalue,
    afterWhole_delimited hrest]

theorem ne_of_isDigit {b c : UInt8} (hb : isDigit b = true) (hc : isDigit c = false) : b ≠ c := by
  rintro rfl
  rw [hb] at hc
  cases hc

theorem isBlank_digit {b : UInt8} (hb : isDigit b = true) : isBlank b = false := by
  have hne : ∀ c, isDigit c = false → b ≠ c := fun _ => ne_of_isDigit hb
  simp [isBlank, hne (ascii ' ') rfl, hne (ascii '\n') rfl, hne (ascii '\t') rfl,
    hne (ascii '\r') rfl]

theorem skipBlanks_digit {b : UInt8} (hb : isDigit b = true) (s : List UInt8) :
    skipBlanks (b :: s) = b :: s := skipBlanks_of_not_blank (isBlank_digit hb) s

/-- A value that begins with a digit is a number. -/
theorem valueOf_digit {b : UInt8} (hb : isDigit b = true) (inner : Option (Reader Json))
    (s : List UInt8) :
    valueOf inner (b :: s) =
      match unsigned false (b :: s) with
      | .error e => .error e
      | .ok (n, r) => .ok (.number n, r) := by
  have hne : ∀ c, isDigit c = false → b ≠ c := fun _ => ne_of_isDigit hb
  rw [valueOf, skipBlanks_digit hb]
  cases hread : unsigned false (b :: s) <;>
    simp only [valueFrom, hne (ascii 'n') rfl, hne (ascii 't') rfl, hne (ascii 'f') rfl,
      hne (ascii '"') rfl, if_false, hb, or_true, if_true, readNumber, hne (ascii '-') rfl, hread]

/-- A whole number that fits into 64 bits is read back. -/
theorem reads_ofNat (depth : Nat) {n : Nat} (hn : n < Limit.bits64) :
    Reads (value depth) (.ofNat n) := by
  intro rest hrest
  obtain ⟨inner, hrun⟩ := run_value depth
  obtain ⟨b, s, hbs, hb⟩ := first_digit n
  have htext : (ofNat n).text = Decimal.digits n := rfl
  have hunsigned := unsigned_digits hn hrest
  rw [hbs, List.cons_append] at hunsigned
  rw [htext, hrun, hbs, List.cons_append, valueOf_digit hb]
  simp only [hunsigned]
  rfl

end Switchboard.Json
