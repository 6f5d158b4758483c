import Mathlib.Tactic.Ring
import Switchboard.Proofs.Decimal
import Switchboard.Proofs.Json.Numbers

/-! # Numbers with a point or an exponent can be read

A decimal is written in one of four forms.  Whichever it is, the reader takes in all of its
digits, and accepts it unless it lies beyond the range of binary numbers.  It need not get the
same digits and power of ten, as zeros may have been added behind the digits.

* `Numeric` — a text that is read as a number, wherever it may stand;
* `numeric_digits`, `numeric_point`, `numeric_exponent` — the forms that a number may have;
* `numeric_zeros`, `numeric_among`, `numeric_fraction` — where the point of a decimal may be;
* `numeric_layout` — a decimal whose digits fit into 64 bits and which is in range;
* `Number.Held`, `reads_number` — every number that a value can hold.
-/

namespace Switchboard.Json

open Switchboard.Bytes (ascii ofChars)
open Switchboard.Decimal (digits zeros exponentText pointed layout)

variable {negative : Bool} {v w : Nat} {e : Int} {ds bs rest : List UInt8}

/-! ## Digits behind others -/

theorem ascii_of_isDigit {c : Char} (hc : c.isDigit = true) : c.toNat < 128 := by
  have := toNat_of_isDigit hc
  omega

theorem numeral_append (m : Nat) (ds ds' : List UInt8) :
    numeral m (ds ++ ds') = numeral (numeral m ds) ds' := List.foldl_append

theorem numeral_zeros (m n : Nat) : numeral m (List.replicate n (ascii '0')) = m * 10 ^ n := by
  induction n generalizing m with
  | zero => exact (Nat.mul_one m).symm
  | succ n ih =>
    have hnext : numeral m (List.replicate (n + 1) (ascii '0'))
        = numeral (m * 10) (List.replicate n (ascii '0')) := rfl
    rw [hnext, ih, Nat.pow_succ]
    ring

theorem isDigit_zeros (n : Nat) : ∀ d ∈ List.replicate n (ascii '0'), isDigit d = true := by
  intro d hd
  rw [List.eq_of_mem_replicate hd]
  rfl

theorem ofChars_zeros (n : Nat) : ofChars (zeros n) = List.replicate n (ascii '0') := by
  rw [zeros, ofChars_eq_map (fun c hc => by rw [List.eq_of_mem_replicate hc]; decide),
    List.map_replicate]

/-! ## Parts of a number -/

theorem overflows_of_neg (v : Nat) {e : Int} (he : e < 0) : Decimal.overflows v e = false := by
  simp only [Decimal.overflows, decide_eq_false_iff_not]
  omega

theorem decimal_ok (negative : Bool) (hrange : Decimal.overflows v e = false)
    (rest : List UInt8) :
    decimal negative v e rest = .ok (.decimal ⟨negative, v, e⟩, rest) := by
  rw [decimal, hrange]
  rfl

theorem decimalTail_delimited (negative : Bool) (hrange : Decimal.overflows v e = false)
    (hrest : Delimited rest) :
    decimalTail negative v e rest = .ok (.decimal ⟨negative, v, e⟩, rest) := by
  obtain rfl | ⟨b, t, rfl, rfl | rfl | rfl⟩ := hrest.cases <;> exact decimal_ok negative hrange _

/-- A point and digits. -/
theorem afterWhole_point (negative : Bool) (hne : ds ≠ []) (hds : ∀ d ∈ ds, isDigit d = true)
    (hfits : numeral v ds < Limit.bits64) (hrest : rest.head?.any isDigit = false) :
    afterWhole negative v 0 (ascii '.' :: (ds ++ rest))
      = decimalTail negative (numeral v ds) (-ds.length) rest := by
  have hpoint : afterWhole negative v 0 (ascii '.' :: (ds ++ rest))
      = fractionPart negative v (0 : Nat) (ds ++ rest) := rfl
  have hempty : ds.isEmpty = false := by simpa using hne
  rw [hpoint, fractionPart]
  simp only [List.takeWhile_append_of_pos hds, List.dropWhile_append_of_pos hds,
    takeWhile_isDigit hrest, dropWhile_isDigit hrest, List.append_nil, hempty, absorb_eq hfits,
    Bool.false_eq_true, if_false, Nat.cast_zero, zero_sub]

/-- The digits of an exponent are taken in as long as it fits, and else passed over. -/
theorem exponentDigits_append {n : Nat} (hn : n < Limit.bits31)
    (hds : ∀ d ∈ ds, isDigit d = true) (hrest : rest.head?.any isDigit = false) :
    (numeral n ds < Limit.bits31 → exponentDigits n (ds ++ rest) = .ok (numeral n ds, rest)) ∧
      (Limit.bits31 ≤ numeral n ds →
        ∃ r, exponentDigits n (ds ++ rest) = .error r ∧ r.dropWhile isDigit = rest) := by
  induction ds generalizing n with
  | nil =>
    refine ⟨fun _ => ?_, fun hlarge => absurd hn (Nat.not_lt.2 hlarge)⟩
    cases rest with
    | nil => rfl
    | cons b t =>
      have hb : isDigit b = false := by simpa using hrest
      simp [exponentDigits, hb, numeral]
  | cons d ds ih =>
    obtain ⟨hd, hds⟩ := List.forall_mem_cons.1 hds
    have hnext : numeral n (d :: ds) = numeral (n * 10 + digitValue d) ds := rfl
    rw [hnext, List.cons_append, exponentDigits, if_pos hd]
    by_cases hfits : n * 10 + digitValue d < Limit.bits31
    · simp only [hfits, if_true]
      exact ih hfits hds
    · have hgrows := le_numeral (n * 10 + digitValue d) ds
      simp only [hfits, if_false]
      refine ⟨fun hsmall => absurd (hgrows.trans_lt hsmall) hfits, fun _ => ⟨_, rfl, ?_⟩⟩
      rw [List.dropWhile_append_of_pos hds, dropWhile_isDigit hrest]

theorem exponentPart_digits {sign : UInt8} {down : Bool} {k : Nat}
    (hsign : ∀ s, exponentSign (sign :: s) = (down, s)) (negative : Bool) (v : Nat) (e : Int)
    (hrest : Delimited rest) :
    (k < Limit.bits31 → exponentPart negative v e (sign :: (ofChars (digits k) ++ rest))
        = decimal negative v (if down then e - k else e + k) rest) ∧
      (Limit.bits31 ≤ k → down = true →
        exponentPart negative v e (sign :: (ofChars (digits k) ++ rest))
          = .ok (.decimal ⟨negative, 0, 0⟩, rest)) := by
  obtain ⟨b, s, hbs, hb⟩ := first_digit k
  have hread := exponentDigits_append (n := 0) (by decide) (isDigit_of_mem_ofChars (n := k))
    (head_delimited hrest)
  rw [numeral_digits, hbs, List.cons_append] at hread
  rw [hbs, List.cons_append, exponentPart, hsign]
  simp only [hb, if_true]
  constructor
  · intro hk
    rw [hread.1 hk]
  · rintro hk rfl
    obtain ⟨r, hr, hdrop⟩ := hread.2 hk
    simp [hr, hdrop]

/-- An exponent with its sign, read after its letter. -/
theorem exponentPart_text (negative : Bool) {k : Int} (hk : k < Limit.bits31)
    (hrange : Decimal.overflows v (e + k) = false) :
    ∃ n, ∀ rest, Delimited rest →
      exponentPart negative v e (ofChars (exponentText k) ++ rest) = .ok (n, rest) := by
  cases k with
  | ofNat k =>
    refine ⟨.decimal ⟨negative, v, e + k⟩, fun rest hrest => ?_⟩
    have hsign : ∀ s, exponentSign (ascii '+' :: s) = (false, s) := fun _ => rfl
    have hread := (exponentPart_digits hsign negative v e hrest).1 (Int.ofNat_lt.1 hk)
    rw [exponentText, ofChars_ascii (by decide), List.cons_append, hread]
    exact decimal_ok negative hrange rest
  | negSucc k =>
    have hsign : ∀ s, exponentSign (ascii '-' :: s) = (true, s) := fun _ => rfl
    have hread (rest : List UInt8) (hrest : Delimited rest) :=
      exponentPart_digits (k := k + 1) hsign negative v e hrest
    have htext (rest : List UInt8) : ofChars (exponentText (.negSucc k)) ++ rest
        = ascii '-' :: (ofChars (digits (k + 1)) ++ rest) := by
      rw [exponentText, ofChars_ascii (by decide), List.cons_append]
    by_cases hfits : k + 1 < Limit.bits31
    · refine ⟨.decimal ⟨negative, v, e + .negSucc k⟩, fun rest hrest => ?_⟩
      rw [htext, (hread rest hrest).1 hfits]
      exact decimal_ok negative hrange rest
    · refine ⟨.decimal ⟨negative, 0, 0⟩, fun rest hrest => ?_⟩
      rw [htext, (hread rest hrest).2 (Nat.not_lt.1 hfits) rfl]

/-! ## The forms of numbers -/

theorem Leads.take (hds : Leads ds) {count : Nat} (hcount : 0 < count) :
    Leads (ds.take count) := by
  refine ⟨fun d hd => hds.1 d (List.mem_of_mem_take hd), ?_⟩
  obtain ⟨count, rfl⟩ := Nat.exists_eq_succ_of_ne_zero hcount.ne'
  obtain ⟨-, rfl | ⟨b, s, rfl, hb⟩⟩ := hds
  · exact .inl (by simp)
  · exact .inr ⟨b, s.take count, rfl, hb⟩

/-- A text that is read as a number wherever it may stand, after a sign or without one. -/
def Numeric (bs : List UInt8) : Prop :=
  ∀ negative, ∃ n, ∀ rest, Delimited rest → unsigned negative (bs ++ rest) = .ok (n, rest)

/-- A whole number. -/
theorem numeric_digits {n : Nat} (hn : n < Limit.bits64) : Numeric (ofChars (digits n)) := by
  intro negative
  have hvalue := numeral_digits n
  have hread (rest : List UInt8) (hrest : Delimited rest) :
      unsigned negative (ofChars (digits n) ++ rest) = wholeNumber negative n 0 rest := by
    rw [unsigned_append negative (leads_digits n) (hvalue.symm ▸ hn) (head_delimited hrest), hvalue]
    obtain rfl | ⟨b, t, rfl, rfl | rfl | rfl⟩ := hrest.cases <;> rfl
  cases negative with
  | false => exact ⟨.whole n, fun rest hrest => hread rest hrest⟩
  | true =>
    by_cases hsmall : n ≠ 0 ∧ n ≤ Limit.bits63
    · exact ⟨.whole (-n), fun rest hrest =>
        (hread rest hrest).trans (by simp [wholeNumber, hsmall])⟩
    · exact ⟨.decimal ⟨true, n, 0⟩, fun rest hrest =>
        (hread rest hrest).trans (by simp [wholeNumber, hsmall])⟩

/-- Digits, a point, and more digits. -/
theorem unsigned_point (negative : Bool) (hds : Leads ds) (hne : bs ≠ [])
    (hbs : ∀ d ∈ bs, isDigit d = true) (hfits : numeral 0 (ds ++ bs) < Limit.bits64)
    (hrest : rest.head?.any isDigit = false) :
    unsigned negative (ds ++ ascii '.' :: (bs ++ rest))
      = decimalTail negative (numeral 0 (ds ++ bs)) (-bs.length) rest := by
  rw [numeral_append] at hfits ⊢
  rw [unsigned_append negative hds ((le_numeral _ bs).trans_lt hfits) rfl,
    afterWhole_point negative hne hbs hfits hrest]

theorem numeric_point (hds : Leads ds) (hne : bs ≠ []) (hbs : ∀ d ∈ bs, isDigit d = true)
    (hfits : numeral 0 (ds ++ bs) < Limit.bits64) : Numeric (ds ++ ascii '.' :: bs) := by
  intro negative
  have hpoint : -(bs.length : Int) < 0 := by
    have := List.length_pos_iff.2 hne
    omega
  refine ⟨.decimal ⟨negative, numeral 0 (ds ++ bs), -bs.length⟩, fun rest hrest => ?_⟩
  rw [List.append_assoc, List.cons_append,
    unsigned_point negative hds hne hbs hfits (head_delimited hrest)]
  exact decimalTail_delimited negative (overflows_of_neg _ hpoint) hrest

theorem decimalTail_exponent (negative : Bool) (v : Nat) (e : Int) (rest : List UInt8) :
    decimalTail negative v e (ascii 'e' :: rest) = exponentPart negative v e rest := rfl

theorem afterWhole_exponent (negative : Bool) (v : Nat) (rest : List UInt8) :
    afterWhole negative v 0 (ascii 'e' :: rest) = exponentPart negative v 0 rest := rfl

theorem ofChars_pointed {d d' : Char} {s : List Char} (hs : ∀ c ∈ d :: d' :: s, c.toNat < 128) :
    ofChars (pointed (d :: d' :: s)) = [ascii d] ++ ascii '.' :: (d' :: s).map ascii := by
  have hpointed : pointed (d :: d' :: s) = [d] ++ '.' :: d' :: s := rfl
  obtain ⟨hd, hothers⟩ := List.forall_mem_cons.1 hs
  rw [hpointed, ofChars_append, ofChars_ascii hd, ofChars_ascii (by decide),
    ofChars_eq_map hothers]
  rfl

/-- Digits with a point behind the first of them, if there are several, and an exponent. -/
theorem numeric_exponent {n : Nat} (hn : n < Limit.bits64) {k : Int} (hk : k < Limit.bits31)
    (hrange : Decimal.overflows n (k + 1 - (digits n).length) = false) :
    Numeric (ofChars (pointed (digits n) ++ 'e' :: exponentText k)) := by
  intro negative
  have hvalue := numeral_digits n
  have hleads := leads_digits n
  have hascii : ∀ c ∈ digits n, c.toNat < 128 := fun c hc => ascii_of_isDigit (isDigit_of_mem c hc)
  rw [ofChars_digits] at hvalue hleads
  rw [ofChars_append, ofChars_ascii (by decide)]
  generalize digits n = ds at *
  -- no point is written behind a single digit, so that case is read another way
  match ds with
  | [] =>
    obtain ⟨-, hzero | ⟨b, s, hcons, -⟩⟩ := hleads
    · cases hzero
    · cases hcons
  | [d] =>
    rw [List.length_singleton, Nat.cast_one, add_sub_cancel_right, ← zero_add k] at hrange
    obtain ⟨m, hm⟩ := exponentPart_text negative hk hrange
    refine ⟨m, fun rest hrest => ?_⟩
    have htext : ofChars (pointed [d]) = [d].map ascii := ofChars_eq_map hascii
    rw [htext, List.append_assoc, List.cons_append,
      unsigned_append negative hleads (hvalue.symm ▸ hn) rfl, hvalue, afterWhole_exponent,
      hm rest hrest]
  | d :: d' :: ds =>
    -- the digits behind the point are paid for by the exponent
    have hpower : k + 1 - ((d :: d' :: ds).length : Int)
        = -((d' :: ds).map ascii).length + k := by
      rw [List.length_map, List.length_cons]
      push_cast
      ring
    rw [hpower] at hrange
    obtain ⟨m, hm⟩ := exponentPart_text negative hk hrange
    refine ⟨m, fun rest hrest => ?_⟩
    have hfirst : Leads [ascii d] := hleads.take Nat.one_pos
    have hothers : ∀ b ∈ (d' :: ds).map ascii, isDigit b = true :=
      (List.forall_mem_cons.1 hleads.1).2
    have hjoined : [ascii d] ++ (d' :: ds).map ascii = (d :: d' :: ds).map ascii := rfl
    have htext : ofChars (pointed (d :: d' :: ds)) ++ ascii 'e' :: ofChars (exponentText k) ++ rest
        = [ascii d] ++ ascii '.' :: ((d' :: ds).map ascii
          ++ ascii 'e' :: (ofChars (exponentText k) ++ rest)) := by
      rw [ofChars_pointed hascii]
      simp
    have hfits : numeral 0 ([ascii d] ++ (d' :: ds).map ascii) < Limit.bits64 := by
      rw [hjoined, hvalue]
      exact hn
    have hne : (d' :: ds).map ascii ≠ [] := List.cons_ne_nil _ _
    rw [htext, unsigned_point negative hfirst hne hothers hfits rfl, hjoined, hvalue,
      decimalTail_exponent, hm rest hrest]

theorem Leads.append (hds : Leads ds) (hzero : numeral 0 ds ≠ 0)
    (hbs : ∀ d ∈ bs, isDigit d = true) : Leads (ds ++ bs) := by
  refine ⟨List.forall_mem_append.2 ⟨hds.1, hbs⟩, ?_⟩
  obtain ⟨-, rfl | ⟨b, s, rfl, hb⟩⟩ := hds
  · exact absurd rfl hzero
  · exact .inr ⟨b, s ++ bs, rfl, hb⟩

theorem le_of_in_range {n : Nat} (hpos : n ≠ 0) (hrange : Decimal.overflows n e = false) :
    e ≤ 308 := by
  simp only [Decimal.overflows, decide_eq_false_iff_not] at hrange
  omega

theorem length_digits_le {n : Nat} (hpos : n ≠ 0) (hn : n < Limit.bits64) :
    (digits n).length ≤ 20 := by
  have hle := (Decimal.digits_bounds n).2 (Nat.pos_of_ne_zero hpos)
  have hlt : 10 ^ (digits n).length < 10 ^ 21 := by
    refine hle.trans_lt ?_
    rw [Limit.bits64] at hn
    omega
  exact Nat.le_of_lt_succ ((Nat.pow_lt_pow_iff_right (by decide)).1 hlt)

/-- Zeros up to the point, and one behind it. -/
theorem numeric_zeros {n count : Nat} (hpos : n ≠ 0) (hfew : (digits n).length + count ≤ 16) :
    Numeric (ofChars (digits n ++ zeros count ++ ['.', '0'])) := by
  have hvalue := numeral_digits n
  have hcount := (Decimal.digits_bounds n).1
  have htext : ofChars (digits n ++ zeros count ++ ['.', '0'])
      = (ofChars (digits n) ++ List.replicate count (ascii '0')) ++ ascii '.' :: [ascii '0'] := by
    rw [ofChars_append, ofChars_append, ofChars_zeros]
    rfl
  have hnumeral : numeral 0 (ofChars (digits n) ++ List.replicate count (ascii '0')
      ++ [ascii '0']) = n * 10 ^ count * 10 ^ 1 := by
    rw [numeral_append, numeral_append, hvalue, numeral_zeros]
    exact numeral_zeros _ 1
  rw [htext]
  refine numeric_point ((leads_digits n).append (by rwa [hvalue]) (isDigit_zeros _))
    (List.cons_ne_nil _ _) (isDigit_zeros 1) ?_
  rw [hnumeral]
  calc n * 10 ^ count * 10 ^ 1 ≤ 10 ^ (digits n).length * 10 ^ count * 10 ^ 1 := by gcongr
    _ = 10 ^ ((digits n).length + count + 1) := by rw [pow_add, pow_add]
    _ ≤ 10 ^ 17 := Nat.pow_le_pow_right (by decide) (by omega)
    _ < Limit.bits64 := by decide

/-- The point among the digits. -/
theorem numeric_among {n count : Nat} (hn : n < Limit.bits64) (hsome : 0 < count)
    (hfew : count < (digits n).length) :
    Numeric (ofChars ((digits n).take count ++ '.' :: (digits n).drop count)) := by
  have hleads := leads_digits n
  have hbytes : ofChars (digits n) = (digits n).map ascii := ofChars_digits n
  have hascii : ∀ c ∈ digits n, c.toNat < 128 := fun c hc =>
    ascii_of_isDigit (isDigit_of_mem c hc)
  have htext : ofChars ((digits n).take count ++ '.' :: (digits n).drop count)
      = (ofChars (digits n)).take count ++ ascii '.' :: (ofChars (digits n)).drop count := by
    rw [ofChars_append, ofChars_ascii (by decide), hbytes,
      ofChars_eq_map fun c hc => hascii c (List.mem_of_mem_take hc),
      ofChars_eq_map fun c hc => hascii c (List.mem_of_mem_drop hc), List.map_take, List.map_drop]
  rw [htext]
  refine numeric_point (hleads.take hsome) ?_ ?_ ?_
  · rw [hbytes, ne_eq, List.drop_eq_nil_iff, List.length_map]
    omega
  · exact fun d hd => hleads.1 d (List.mem_of_mem_drop hd)
  · rw [List.take_append_drop, numeral_digits]
    exact hn

/-- Zeros behind the point. -/
theorem numeric_fraction {n : Nat} (hn : n < Limit.bits64) (count : Nat) :
    Numeric (ofChars ('0' :: '.' :: (zeros count ++ digits n))) := by
  have htext : ofChars ('0' :: '.' :: (zeros count ++ digits n))
      = [ascii '0'] ++ ascii '.' :: (List.replicate count (ascii '0') ++ ofChars (digits n)) := by
    rw [ofChars_ascii (by decide), ofChars_ascii (by decide), ofChars_append, ofChars_zeros]
    rfl
  have hzero : Leads [ascii '0'] := leads_digits 0
  have hfront : numeral 0 [ascii '0'] = 0 := rfl
  rw [htext]
  refine numeric_point hzero ?_ ?_ ?_
  · obtain ⟨b, s, hbs, -⟩ := first_digit n
    simp [hbs]
  · exact List.forall_mem_append.2 ⟨isDigit_zeros count, (leads_digits n).1⟩
  · rw [numeral_append, numeral_append, hfront, numeral_zeros, Nat.zero_mul, numeral_digits]
    exact hn

/-- The digits of a decimal with the point somewhere. -/
theorem numeric_layout {n : Nat} (hpos : n ≠ 0) (hn : n < Limit.bits64)
    (hrange : Decimal.overflows n e = false) :
    Numeric (ofChars (layout (digits n) ((digits n).length + e))) := by
  unfold layout
  dsimp only
  split
  · rw [add_sub_cancel_left]
    exact numeric_zeros hpos (by omega)
  split
  · exact numeric_among hn (by omega) (by omega)
  split
  · exact numeric_fraction hn _
  · have hpower := le_of_in_range hpos hrange
    have hcount := length_digits_le hpos hn
    have hlimit : Limit.bits31 = 2147483648 := rfl
    refine numeric_exponent hn (by omega) ?_
    rwa [sub_add_cancel, add_sub_cancel_left]

/-! ## All numbers -/

/-- The numbers that a value can hold: whole numbers of 64 bits, and finite binary numbers as
they are shown. -/
def Number.Held : Number → Prop
  | .whole n => Number.minWhole ≤ n ∧ n ≤ Number.maxWhole
  | .decimal d => ∃ b : Binary, b.Finite ∧ b.shortest = (d.significand, d.exponent)

/-- A number is written by a text that is read as a number, or by a sign in front of one. -/
theorem Number.Held.numeric {n : Number} (hn : n.Held) :
    ∃ s, Numeric (ofChars s) ∧ (n.text = s ∨ n.text = '-' :: s) := by
  cases n with
  | whole n =>
    obtain ⟨hmin, hmax⟩ := hn
    rw [minWhole, Limit.bits63] at hmin
    rw [maxWhole, Limit.bits64] at hmax
    cases n with
    | ofNat n =>
      have hfits : n < Limit.bits64 := by
        rw [Limit.bits64]
        simp only [Int.ofNat_eq_natCast] at hmax
        omega
      exact ⟨digits n, numeric_digits hfits, .inl rfl⟩
    | negSucc n =>
      have hfits : n + 1 < Limit.bits64 := by
        rw [Limit.bits64]
        omega
      exact ⟨digits (n + 1), numeric_digits hfits, .inr rfl⟩
  | decimal d =>
    obtain ⟨b, hb, hshown⟩ := hn
    have hfits := Binary.shortest_lt hb.mantissa
    have hrange := hb.in_range
    rw [hshown] at hfits hrange
    have hbody : Numeric (ofChars (if d.significand = 0 then ['0', '.', '0']
        else layout (digits d.significand) ((digits d.significand).length + d.exponent))) := by
      split
      · exact numeric_point (leads_digits 0) (List.cons_ne_nil _ _) (isDigit_zeros 1) (by decide)
      · next hpos => exact numeric_layout hpos hfits hrange
    refine ⟨_, hbody, ?_⟩
    change d.text = _ ∨ d.text = _
    rw [Decimal.text]
    cases d.negative
    · exact .inl rfl
    · exact .inr rfl

theorem Numeric.first {bs : List UInt8} (hbs : Numeric bs) :
    ∃ b s, bs = b :: s ∧ isDigit b = true := by
  obtain ⟨n, hn⟩ := hbs false
  have hread := hn [] delimited_nil
  rw [List.append_nil] at hread
  cases bs with
  | nil => cases hread
  | cons b s =>
    refine ⟨b, s, rfl, ?_⟩
    by_contra hdigit
    have hzero : b ≠ ascii '0' := fun hzero => hdigit (hzero ▸ rfl)
    rw [unsigned, if_neg hzero, if_neg hdigit] at hread
    cases hread

theorem valueOf_minus (inner : Option (Reader Json)) (s : List UInt8) :
    valueOf inner (ascii '-' :: s) =
      match unsigned true s with
      | .error e => .error e
      | .ok (n, r) => .ok (.number n, r) := by
  rfl

/-- Every number that a value can hold is read as a number. -/
theorem reads_number (depth : Nat) {n : Number} (hn : n.Held) :
    ∃ m, ∀ rest, Delimited rest →
      (value depth).run (ofChars n.text ++ rest) = .ok (.number m, rest) := by
  obtain ⟨inner, hrun⟩ := run_value depth
  obtain ⟨s, hs, htext | htext⟩ := hn.numeric
  · obtain ⟨m, hm⟩ := hs false
    refine ⟨m, fun rest hrest => ?_⟩
    obtain ⟨b, t, hbs, hb⟩ := hs.first
    have hread := hm rest hrest
    rw [hbs, List.cons_append] at hread
    rw [htext, hrun, hbs, List.cons_append, valueOf_digit hb]
    simp only [hread]
  · obtain ⟨m, hm⟩ := hs true
    refine ⟨m, fun rest hrest => ?_⟩
    rw [htext, hrun, ofChars_ascii (by decide), List.cons_append, valueOf_minus]
    simp only [hm rest hrest]

end Switchboard.Json
