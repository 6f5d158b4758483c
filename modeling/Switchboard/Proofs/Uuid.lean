import Mathlib.Algebra.GroupWithZero.Nat
import Switchboard.Uuid

/-! # Identifiers are read back as they were written

The digits of an identifier write the number that its bits are, the groups are put together
again where they were cut, and nothing in front of them is taken for a brace or a mark.

* `hexNumber_digits` — the number that the digits write;
* `unhyphenated_hyphenated` — groups and hyphens;
* `parse_render` — a whole identifier.
-/

namespace Switchboard

theorem Hex.digitValue_digit {n : Nat} (hn : n < 16) : Hex.digitValue (Hex.digit n) = some n := by
  decide +revert

namespace Uuid

/-! ## Digits -/

theorem hexNumber_append (s t : List Char) (n : Nat) :
    hexNumber n (s ++ t) = (hexNumber n s).bind fun m => hexNumber m t := by
  induction s generalizing n with
  | nil => rfl
  | cons c s ih =>
    simp only [List.cons_append, hexNumber]
    cases Hex.digitValue c with
    | none => rfl
    | some d => exact ih _

/-- So many of the last digits of a number write it, apart from what lies above them. -/
theorem hexNumber_lowest (count n : Nat) :
    hexNumber 0 ((List.range count).map fun i =>
        Hex.digit ((n >>> (4 * (count - 1 - i))) % 16)) = some (n % 16 ^ count) := by
  induction count generalizing n with
  | zero => simp [hexNumber, Nat.mod_one]
  | succ count ih =>
    -- the last digit is split off, and the others are those of the number without it
    have hothers : (List.range count).map (fun i =>
        Hex.digit ((n >>> (4 * (count + 1 - 1 - i))) % 16)) =
          (List.range count).map fun i =>
            Hex.digit (((n >>> 4) >>> (4 * (count - 1 - i))) % 16) := by
      refine List.map_congr_left fun i hi => ?_
      have hi : i < count := List.mem_range.1 hi
      have hshift : 4 * (count + 1 - 1 - i) = 4 + 4 * (count - 1 - i) := by omega
      rw [hshift, Nat.shiftRight_add]
    have hlast : Hex.digitValue (Hex.digit (n % 16)) = some (n % 16) :=
      Hex.digitValue_digit (Nat.mod_lt _ (by decide))
    have hsplit : (n >>> 4) % 16 ^ count * 16 + n % 16 = n % 16 ^ (count + 1) := by
      have hdiv : n >>> 4 = n / 16 := Nat.shiftRight_eq_div_pow n 4
      rw [hdiv, Nat.pow_succ', Nat.mod_mul, Nat.mul_comm, Nat.add_comm]
    rw [List.range_succ, List.map_append, hothers, hexNumber_append, ih]
    simp only [List.map_cons, List.map_nil, Nat.add_sub_cancel, Nat.sub_self, Nat.mul_zero,
      Nat.shiftRight_zero, Option.bind_some, hexNumber, hlast, hsplit]

theorem length_digits (u : Uuid) : u.digits.length = 32 := by
  simp [digits]

theorem hexNumber_digits (u : Uuid) : hexNumber 0 u.digits = some u.bits.toNat := by
  have hbound : u.bits.toNat < 16 ^ 32 := u.bits.isLt
  have hlowest := hexNumber_lowest 32 u.bits.toNat
  rwa [Nat.mod_eq_of_lt hbound] at hlowest

theorem ofDigits_digits (u : Uuid) : ofDigits u.digits = some u := by
  rw [ofDigits, if_pos u.length_digits, hexNumber_digits, Option.map_some, BitVec.ofNat_toNat,
    BitVec.setWidth_eq]

/-! ## Groups -/

theorem length_hyphenated {ns : List Nat} {ds : List Char} (hlen : ds.length = ns.sum) :
    (hyphenated ns ds).length + 1 = ds.length + max ns.length 1 := by
  induction ns generalizing ds with
  | nil => simp_all [hyphenated]
  | cons n ns ih =>
    cases ns with
    | nil => rfl
    | cons m ns =>
      have hdrop : (ds.drop n).length = (m :: ns).sum := by
        rw [List.length_drop, hlen, List.sum_cons, Nat.add_sub_cancel_left]
      have hrest := ih hdrop
      rw [List.sum_cons] at hlen
      simp only [hyphenated, List.length_append, List.length_cons, List.length_take,
        List.length_drop] at hrest ⊢
      omega

/-- Groups that have been cut are put together again. -/
theorem unhyphenated_hyphenated {ns : List Nat} {ds : List Char} (hlen : ds.length = ns.sum) :
    unhyphenated ns (hyphenated ns ds) = some ds := by
  induction ns generalizing ds with
  | nil =>
    obtain rfl := List.length_eq_zero_iff.1 hlen
    rfl
  | cons n ns ih =>
    cases ns with
    | nil => exact if_pos hlen
    | cons m ns =>
      rw [List.sum_cons] at hlen
      have htake : (ds.take n).length = n := by
        rw [List.length_take]
        omega
      have hdrop : (ds.drop n).length = (m :: ns).sum := by
        rw [List.length_drop]
        omega
      have hgroups : hyphenated (n :: m :: ns) ds
          = ds.take n ++ '-' :: hyphenated (m :: ns) (ds.drop n) := rfl
      have hthere : (hyphenated (n :: m :: ns) ds).drop n
          = '-' :: hyphenated (m :: ns) (ds.drop n) := by
        rw [hgroups, List.drop_append_of_le_length (Nat.le_of_eq htake.symm),
          List.drop_eq_nil_of_le (Nat.le_of_eq htake), List.nil_append]
      have hhere : (hyphenated (n :: m :: ns) ds).take n = ds.take n := by
        rw [hgroups, List.take_append_of_le_length (Nat.le_of_eq htake.symm),
          List.take_of_length_le (Nat.le_of_eq htake)]
      simp only [unhyphenated, hthere, hhere, ih hdrop, Option.map_some, List.take_append_drop]

/-! ## Identifiers -/

theorem digit_ne_brace : ∀ d < 16, Hex.digit d ≠ '{' := by decide

theorem lower_digit_ne_mark : ∀ d < 16, (Hex.digit d).toLower ≠ 'u' := by decide

/-- What is written begins with a digit, so it is neither in braces nor behind a mark. -/
theorem unwrap_hyphenated (u : Uuid) :
    unwrap (hyphenated groupLengths u.digits) = (hyphenated groupLengths u.digits, 0) := by
  obtain ⟨d, hd, rest, heq⟩ : ∃ d < 16, ∃ rest,
      hyphenated groupLengths u.digits = Hex.digit d :: rest :=
    ⟨_, Nat.mod_lt _ (by decide), _, rfl⟩
  have hbrace : Hex.digit d ≠ '{' := digit_ne_brace d hd
  have hmark : (Hex.digit d).toLower ≠ 'u' := lower_digit_ne_mark d hd
  rw [heq, unwrap, if_neg (by simp [hbrace]), if_neg (by simp [urn, hmark])]

theorem parse_render (u : Uuid) : parse u.render = .ok u := by
  have hsum : u.digits.length = groupLengths.sum := u.length_digits
  -- with its hyphens the text is too long for 32 digits
  have hbare : ofDigits (hyphenated groupLengths u.digits) = none := by
    have hlen := length_hyphenated hsum
    refine if_neg fun h32 => ?_
    rw [h32, length_digits] at hlen
    exact absurd hlen (by decide)
  have hparse : parse? (hyphenated groupLengths u.digits) = some u := by
    simp only [parse?, unwrap_hyphenated, hbare, Option.none_or, ofGroups,
      unhyphenated_hyphenated hsum, Option.bind_some, ofDigits_digits]
  rw [parse, render, String.toList_ofList, hparse]

end Uuid

end Switchboard
