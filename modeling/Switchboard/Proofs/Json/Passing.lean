import Switchboard.Json.Reader
import Switchboard.Proofs.Json.Numbers

/-! # Passing over values

A reader that wants some members of an object only passes over the others.  It is less
particular than one that reads them: a string that can be read can be passed over, with the
same text left behind it, and so can a whole number.

* `passString_of_stringBody` — strings;
* `Passed` — what it means that a value can be passed over;
* `passed_string`, `passed_ofNat` — scalars;
* `TakesAll.only`, `takesAll_passed` — the members that a rule is for, and the others;
* `parseOnly_render` — a whole text.
-/

namespace Switchboard.Json

open Switchboard.Bytes (ascii ofChars)

/-! ## Strings -/

theorem passString_escape {t r : List UInt8} {u : Unit} (h : passEscape t = .ok (u, r)) :
    passString (ascii '\\' :: t) = passString r := by
  rw [passString, if_neg (by decide), if_pos rfl]
  split
  · next e he =>
    rw [h] at he
    cases he
  · next u' r' he =>
    rw [h] at he
    cases he
    rfl

theorem passEscape_hexUnit {t r : List UInt8} {n : Nat} (h : hexUnit t = .ok (n, r)) :
    passEscape (ascii 'u' :: t) = .ok ((), r) := by
  rw [passEscape, if_pos rfl, h]
  rfl

/-- Of a pair of units each is passed over by itself. -/
theorem passString_pairAfter {first : Nat} {t r : List UInt8} {c : Char}
    (h : pairAfter first t = .ok (c, r)) : passString t = passString r := by
  -- the second unit stands behind another backslash, and is an escape by itself
  unfold pairAfter at h
  split at h
  · cases h
  split at h
  · next hslash =>
    split at h
    · cases h
    split at h
    · next hu =>
      subst hslash hu
      unfold secondUnit at h
      split at h
      · cases h
      · next n r' hunit =>
        split at h
        · simp only [Except.ok.injEq, Prod.mk.injEq] at h
          rw [← h.2]
          exact passString_escape (passEscape_hexUnit hunit)
        · cases h
    · cases h
  · cases h

theorem passString_escaped {t r : List UInt8} {c : Char} (h : escaped t = .ok (c, r)) :
    passString (ascii '\\' :: t) = passString r := by
  unfold escaped at h
  split at h
  · cases h
  split at h
  · next hu =>
    subst hu
    unfold unicodeEscape at h
    split at h
    · cases h
    · next n r' hunit =>
      have hfirst := passString_escape (passEscape_hexUnit hunit)
      split at h
      · cases h
      split at h
      · exact hfirst.trans (passString_pairAfter h)
      · cases h
        exact hfirst
  · next d s hu =>
    split at h
    · next e he =>
      cases h
      refine passString_escape (u := ()) ?_
      rw [passEscape, if_neg hu, if_pos (he ▸ rfl)]
    · cases h

/-- A string that can be read can be passed over. -/
theorem passString_of_stringBody {done s r : List UInt8} {a : String}
    (h : stringBody done s = .ok (a, r)) : passString s = .ok ((), r) := by
  fun_induction stringBody done s with
  | case1 => cases h
  | case2 done t =>
    rw [passString, if_pos rfl, eq_of_textOf h]
  | case3 => cases h
  | case4 done t d u hescaped hquote ih => rw [passString_escaped hescaped, ih h]
  | case5 => cases h
  | case6 done c t hquote hslash hcontrol ih =>
    rw [passString, if_neg hquote, if_neg hslash, if_neg hcontrol, ih h]

/-! ## Values -/

/-- A value can be passed over that is written in front of what may follow it. -/
def Passed (v : Json) : Prop :=
  ∀ rest, Delimited rest → pass.run (ofChars v.text ++ rest) = .ok ((), rest)

theorem pass_scalar {c : UInt8} {s t r : List UInt8} (hs : skipBlanks s = c :: t)
    (hopening : Bracket.ofOpening c = none) (hscalar : passScalar c t = .ok ((), r)) :
    pass.run s = .ok ((), r) := by
  change passInside .before [] s = .ok ((), r)
  rw [passInside]
  split
  · next heq =>
    rw [hs] at heq
    cases heq
  · next c' t' heq =>
    rw [hs] at heq
    cases heq
    split
    · split
      · next e he =>
        rw [hscalar] at he
        cases he
      · next u r' he =>
        rw [hscalar] at he
        cases he
        rw [passInside]
    · next b hb =>
      rw [hopening] at hb
      cases hb

theorem passed_string (s : String) : Passed (.string s) := by
  intro rest _
  have hbody := passString_of_stringBody (stringBody_quote s rest)
  have hscalar : ∀ t, passScalar (ascii '"') t = passString t := fun _ => rfl
  rw [text, quote, ofChars_ascii (by decide), List.cons_append]
  exact pass_scalar (skipBlanks_of_not_blank (by decide) _) rfl ((hscalar _).trans hbody)

theorem passDecimals_delimited {rest : List UInt8} (hrest : Delimited rest) :
    passDecimals rest = .ok ((), rest) := by
  obtain rfl | ⟨b, t, rfl, rfl | rfl | rfl⟩ := hrest.cases <;> rfl

theorem passNumber_digits (n : Nat) {rest : List UInt8} (hrest : Delimited rest) :
    passNumber (ofChars (Decimal.digits n) ++ rest) = .ok ((), rest) := by
  obtain ⟨-, hzero⟩ | ⟨b, s, hbs, hb⟩ := digits_cases n
  · have hhead := head_delimited hrest
    rw [hzero, List.singleton_append, passNumber]
    simp only [if_true, hhead]
    exact passDecimals_delimited hrest
  · have hdigits := isDigit_of_mem_ofChars (n := n)
    rw [hbs] at hdigits
    obtain ⟨hfirst, hothers⟩ := List.forall_mem_cons.1 hdigits
    rw [hbs, List.cons_append, passNumber, if_neg hb, passDigits, if_pos hfirst,
      List.dropWhile_append_of_pos hothers, dropWhile_isDigit (head_delimited hrest)]
    exact passDecimals_delimited hrest

theorem passed_ofNat (n : Nat) : Passed (.ofNat n) := by
  intro rest hrest
  obtain ⟨b, s, hbs, hb⟩ := first_digit n
  have htext : (ofNat n).text = Decimal.digits n := rfl
  have hnumber := passNumber_digits n hrest
  have hne : ∀ c, isDigit c = false → b ≠ c := fun _ => ne_of_isDigit hb
  rw [hbs, List.cons_append] at hnumber
  rw [htext, hbs, List.cons_append]
  refine pass_scalar (skipBlanks_digit hb _) ?_ ?_
  · rw [Bracket.ofOpening, if_neg (hne _ rfl), if_neg (hne _ rfl)]
  · simp only [passScalar, hne (ascii 'n') rfl, hne (ascii 't') rfl, hne (ascii 'f') rfl,
      hne (ascii '"') rfl, hne (ascii '-') rfl, if_false, hb, if_true, hnumber]

/-! ## Members -/

variable {σ : Type} {rule : MemberRule σ} {st st' : σ} {names : List String}

/-- A rule for some members does with them what it does without the others. -/
theorem TakesAll.only {members : List (String × Json)} (hm : TakesAll rule st members st')
    (hnames : ∀ e ∈ members, e.1 ∈ names) : TakesAll (rule.only names) st members st' := by
  induction hm with
  | nil => exact .nil
  | @cons st st' st'' name v members hfirst _ ih =>
    obtain ⟨hname, hnames⟩ := List.forall_mem_cons.1 hnames
    refine .cons (fun rest hrest => ?_) (ih hnames)
    exact (if_pos hname).trans (hfirst rest hrest)

theorem takesAll_passed {members : List (String × Json)}
    (hm : ∀ e ∈ members, e.1 ∉ names ∧ Passed e.2) :
    TakesAll (rule.only names) st members st := by
  induction members with
  | nil => exact .nil
  | cons e members ih =>
    obtain ⟨name, v⟩ := e
    obtain ⟨⟨hname, hv⟩, hmembers⟩ := List.forall_mem_cons.1 hm
    refine .cons (fun rest hrest => (if_neg hname).trans ?_) (ih hmembers)
    simp only [colon_text, hv rest hrest]

/-! ## Whole texts -/

/-- An object of which all members are wanted is read back. -/
theorem parseOnly_render {name : String} {v : Json} {members : List (String × Json)}
    (hnames : ∀ e ∈ (name, v) :: members, e.1 ∈ names)
    (hreads : ∀ e ∈ (name, v) :: members, Reads (value (maxDepth - 1)) e.2) :
    parseOnly names (Bytes.ofString (Json.object ((name, v) :: members)).render)
      = .ok (.object ((name, v) :: members)) := by
  have hfields := fields_text ((takesAll_keep hreads []).only hnames) []
  have hending : ending [] = .ok ((), []) := rfl
  rw [List.append_nil] at hfields
  rw [parseOnly, readAll, render, Bytes.ofString_ofList, text, ofChars_ascii (by decide), readOnly,
    skipBlanks_of_not_blank (by decide)]
  simp only [if_true, hfields, List.append_nil, List.reverse_reverse, hending]

end Switchboard.Json
