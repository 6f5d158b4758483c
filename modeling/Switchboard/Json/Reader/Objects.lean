import Switchboard.Json.Basic
import Switchboard.Json.Reader.Strings

/-! # Reading objects

What is done with a member is a parameter: it is told the name, and reads on
from there, colon and value.

* `Json.MemberRule` — what is done with a member;
* `Json.fields` — the members of an object, each by a given rule;
* `Json.keep` — the rule that keeps each member. -/

namespace Switchboard.Json

open Switchboard.Bytes (ascii)

/-- What to do with a member of an object, given what the members before it came to. -/
structure MemberRule (σ : Type) where
  run : σ → String → List UInt8 → Outcome σ
  shrinks : ∀ {st st' : σ} {name : String} {s r : List UInt8},
    run st name s = .ok (st', r) → r.length < s.length

def colon (s : List UInt8) : Outcome Unit :=
  match skipBlanks s with
  | [] => failOn .eofInObject []
  | c :: t => if c = ascii ':' then .ok ((), t) else failOn .expectedColon (c :: t)

theorem length_lt_of_colon {s r : List UInt8} {u : Unit} (h : colon s = .ok (u, r)) :
    r.length < s.length := by
  unfold colon at h
  split at h
  · simp [failOn] at h
  · rename_i c t ht
    have := length_lt_of_skipBlanks ht
    split at h
    · simp only [Except.ok.injEq, Prod.mk.injEq] at h
      rw [← h.2]
      exact this
    · simp [failOn] at h

/-- A name and what is done with its member, read after the quote in front of it. -/
def member {σ : Type} (rule : MemberRule σ) (st : σ) (s : List UInt8) : Outcome σ :=
  match stringBody [] s with
  | .error e => .error e
  | .ok (name, r) => rule.run st name r

theorem length_lt_of_member {σ : Type} {rule : MemberRule σ} {st st' : σ} {s r : List UInt8}
    (h : member rule st s = .ok (st', r)) : r.length < s.length := by
  unfold member at h
  split at h
  · simp at h
  · rename_i name t ht
    have := length_lt_of_stringBody ht
    have := rule.shrinks h
    omega

/-- The members after the first. -/
def fieldsTail {σ : Type} (rule : MemberRule σ) (st : σ) (s : List UInt8) : Outcome σ :=
  match _h : skipBlanks s with
  | [] => failOn .eofInObject []
  | c :: t =>
    if c = ascii '}' then .ok (st, t)
    else if c = ascii ',' then
      match _h' : skipBlanks t with
      | [] => failOn .eofInValue []
      | d :: u =>
        if d = ascii '"' then
          match _h'' : member rule st u with
          | .error e => .error e
          | .ok (st', r) => fieldsTail rule st' r
        else if d = ascii '}' then failOn .trailingComma (d :: u)
        else failOn .keyMustBeString (d :: u)
    else failOn .expectedObjectCommaOrEnd (c :: t)
termination_by s.length
decreasing_by
  have := length_lt_of_skipBlanks _h
  have := length_lt_of_skipBlanks _h'
  have := length_lt_of_member _h''
  omega

def fieldsItems {σ : Type} (rule : MemberRule σ) (st : σ) (s : List UInt8) : Outcome σ :=
  match skipBlanks s with
  | [] => failOn .eofInObject []
  | c :: t =>
    if c = ascii '}' then .ok (st, t)
    else if c = ascii '"' then
      match member rule st t with
      | .error e => .error e
      | .ok (st', r) => fieldsTail rule st' r
    else failOn .keyMustBeString (c :: t)

/-- The members of an object, read after its opening brace. -/
def fields {σ : Type} (rule : MemberRule σ) (st : σ) (s : List UInt8) : Outcome σ :=
  closing (·.inObject s) (fieldsItems rule st s)

theorem length_lt_of_fieldsTail {σ : Type} {rule : MemberRule σ} {st st' : σ} {s r : List UInt8}
    (h : fieldsTail rule st s = .ok (st', r)) : r.length < s.length := by
  fun_induction fieldsTail rule st s with
  | case1 => simp [failOn] at h
  | case2 =>
    rename_i ht
    have := length_lt_of_skipBlanks ht
    simp only [Except.ok.injEq, Prod.mk.injEq] at h
    rw [← h.2]
    exact this
  | case3 => simp [failOn] at h
  | case4 => simp at h
  | case5 =>
    rename_i hv ht _ hu ih
    have := length_lt_of_skipBlanks ht
    have := length_lt_of_skipBlanks hu
    have := length_lt_of_member hv
    have := ih h
    omega
  | case6 => simp [failOn] at h
  | case7 => simp [failOn] at h
  | case8 => simp [failOn] at h

theorem length_lt_of_fieldsItems {σ : Type} {rule : MemberRule σ} {st st' : σ}
    {s r : List UInt8} (h : fieldsItems rule st s = .ok (st', r)) : r.length < s.length := by
  unfold fieldsItems at h
  split at h
  · simp [failOn] at h
  · rename_i c t ht
    have := length_lt_of_skipBlanks ht
    split at h
    · simp only [Except.ok.injEq, Prod.mk.injEq] at h
      rw [← h.2]
      exact this
    · split at h
      · split at h
        · simp at h
        · rename_i st'' u hu
          have := length_lt_of_member hu
          have := length_lt_of_fieldsTail h
          omega
      · simp [failOn] at h

theorem length_lt_of_fields {σ : Type} {rule : MemberRule σ} {st st' : σ} {s r : List UInt8}
    (h : fields rule st s = .ok (st', r)) : r.length < s.length :=
  length_lt_of_fieldsItems (eq_ok_of_closing h)

/-- Keeps each member with its value.  The last one read stands first. -/
def keep (value : Reader Json) : MemberRule (List (String × Json)) where
  run done name s :=
    match colon s with
    | .error e => .error e
    | .ok (_, r) =>
      match value.run r with
      | .error e => .error e
      | .ok (v, r') => .ok ((name, v) :: done, r')
  shrinks := by
    intro st st' name s r h
    split at h
    · simp at h
    · rename_i u t ht
      have := length_lt_of_colon ht
      split at h
      · simp at h
      · rename_i v w hw
        have := value.shrinks hw
        simp only [Except.ok.injEq, Prod.mk.injEq] at h
        rw [← h.2]
        omega

end Switchboard.Json
