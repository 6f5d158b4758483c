import Switchboard.Json.Reader.Numbers
import Switchboard.Json.Reader.Objects

/-! # Passing over values

A value that nobody asked for is passed over.  Its brackets have to match, and its
strings and numbers have to be well formed; but a number may be of any size, an escape
may write half of a pair, and any number of brackets may be open.

* `Json.passString`, `Json.passNumber` — passing over a string and a number;
* `Json.pass` — passing over a value;
* `Json.MemberRule.only` — a rule for some members, all others being passed over. -/

namespace Switchboard.Json

open Switchboard.Bytes (ascii)

/-! ## Strings -/

/-- Passes over what a backslash stands for. -/
def passEscape : List UInt8 → Outcome Unit
  | [] => failAt .eofInString []
  | c :: s =>
    if c = ascii 'u' then (hexUnit s).map fun (_, r) => ((), r)
    else if (shortEscape c).isSome then .ok ((), s)
    else failAt .invalidEscape s

theorem length_lt_of_passEscape {s r : List UInt8} {u : Unit} (h : passEscape s = .ok (u, r)) :
    r.length < s.length := by
  unfold passEscape at h
  split at h
  · simp [failAt] at h
  · rename_i c t
    simp only [List.length_cons]
    split at h
    · cases hu : hexUnit t with
      | error e => simp [hu, Except.map] at h
      | ok a =>
        have := length_le_of_hexUnit hu
        simp only [hu, Except.map, Except.ok.injEq, Prod.mk.injEq] at h
        rw [← h.2]
        omega
    · split at h
      · simp only [Except.ok.injEq, Prod.mk.injEq] at h
        rw [← h.2]
        omega
      · simp [failAt] at h

/-- Passes over the rest of a string after its opening quote. -/
def passString (s : List UInt8) : Outcome Unit :=
  match s with
  | [] => failAt .eofInString []
  | c :: t =>
    if c = ascii '"' then .ok ((), t)
    else if c = ascii '\\' then
      match _h : passEscape t with
      | .error e => .error e
      | .ok (_, r) => passString r
    else if c.toNat < 0x20 then failAt .controlCharacter t
    else passString t
termination_by s.length
decreasing_by
  · have := length_lt_of_passEscape _h
    simp only [List.length_cons]
    omega
  · simp

theorem length_lt_of_passString {s r : List UInt8} {u : Unit} (h : passString s = .ok (u, r)) :
    r.length < s.length := by
  fun_induction passString s with
  | case1 => simp [failAt] at h
  | case2 =>
    simp only [Except.ok.injEq, Prod.mk.injEq] at h
    rw [← h.2]
    simp
  | case3 => simp at h
  | case4 =>
    rename_i hu _ ih
    have := length_lt_of_passEscape hu
    have := ih h
    simp only [List.length_cons]
    omega
  | case5 => simp [failAt] at h
  | case6 =>
    rename_i ih
    have := ih h
    simp only [List.length_cons]
    omega

/-! ## Numbers -/

def passDigits : List UInt8 → Outcome Unit
  | [] => failAt .invalidNumber []
  | c :: s =>
    if isDigit c then .ok ((), s.dropWhile isDigit) else failOn .invalidNumber (c :: s)

def passExponent : List UInt8 → Outcome Unit
  | [] => .ok ((), [])
  | c :: s => if isExponentMark c then passDigits (exponentSign s).2 else .ok ((), c :: s)

/-- Passes over the digits after a point and the exponent. -/
def passFraction (s : List UInt8) : Outcome Unit :=
  if s.isEmpty then failOn .invalidNumber []
  else
    match passDigits s with
    | .error e => .error e
    | .ok (_, r) => passExponent r

/-- Passes over what follows the digits before the point. -/
def passDecimals : List UInt8 → Outcome Unit
  | [] => .ok ((), [])
  | c :: s => if c = ascii '.' then passFraction s else passExponent (c :: s)

/-- Passes over a number without its sign.  A leading zero stands alone. -/
def passNumber : List UInt8 → Outcome Unit
  | [] => failAt .invalidNumber []
  | c :: s =>
    if c = ascii '0' then
      if s.head?.any isDigit then failOn .invalidNumber s else passDecimals s
    else
      match passDigits (c :: s) with
      | .error e => .error e
      | .ok (_, r) => passDecimals r

theorem length_lt_of_passDigits {s r : List UInt8} {u : Unit} (h : passDigits s = .ok (u, r)) :
    r.length < s.length := by
  unfold passDigits at h
  split at h
  · simp [failAt] at h
  · rename_i c t
    split at h
    · have := length_dropWhile_le isDigit t
      simp only [Except.ok.injEq, Prod.mk.injEq] at h
      rw [← h.2]
      simp only [List.length_cons]
      omega
    · simp [failOn] at h

theorem length_le_of_passExponent {s r : List UInt8} {u : Unit}
    (h : passExponent s = .ok (u, r)) : r.length ≤ s.length := by
  unfold passExponent at h
  split at h
  · simp only [Except.ok.injEq, Prod.mk.injEq] at h
    exact Nat.le_of_eq (congrArg List.length h.2.symm)
  · rename_i c t
    split at h
    · have := length_lt_of_passDigits h
      have := length_exponentSign_le t
      simp only [List.length_cons]
      omega
    · simp only [Except.ok.injEq, Prod.mk.injEq] at h
      exact Nat.le_of_eq (congrArg List.length h.2.symm)

theorem length_le_of_passFraction {s r : List UInt8} {u : Unit}
    (h : passFraction s = .ok (u, r)) : r.length ≤ s.length := by
  unfold passFraction at h
  split at h
  · simp [failOn] at h
  · split at h
    · simp at h
    · rename_i v t ht
      have := length_lt_of_passDigits ht
      have := length_le_of_passExponent h
      omega

theorem length_le_of_passDecimals {s r : List UInt8} {u : Unit}
    (h : passDecimals s = .ok (u, r)) : r.length ≤ s.length := by
  unfold passDecimals at h
  split at h
  · simp only [Except.ok.injEq, Prod.mk.injEq] at h
    exact Nat.le_of_eq (congrArg List.length h.2.symm)
  · split at h
    · have := length_le_of_passFraction h
      simp only [List.length_cons]
      omega
    · exact length_le_of_passExponent h

theorem length_lt_of_passNumber {s r : List UInt8} {u : Unit} (h : passNumber s = .ok (u, r)) :
    r.length < s.length := by
  unfold passNumber at h
  split at h
  · simp [failAt] at h
  · split at h
    · split at h
      · simp [failOn] at h
      · have := length_le_of_passDecimals h
        simp only [List.length_cons]
        omega
    · split at h
      · simp at h
      · rename_i v t ht
        have := length_lt_of_passDigits ht
        have := length_le_of_passDecimals h
        omega

/-! ## Values -/

/-- Passes over a word, a string or a number that begins with `c`. -/
def passScalar (c : UInt8) (s : List UInt8) : Outcome Unit :=
  if c = ascii 'n' then word ['u', 'l', 'l'] s
  else if c = ascii 't' then word ['r', 'u', 'e'] s
  else if c = ascii 'f' then word ['a', 'l', 's', 'e'] s
  else if c = ascii '"' then passString s
  else if c = ascii '-' then passNumber s
  else if isDigit c then passNumber (c :: s)
  else failOn .expectedValue (c :: s)

theorem length_le_of_passScalar {c : UInt8} {s r : List UInt8} {u : Unit}
    (h : passScalar c s = .ok (u, r)) : r.length ≤ s.length := by
  unfold passScalar at h
  split at h
  · exact length_le_of_word h
  split at h
  · exact length_le_of_word h
  split at h
  · exact length_le_of_word h
  split at h
  · exact Nat.le_of_lt (length_lt_of_passString h)
  split at h
  · exact Nat.le_of_lt (length_lt_of_passNumber h)
  split at h
  · have := length_lt_of_passNumber h
    simp only [List.length_cons] at this
    omega
  · simp [failOn] at h

inductive Bracket where
  | square
  | curly
deriving DecidableEq, Repr

/-- The bracket that a character opens. -/
def Bracket.ofOpening (c : UInt8) : Option Bracket :=
  if c = ascii '[' then some square else if c = ascii '{' then some curly else none

def Bracket.closing : Bracket → UInt8
  | square => ascii ']'
  | curly => ascii '}'

/-- The fault of a text that ends inside a bracket. -/
def Bracket.unclosed : Bracket → Fault
  | square => .eofInList
  | curly => .eofInObject

/-- The fault of two values inside a bracket with nothing between them. -/
def Bracket.unseparated : Bracket → Fault
  | square => .expectedListCommaOrEnd
  | curly => .expectedObjectCommaOrEnd

/-- Passes over what stands in front of a value inside a bracket: in an object its name. -/
def Bracket.passLabel (b : Bracket) (s : List UInt8) : Outcome Unit :=
  match b with
  | square => .ok ((), s)
  | curly =>
    match skipBlanks s with
    | [] => failOn .eofInObject []
    | c :: t =>
      if c = ascii '"' then
        match passString t with
        | .error e => .error e
        | .ok (_, r) => colon r
      else failOn .keyMustBeString (c :: t)

theorem Bracket.length_le_of_passLabel {b : Bracket} {s r : List UInt8} {u : Unit}
    (h : b.passLabel s = .ok (u, r)) : r.length ≤ s.length := by
  unfold passLabel at h
  split at h
  · simp only [Except.ok.injEq, Prod.mk.injEq] at h
    exact Nat.le_of_eq (congrArg List.length h.2.symm)
  · split at h
    · simp [failOn] at h
    · rename_i c t ht
      have := length_lt_of_skipBlanks ht
      split at h
      · split at h
        · simp at h
        · rename_i v w hw
          have := length_lt_of_passString hw
          have := length_lt_of_colon h
          omega
      · simp [failOn] at h

/-- Whether a value is still to come, or has just ended. -/
inductive Spot where
  | before
  | behind
deriving DecidableEq, Repr

/-- Passes over a value and all that is left inside the brackets that are open, the
innermost first. -/
def passInside (spot : Spot) (brackets : List Bracket) (s : List UInt8) : Outcome Unit :=
  match spot, brackets with
  | .before, brackets =>
    match _h : skipBlanks s with
    | [] => failOn .eofInValue []
    | c :: t =>
      match Bracket.ofOpening c with
      | none =>
        match _h' : passScalar c t with
        | .error e => .error e
        | .ok (_, r) => passInside .behind brackets r
      | some b =>
        match _h' : skipBlanks t with
        | [] => failOn b.unclosed []
        | d :: u =>
          if d = b.closing then passInside .behind brackets u
          else
            match _h'' : b.passLabel (d :: u) with
            | .error e => .error e
            | .ok (_, r) => passInside .before (b :: brackets) r
  | .behind, [] => .ok ((), s)
  | .behind, b :: brackets =>
    match _h : skipBlanks s with
    | [] => failOn b.unclosed []
    | c :: t =>
      if c = b.closing then passInside .behind brackets t
      else if c = ascii ',' then
        match _h' : b.passLabel t with
        | .error e => .error e
        | .ok (_, r) => passInside .before (b :: brackets) r
      else failOn b.unseparated (c :: t)
termination_by 2 * s.length + (if spot = .behind then 1 else 0)
decreasing_by
  · have := length_lt_of_skipBlanks _h
    have := length_le_of_passScalar _h'
    simp
    omega
  · have := length_lt_of_skipBlanks _h
    have := length_lt_of_skipBlanks _h'
    simp
    omega
  · have := length_lt_of_skipBlanks _h
    have := length_lt_of_skipBlanks _h'
    have := Bracket.length_le_of_passLabel _h''
    simp only [List.length_cons] at this
    simp
    omega
  · have := length_lt_of_skipBlanks _h
    simp
    omega
  · have := length_lt_of_skipBlanks _h
    have := Bracket.length_le_of_passLabel _h'
    simp
    omega

theorem length_of_passInside {spot : Spot} {brackets : List Bracket} {s r : List UInt8} {u : Unit}
    (h : passInside spot brackets s = .ok (u, r)) :
    r.length + (if spot = .before then 1 else 0) ≤ s.length := by
  fun_induction passInside spot brackets s with
  | case1 => simp [failOn] at h
  | case2 => simp at h
  | case3 =>
    rename_i ht _ _ _ hu ih
    have := length_lt_of_skipBlanks ht
    have := length_le_of_passScalar hu
    have := ih h
    simp at *
    omega
  | case4 => simp [failOn] at h
  | case5 =>
    rename_i ht b hb u hu ih
    have := length_lt_of_skipBlanks ht
    have := length_lt_of_skipBlanks hu
    have := ih h
    simp at *
    omega
  | case6 => simp at h
  | case7 =>
    rename_i ht b hb d u hu _ _ _ hv ih
    have := length_lt_of_skipBlanks ht
    have := length_lt_of_skipBlanks hu
    have := Bracket.length_le_of_passLabel hv
    have := ih h
    simp at *
    omega
  | case8 =>
    simp only [Except.ok.injEq, Prod.mk.injEq] at h
    rw [← h.2]
    simp
  | case9 => simp [failOn] at h
  | case10 =>
    rename_i ht ih
    have := length_lt_of_skipBlanks ht
    have := ih h
    simp at *
    omega
  | case11 => simp at h
  | case12 =>
    rename_i hu ht _ ih
    have := length_lt_of_skipBlanks ht
    have := Bracket.length_le_of_passLabel hu
    have := ih h
    simp at *
    omega
  | case13 => simp [failOn] at h

theorem length_lt_of_passInside {s r : List UInt8} {u : Unit}
    (h : passInside .before [] s = .ok (u, r)) : r.length < s.length := by
  have := length_of_passInside h
  simp at this
  omega

def pass : Reader Unit := ⟨passInside .before [], length_lt_of_passInside⟩

/-! ## Members -/

/-- A rule for the members with some names, all others being passed over. -/
def MemberRule.only {σ : Type} (names : List String) (rule : MemberRule σ) : MemberRule σ where
  run st name s :=
    if name ∈ names then rule.run st name s
    else
      match colon s with
      | .error e => .error e
      | .ok (_, r) =>
        match pass.run r with
        | .error e => .error e
        | .ok (_, r') => .ok (st, r')
  shrinks := by
    intro st st' name s r h
    split at h
    · exact rule.shrinks h
    · split at h
      · simp at h
      · rename_i u t ht
        have := length_lt_of_colon ht
        split at h
        · simp at h
        · rename_i v w hw
          have := pass.shrinks hw
          simp only [Except.ok.injEq, Prod.mk.injEq] at h
          rw [← h.2]
          omega

end Switchboard.Json
