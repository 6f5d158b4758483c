import Switchboard.Decimal.Binary
import Switchboard.Json.Basic
import Switchboard.Json.Reader.Basic
import Switchboard.Limit

/-! # Reading numbers

A whole number of 64 bits is kept exactly; any other number is a decimal, which has to be
in the range of binary fractions of 64 bits.

* `Json.unsigned` — a number after its sign;
* `Json.readNumber` — a number. -/

namespace Switchboard.Json

open Switchboard.Bytes (ascii)

/-! ## Digits -/

def isDigit (c : UInt8) : Bool := ascii '0' ≤ c ∧ c ≤ ascii '9'

def digitValue (c : UInt8) : Nat := c.toNat - 48

/-- Takes digits into a significand as long as it stays within 64 bits: the
significand, how many digits it took, and how many it left. -/
def absorb (n : Nat) : List UInt8 → Nat × Nat × Nat
  | [] => (n, 0, 0)
  | d :: ds =>
    let m := n * 10 + digitValue d
    if m < Limit.bits64 then
      let (v, taken, left) := absorb m ds
      (v, taken + 1, left)
    else (n, 0, ds.length + 1)

/-- The digits of an exponent as long as it stays within 31 bits: the exponent
and the text after it, or else the text after the digit that was too much. -/
def exponentDigits (n : Nat) : List UInt8 → Except (List UInt8) (Nat × List UInt8)
  | [] => .ok (n, [])
  | c :: s =>
    if isDigit c then
      let m := n * 10 + digitValue c
      if m < Limit.bits31 then exponentDigits m s else .error s
    else .ok (n, c :: s)

/-! ## Parts of a number -/

/-- A decimal that has been read to its end, if it is in range. -/
def decimal (negative : Bool) (significand : Nat) (exponent : Int) (rest : List UInt8) :
    Outcome Number :=
  if Decimal.overflows significand exponent then failAt .numberOutOfRange rest
  else .ok (.decimal ⟨negative, significand, exponent⟩, rest)

/-- The sign in front of an exponent; the sign may be left out. -/
def exponentSign : List UInt8 → Bool × List UInt8
  | [] => (false, [])
  | c :: s =>
    if c = ascii '-' then (true, s) else if c = ascii '+' then (false, s) else (false, c :: s)

def isExponentMark (c : UInt8) : Bool := c = ascii 'e' ∨ c = ascii 'E'

/-- The exponent of a number, read after its `e`.  An exponent beyond 31 bits
makes the number zero or takes it out of range. -/
def exponentPart (negative : Bool) (significand : Nat) (exponent : Int) (s : List UInt8) :
    Outcome Number :=
  let (down, t) := exponentSign s
  match t with
  | [] => failAt .eofInValue []
  | c :: u =>
    if isDigit c then
      match exponentDigits 0 (c :: u) with
      | .ok (n, r) =>
        decimal negative significand (if down then exponent - n else exponent + n) r
      | .error r =>
        -- too great an exponent leaves zero as it is, too small a one makes zero of anything
        if significand ≠ 0 ∧ down = false then failAt .numberOutOfRange r
        else .ok (.decimal ⟨negative, 0, 0⟩, r.dropWhile isDigit)
    else failAt .invalidNumber u

/-- A number of which everything has been read but the exponent, if it has one. -/
def decimalTail (negative : Bool) (significand : Nat) (exponent : Int) (s : List UInt8) :
    Outcome Number :=
  match s with
  | [] => decimal negative significand exponent []
  | c :: r =>
    if isExponentMark c then exponentPart negative significand exponent r
    else decimal negative significand exponent (c :: r)

/-- The fraction of a number, read after its point. -/
def fractionPart (negative : Bool) (significand : Nat) (exponent : Int) (s : List UInt8) :
    Outcome Number :=
  let digits := s.takeWhile isDigit
  let rest := s.dropWhile isDigit
  if digits.isEmpty then
    if rest.isEmpty then failOn .eofInValue [] else failOn .invalidNumber rest
  else
    -- digits that do not fit any more are read, and lost
    let (v, taken, _) := absorb significand digits
    decimalTail negative v (exponent - taken) rest

/-- A number without point and exponent.  Beyond 64 bits it is kept as a decimal,
and so is minus zero. -/
def wholeNumber (negative : Bool) (significand : Nat) (left : Nat) (rest : List UInt8) :
    Outcome Number :=
  if left ≠ 0 then decimal negative significand left rest
  else if negative = false then .ok (.whole significand, rest)
  else if significand ≠ 0 ∧ significand ≤ Limit.bits63 then .ok (.whole (-significand), rest)
  else .ok (.decimal ⟨true, significand, 0⟩, rest)

def afterWhole (negative : Bool) (significand : Nat) (left : Nat) (s : List UInt8) :
    Outcome Number :=
  match s with
  | [] => wholeNumber negative significand left []
  | c :: r =>
    if c = ascii '.' then fractionPart negative significand left r
    else if isExponentMark c then exponentPart negative significand left r
    else wholeNumber negative significand left (c :: r)

/-- A number after its sign.  A leading zero stands alone. -/
def unsigned (negative : Bool) : List UInt8 → Outcome Number
  | [] => failAt .eofInValue []
  | c :: s =>
    if c = ascii '0' then
      if s.head?.any isDigit then failOn .invalidNumber s else afterWhole negative 0 0 s
    else if isDigit c then
      -- the digits left out are made up for by the power of ten
      let (v, _, left) := absorb 0 (c :: s.takeWhile isDigit)
      afterWhole negative v left (s.dropWhile isDigit)
    else failAt .invalidNumber s

def readNumber : List UInt8 → Outcome Number
  | [] => failAt .eofInValue []
  | c :: s => if c = ascii '-' then unsigned true s else unsigned false (c :: s)

/-! ## Numbers shorten the text -/

theorem rest_of_decimal {negative : Bool} {v : Nat} {e : Int} {rest r : List UInt8} {n : Number}
    (h : decimal negative v e rest = .ok (n, r)) : r = rest := by
  unfold decimal at h
  split at h
  · simp [failAt] at h
  · simp only [Except.ok.injEq, Prod.mk.injEq] at h
    exact h.2.symm

theorem length_exponentDigits {n : Nat} {s : List UInt8} :
    (∀ m r, exponentDigits n s = .ok (m, r) → r.length ≤ s.length) ∧
      (∀ r, exponentDigits n s = .error r → r.length ≤ s.length) := by
  fun_induction exponentDigits n s with
  | case1 => simp
  | case2 _ _ _ _ _ _ ih =>
    exact ⟨fun m r h => by have := ih.1 m r h; simp; omega,
      fun r h => by have := ih.2 r h; simp; omega⟩
  | case3 => simp
  | case4 => simp

theorem length_exponentSign_le (s : List UInt8) : (exponentSign s).2.length ≤ s.length := by
  unfold exponentSign
  split
  · simp
  · split
    · simp
    · split <;> simp

theorem length_le_of_exponentPart {negative : Bool} {v : Nat} {e : Int} {s r : List UInt8}
    {n : Number} (h : exponentPart negative v e s = .ok (n, r)) : r.length ≤ s.length := by
  have hsign := length_exponentSign_le s
  unfold exponentPart at h
  generalize exponentSign s = p at h hsign
  obtain ⟨down, t⟩ := p
  simp only at h hsign
  split at h
  · simp [failAt] at h
  · split at h
    · split at h
      · rename_i m u hu
        have := length_exponentDigits.1 m u hu
        rw [rest_of_decimal h]
        omega
      · rename_i u hu
        have := length_exponentDigits.2 u hu
        split at h
        · simp [failAt] at h
        · simp only [Except.ok.injEq, Prod.mk.injEq] at h
          have := length_dropWhile_le isDigit u
          rw [← h.2]
          omega
    · simp [failAt] at h

theorem length_le_of_decimalTail {negative : Bool} {v : Nat} {e : Int} {s r : List UInt8}
    {n : Number} (h : decimalTail negative v e s = .ok (n, r)) : r.length ≤ s.length := by
  unfold decimalTail at h
  split at h
  · exact Nat.le_of_eq (congrArg List.length (rest_of_decimal h))
  · split at h
    · have := length_le_of_exponentPart h
      simp only [List.length_cons]
      omega
    · exact Nat.le_of_eq (congrArg List.length (rest_of_decimal h))

theorem length_le_of_fractionPart {negative : Bool} {v : Nat} {e : Int} {s r : List UInt8}
    {n : Number} (h : fractionPart negative v e s = .ok (n, r)) : r.length ≤ s.length := by
  have hdrop := length_dropWhile_le isDigit s
  unfold fractionPart at h
  generalize s.dropWhile isDigit = t at h hdrop
  simp only at h
  split at h
  · split at h <;> simp [failOn] at h
  · have := length_le_of_decimalTail h
    omega

theorem length_le_of_wholeNumber {negative : Bool} {v left : Nat} {s r : List UInt8}
    {n : Number} (h : wholeNumber negative v left s = .ok (n, r)) : r.length ≤ s.length := by
  unfold wholeNumber at h
  split at h
  · exact Nat.le_of_eq (congrArg List.length (rest_of_decimal h))
  · split at h
    · simp only [Except.ok.injEq, Prod.mk.injEq] at h
      exact Nat.le_of_eq (congrArg List.length h.2.symm)
    · split at h <;>
      · simp only [Except.ok.injEq, Prod.mk.injEq] at h
        exact Nat.le_of_eq (congrArg List.length h.2.symm)

theorem length_le_of_afterWhole {negative : Bool} {v left : Nat} {s r : List UInt8}
    {n : Number} (h : afterWhole negative v left s = .ok (n, r)) : r.length ≤ s.length := by
  unfold afterWhole at h
  split at h
  · exact length_le_of_wholeNumber h
  · split at h
    · have := length_le_of_fractionPart h
      simp only [List.length_cons]
      omega
    · split at h
      · have := length_le_of_exponentPart h
        simp only [List.length_cons]
        omega
      · exact length_le_of_wholeNumber h

theorem length_lt_of_unsigned {negative : Bool} {s r : List UInt8} {n : Number}
    (h : unsigned negative s = .ok (n, r)) : r.length < s.length := by
  unfold unsigned at h
  split at h
  · simp [failAt] at h
  · rename_i c t
    simp only [List.length_cons]
    split at h
    · split at h
      · simp [failOn] at h
      · have := length_le_of_afterWhole h
        omega
    · split at h
      · have := length_le_of_afterWhole h
        have := length_dropWhile_le isDigit t
        omega
      · simp [failAt] at h

theorem length_lt_of_readNumber {s r : List UInt8} {n : Number} (h : readNumber s = .ok (n, r)) :
    r.length < s.length := by
  unfold readNumber at h
  split at h
  · simp [failAt] at h
  · split at h
    · have := length_lt_of_unsigned h
      simp only [List.length_cons]
      omega
    · exact length_lt_of_unsigned h

end Switchboard.Json
