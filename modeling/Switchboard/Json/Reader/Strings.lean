import Switchboard.Hex
import Switchboard.Json.Reader.Basic

/-! # Reading strings

* `Json.escaped` — what a backslash stands for: a letter, or the code of a character in
  one unit of 16 bits or in a pair of them;
* `Json.stringBody` — a string up to its closing quote. -/

namespace Switchboard.Json

open Switchboard.Bytes (ascii)

/-! ## Escapes -/

def hexValue (c : UInt8) : Option Nat := Hex.digitValue (Char.ofNat c.toNat)

def fourDigits (a b c d : UInt8) : Option Nat := do
  let a ← hexValue a
  let b ← hexValue b
  let c ← hexValue c
  let d ← hexValue d
  return ((a * 16 + b) * 16 + c) * 16 + d

/-- The four hexadecimal digits after `\u`.  Four bytes are taken in any case:
fewer than that is the end of the text, and other bytes are no escape. -/
def hexUnit : List UInt8 → Outcome Nat
  | a :: b :: c :: d :: s =>
    match fourDigits a b c d with
    | some n => .ok (n, s)
    | none => failAt .invalidEscape s
  | _ => failAt .eofInString []

/-- The first units of pairs that write one character beyond 16 bits. -/
def isLeading (n : Nat) : Bool := 0xD800 ≤ n ∧ n ≤ 0xDBFF

/-- The second units of such pairs. -/
def isTrailing (n : Nat) : Bool := 0xDC00 ≤ n ∧ n ≤ 0xDFFF

/-- The second unit of a pair, read after its `\u`. -/
def secondUnit (first : Nat) (s : List UInt8) : Outcome Char :=
  match hexUnit s with
  | .error e => .error e
  | .ok (n, r) =>
    if isTrailing n then
      .ok (Char.ofNat (0x10000 + (first - 0xD800) * 0x400 + (n - 0xDC00)), r)
    else failAt .loneSurrogate r

/-- The second unit of a pair, which has to be there: `\u` and four digits. -/
def pairAfter (first : Nat) : List UInt8 → Outcome Char
  | [] => failAt .eofInString []
  | c :: s =>
    if c = ascii '\\' then
      match s with
      | [] => failAt .eofInString []
      | d :: t => if d = ascii 'u' then secondUnit first t else failAt .unfinishedSurrogate t
    else failAt .unfinishedSurrogate s

/-- What `\u` stands for: one unit, or a pair of them. -/
def unicodeEscape (s : List UInt8) : Outcome Char :=
  match hexUnit s with
  | .error e => .error e
  | .ok (n, r) =>
    -- the second unit of a pair may not come first
    if isTrailing n then failAt .loneSurrogate r
    else if isLeading n then pairAfter n r
    else .ok (Char.ofNat n, r)

def shortEscape (c : UInt8) : Option Char :=
  if c = ascii '"' then some '"'
  else if c = ascii '\\' then some '\\'
  else if c = ascii '/' then some '/'
  else if c = ascii 'b' then some '\x08'
  else if c = ascii 'f' then some '\x0c'
  else if c = ascii 'n' then some '\n'
  else if c = ascii 'r' then some '\r'
  else if c = ascii 't' then some '\t'
  else none

/-- What a backslash stands for, read after it. -/
def escaped : List UInt8 → Outcome Char
  | [] => failAt .eofInString []
  | c :: s =>
    if c = ascii 'u' then unicodeEscape s
    else
      match shortEscape c with
      | some d => .ok (d, s)
      | none => failAt .invalidEscape s

/-! ## Strings shorten the text -/

theorem length_le_of_hexUnit {s r : List UInt8} {n : Nat} (h : hexUnit s = .ok (n, r)) :
    r.length ≤ s.length := by
  unfold hexUnit at h
  split at h
  · split at h
    · simp only [Except.ok.injEq, Prod.mk.injEq] at h
      rw [← h.2]
      simp only [List.length_cons]
      omega
    · simp [failAt] at h
  · simp [failAt] at h

theorem length_le_of_secondUnit {first : Nat} {s r : List UInt8} {c : Char}
    (h : secondUnit first s = .ok (c, r)) : r.length ≤ s.length := by
  unfold secondUnit at h
  split at h
  · simp at h
  · rename_i n t hu
    have := length_le_of_hexUnit hu
    split at h
    · simp only [Except.ok.injEq, Prod.mk.injEq] at h
      rw [← h.2]
      exact this
    · simp [failAt] at h

theorem length_le_of_pairAfter {first : Nat} {s r : List UInt8} {c : Char}
    (h : pairAfter first s = .ok (c, r)) : r.length ≤ s.length := by
  unfold pairAfter at h
  split at h
  · simp [failAt] at h
  · split at h
    · split at h
      · simp [failAt] at h
      · split at h
        · have := length_le_of_secondUnit h
          simp only [List.length_cons]
          omega
        · simp [failAt] at h
    · simp [failAt] at h

theorem length_le_of_unicodeEscape {s r : List UInt8} {c : Char}
    (h : unicodeEscape s = .ok (c, r)) : r.length ≤ s.length := by
  unfold unicodeEscape at h
  split at h
  · simp at h
  · rename_i n t hu
    have := length_le_of_hexUnit hu
    split at h
    · simp [failAt] at h
    · split at h
      · have := length_le_of_pairAfter h
        omega
      · simp only [Except.ok.injEq, Prod.mk.injEq] at h
        rw [← h.2]
        exact this

theorem length_lt_of_escaped {s r : List UInt8} {c : Char} (h : escaped s = .ok (c, r)) :
    r.length < s.length := by
  unfold escaped at h
  split at h
  · simp [failAt] at h
  · simp only [List.length_cons]
    split at h
    · have := length_le_of_unicodeEscape h
      omega
    · split at h
      · simp only [Except.ok.injEq, Prod.mk.injEq] at h
        rw [← h.2]
        omega
      · simp [failAt] at h

/-! ## Whole strings -/

/-- The text of a string, of which `done` holds the bytes, the last one first; what is
behind its closing quote is left. -/
def textOf (done rest : List UInt8) : Outcome String :=
  match Bytes.text? done.reverse with
  | some a => .ok (a, rest)
  | none => failAt .invalidUnicode rest

theorem eq_of_textOf {done rest r : List UInt8} {a : String}
    (h : textOf done rest = .ok (a, r)) : r = rest := by
  unfold textOf at h
  split at h
  · simp only [Except.ok.injEq, Prod.mk.injEq] at h
    exact h.2.symm
  · simp [failAt] at h

/-- The rest of a string after its opening quote.  `done` holds the bytes read so far,
the last one first.  Whether they are a text shows at the closing quote. -/
def stringBody (done : List UInt8) (s : List UInt8) : Outcome String :=
  match s with
  | [] => failAt .eofInString []
  | c :: t =>
    if c = ascii '"' then textOf done t
    else if c = ascii '\\' then
      match _h : escaped t with
      | .error e => .error e
      | .ok (d, r) => stringBody ((String.utf8EncodeChar d).reverse ++ done) r
    else if c.toNat < 0x20 then failAt .controlCharacter t
    else stringBody (c :: done) t
termination_by s.length
decreasing_by
  · have := length_lt_of_escaped _h
    simp only [List.length_cons]
    omega
  · simp

theorem length_lt_of_stringBody {done s r : List UInt8} {a : String}
    (h : stringBody done s = .ok (a, r)) : r.length < s.length := by
  fun_induction stringBody done s with
  | case1 => simp [failAt] at h
  | case2 =>
    rw [eq_of_textOf h]
    simp
  | case3 => simp at h
  | case4 =>
    rename_i hu _ ih
    have := length_lt_of_escaped hu
    have := ih h
    simp only [List.length_cons]
    omega
  | case5 => simp [failAt] at h
  | case6 =>
    rename_i ih
    have := ih h
    simp only [List.length_cons]
    omega

end Switchboard.Json
