import Switchboard.Json.Reader.Arrays
import Switchboard.Json.Reader.Numbers
import Switchboard.Json.Reader.Objects
import Switchboard.Json.Reader.Passing

/-! # Reading JSON text

* `Json.value` — a value that may open so many more arrays and objects;
* `Json.readAll` — a reader over a whole text;
* `Json.parse` — a whole text as one value;
* `Json.parseOnly` — the value of bytes, an object being read for some of its members only. -/

namespace Switchboard.Json

open Switchboard.Bytes (ascii)

/-! ## Values -/

/-- An array or an object, if one may still be opened. -/
def container (inner : Option (Reader Json)) (c : UInt8) (s : List UInt8) : Outcome Json :=
  match inner with
  | none => failOn .nestedTooDeep (c :: s)
  | some value =>
    if c = ascii '[' then
      match list value s with
      | .error e => .error e
      | .ok (items, r) => .ok (.array items, r)
    else
      match fields (keep value) [] s with
      | .error e => .error e
      | .ok (members, r) => .ok (.object members.reverse, r)

/-- A value that starts with `c`, read after it. -/
def valueFrom (inner : Option (Reader Json)) (c : UInt8) (s : List UInt8) : Outcome Json :=
  if c = ascii 'n' then
    match word ['u', 'l', 'l'] s with
    | .error e => .error e
    | .ok (_, r) => .ok (.null, r)
  else if c = ascii 't' then
    match word ['r', 'u', 'e'] s with
    | .error e => .error e
    | .ok (_, r) => .ok (.bool true, r)
  else if c = ascii 'f' then
    match word ['a', 'l', 's', 'e'] s with
    | .error e => .error e
    | .ok (_, r) => .ok (.bool false, r)
  else if c = ascii '"' then
    match stringBody [] s with
    | .error e => .error e
    | .ok (a, r) => .ok (.string a, r)
  else if c = ascii '-' ∨ isDigit c then
    match readNumber (c :: s) with
    | .error e => .error e
    | .ok (n, r) => .ok (.number n, r)
  else if c = ascii '[' ∨ c = ascii '{' then container inner c s
  else failOn .expectedValue (c :: s)

/-- A value after any blanks, its arrays and objects holding what `inner` reads. -/
def valueOf (inner : Option (Reader Json)) (s : List UInt8) : Outcome Json :=
  match skipBlanks s with
  | [] => failOn .eofInValue []
  | c :: t => valueFrom inner c t

theorem length_le_of_container {inner : Option (Reader Json)} {c : UInt8} {s r : List UInt8}
    {v : Json} (h : container inner c s = .ok (v, r)) : r.length ≤ s.length := by
  unfold container at h
  split at h
  · simp [failOn] at h
  · split at h
    · split at h
      · simp at h
      · rename_i items t ht
        have := length_lt_of_list ht
        simp only [Except.ok.injEq, Prod.mk.injEq] at h
        rw [← h.2]
        omega
    · split at h
      · simp at h
      · rename_i members t ht
        have := length_lt_of_fields ht
        simp only [Except.ok.injEq, Prod.mk.injEq] at h
        rw [← h.2]
        omega

theorem length_le_of_valueFrom {inner : Option (Reader Json)} {c : UInt8} {s r : List UInt8}
    {v : Json} (h : valueFrom inner c s = .ok (v, r)) : r.length ≤ s.length := by
  have done {a : Json} {t : List UInt8} (ht : t.length ≤ s.length)
      (h : (Except.ok (a, t) : Outcome Json) = .ok (v, r)) : r.length ≤ s.length := by
    simp only [Except.ok.injEq, Prod.mk.injEq] at h
    rw [← h.2]
    exact ht
  unfold valueFrom at h
  split at h
  · split at h
    · simp at h
    · rename_i hw
      exact done (length_le_of_word hw) h
  split at h
  · split at h
    · simp at h
    · rename_i hw
      exact done (length_le_of_word hw) h
  split at h
  · split at h
    · simp at h
    · rename_i hw
      exact done (length_le_of_word hw) h
  split at h
  · split at h
    · simp at h
    · rename_i hw
      exact done (Nat.le_of_lt (length_lt_of_stringBody hw)) h
  split at h
  · split at h
    · simp at h
    · rename_i hw
      have := length_lt_of_readNumber hw
      simp only [List.length_cons] at this
      exact done (by omega) h
  split at h
  · exact length_le_of_container h
  · simp [failOn] at h

theorem length_lt_of_valueOf {inner : Option (Reader Json)} {s r : List UInt8} {v : Json}
    (h : valueOf inner s = .ok (v, r)) : r.length < s.length := by
  unfold valueOf at h
  split at h
  · simp [failOn] at h
  · rename_i c t ht
    have := length_lt_of_skipBlanks ht
    have := length_le_of_valueFrom h
    omega

/-- A value that may open `depth` more arrays and objects inside each other. -/
def value : Nat → Reader Json
  | 0 => ⟨valueOf none, length_lt_of_valueOf⟩
  | depth + 1 => ⟨valueOf (some (value depth)), length_lt_of_valueOf⟩

def maxDepth : Nat := 127

/-! ## Whole texts -/

/-- Nothing but blanks may follow. -/
def ending (s : List UInt8) : Outcome Unit :=
  match skipBlanks s with
  | [] => .ok ((), [])
  | c :: t => failOn .trailingCharacters (c :: t)

/-- The error of a failure that was met while reading `text`. -/
def Failure.toError (text : List UInt8) (e : Failure) : Error :=
  ⟨e.fault, e.behind.map fun n => Place.after text (text.length - n)⟩

def readAll {α : Type} (reader : List UInt8 → Outcome α) (text : List UInt8) : Except Error α :=
  match reader text with
  | .error e => .error (e.toError text)
  | .ok (a, r) =>
    match ending r with
    | .error e => .error (e.toError text)
    | .ok _ => .ok a

def parse (text : String) : Except Error Json :=
  readAll (value maxDepth).run (Bytes.ofString text)

/-- A value which, if it is an object, keeps the members with some names only. -/
def readOnly (names : List String) (s : List UInt8) : Outcome Json :=
  match skipBlanks s with
  | [] => failOn .eofInValue []
  | c :: t =>
    if c = ascii '{' then
      match fields ((keep (value (maxDepth - 1))).only names) [] t with
      | .error e => .error e
      | .ok (members, r) => .ok (.object members.reverse, r)
    else (value maxDepth).run (c :: t)

/-- The value that bytes write; of an object, the members with some names. -/
def parseOnly (names : List String) (bytes : List UInt8) : Except Error Json :=
  readAll (readOnly names) bytes

end Switchboard.Json
