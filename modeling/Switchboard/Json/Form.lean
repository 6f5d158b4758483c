import Switchboard.Json.Reader
import Switchboard.Json.Shape

/-! # Forms

A form is an object whose fields are strings, or an array of them in their order.  It is
read straight from the text, so that every fault has its place.

* `Json.Form` — the title of a form and the names of its fields;
* `Json.Form.read` — the fields of a form that a text writes. -/

namespace Switchboard.Json

open Switchboard.Bytes (ascii)

/-- The title of a form and the names of its fields. -/
structure Form where
  title : String
  names : List String

namespace Form

/-- A string, read as such. -/
def readString (s : List UInt8) : Outcome String :=
  match skipBlanks s with
  | [] => failOn .eofInValue []
  | c :: t =>
    if c = ascii '[' then failAt (.wrongType "sequence" "a string") (c :: t)
    else if c = ascii '{' then failAt (.wrongType "map" "a string") (c :: t)
    else
      match valueFrom none c t with
      | .error e => .error e
      | .ok (.string a, r) => .ok (a, r)
      | .ok (v, r) => failAt (.wrongType v.described "a string") r

theorem length_lt_of_readString {s r : List UInt8} {a : String} (h : readString s = .ok (a, r)) :
    r.length < s.length := by
  unfold readString at h
  split at h
  · simp [failOn] at h
  · rename_i c t ht
    have := length_lt_of_skipBlanks ht
    split at h
    · simp [failAt] at h
    · split at h
      · simp [failAt] at h
      · split at h
        · simp at h
        · rename_i hv
          have := length_le_of_valueFrom hv
          simp only [Except.ok.injEq, Prod.mk.injEq] at h
          rw [← h.2]
          omega
        · simp [failAt] at h

/-- The fields that have been read, the last one first. -/
abbrev Draft := List (String × String)

def fieldRule : MemberRule Draft where
  run draft name s :=
    if (draft.lookup name).isSome then failWithin (.duplicateField name) s
    else
      match colon s with
      | .error e => .error e
      | .ok (_, r) =>
        match readString r with
        | .error e => .error e
        | .ok (value, r') => .ok ((name, value) :: draft, r')
  shrinks := by
    intro draft draft' name s r h
    split at h
    · simp [failWithin] at h
    · split at h
      · simp at h
      · rename_i u t ht
        have := length_lt_of_colon ht
        split at h
        · simp at h
        · rename_i value w hw
          have := length_lt_of_readString hw
          simp only [Except.ok.injEq, Prod.mk.injEq] at h
          rw [← h.2]
          omega

/-- How many fields a form has, in words. -/
def extent (form : Form) : String :=
  Record.extent ⟨form.title, form.names.map fun name => ⟨name, fun _ => none, false⟩⟩

def collect (draft : Draft) (rest : List UInt8) : List String → Outcome (List String)
  | [] => .ok ([], rest)
  | name :: names =>
    match draft.lookup name with
    | none => failAt (.missingField name) rest
    | some value =>
      match collect draft rest names with
      | .error e => .error e
      | .ok (values, r) => .ok (value :: values, r)

/-- The end of an array after its last field. -/
def readEnd (s : List UInt8) : Outcome Unit :=
  match skipBlanks s with
  | [] => failOn .eofInList []
  | c :: t =>
    if c = ascii ']' then .ok ((), t)
    else if c = ascii ',' then
      match skipBlanks t with
      | [] => failOn .trailingCharacters []
      | d :: u => failOn (if d = ascii ']' then .trailingComma else .trailingCharacters) (d :: u)
    else failOn .trailingCharacters (c :: t)

/-- What is before the next item of an array, `index` being that of the item. -/
def readComma (index : Nat) (c : UInt8) (t : List UInt8) : Outcome Unit :=
  if index = 0 then .ok ((), c :: t)
  else if c = ascii ',' then
    match skipBlanks t with
    | [] => failOn .eofInValue []
    | d :: u => if d = ascii ']' then failOn .trailingComma (d :: u) else .ok ((), d :: u)
  else failOn .expectedListCommaOrEnd (c :: t)

/-- The items of an array that are still to be read, `index` being that of the next. -/
def readItems (form : Form) (index : Nat) : List String → List UInt8 → Outcome (List String)
  | [], s => (readEnd s).map fun (_, r) => ([], r)
  | _ :: names, s =>
    match skipBlanks s with
    | [] => failOn .eofInList []
    | c :: t =>
      if c = ascii ']' then failAt (.wrongLength index form.extent) t
      else
        match readComma index c t with
        | .error e => .error e
        | .ok (_, r) =>
          match readString r with
          | .error e => .error e
          | .ok (value, r') =>
            match readItems form (index + 1) names r' with
            | .error e => .error e
            | .ok (values, r'') => .ok (value :: values, r'')

def readFields (form : Form) (s : List UInt8) : Outcome (List String) :=
  match skipBlanks s with
  | [] => failOn .eofInValue []
  | c :: t =>
    if c = ascii '[' then readItems form 0 form.names t
    else if c = ascii '{' then
      match fields (fieldRule.only form.names) [] t with
      | .error e => .error e
      | .ok (draft, r) => collect draft r form.names
    else
      match valueFrom none c t with
      | .error e => .error e
      | .ok (v, r) => failAt (.wrongType v.described form.title) r

/-- The fields of a form that a text writes, in their order. -/
def read (form : Form) (text : String) : Except Error (List String) :=
  readAll form.readFields (Bytes.ofString text)

end Form

end Switchboard.Json
