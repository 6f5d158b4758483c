import Switchboard.Json.Basic
import Switchboard.Json.Fault
import Switchboard.Decimal.Binary
import Switchboard.Text.Quoted

/-! # Values of a given shape

A decoder says what a value means, or why it is refused.

* `Json.Decoder` — decoders, of strings, truth values, numbers, names;
* `Json.Record` — the named fields of a record, each with the check of its value;
* `Json.Record.members` — the fields of a value that has the shape of a record: an
  object, or an array that holds the fields in their order. -/

namespace Switchboard.Json

/-- What a value means, or why it is refused. -/
abbrev Decoder (α : Type) := Json → Except Fault α

/-- A value as it is named in a fault. -/
def described : Json → String
  | .null => "null"
  | .bool true => "boolean `true`"
  | .bool false => "boolean `false`"
  | .number (.whole n) => "integer `" ++ String.ofList (Decimal.intText n) ++ "`"
  | .number (.decimal d) => "floating point `" ++ String.ofList d.shortest.text ++ "`"
  | .string s => "string " ++ Text.quoted s
  | .array _ => "sequence"
  | .object _ => "map"

/-- A value of another kind than the one expected. -/
def mistyped {α : Type} (v : Json) (expected : String) : Except Fault α :=
  .error (.wrongType v.described expected)

/-! ## Simple values -/

namespace Decoder

def string : Decoder String
  | .string s => .ok s
  | v => mistyped v "a string"

def boolean : Decoder Bool
  | .bool b => .ok b
  | v => mistyped v "a boolean"

/-- A whole number from zero up to `limit`, which is left out. -/
def natBelow (limit : Nat) (expected : String) : Decoder Nat
  | .number (.whole n) =>
    if 0 ≤ n ∧ n < limit then .ok n.toNat
    else .error (.wrongValue (described (.number (.whole n))) expected)
  | v => mistyped v expected

def optional {α : Type} (decode : Decoder α) : Decoder (Option α)
  | .null => .ok none
  | v => (decode v).map some

/-- One of several names.  A name may also be written as the only member of an object, with
a value that stands for nothing. -/
def variantWhere {α : Type} (isNothing : Json → Bool) (known : List (String × α)) : Decoder α :=
  fun v =>
    let named (name : String) : Except Fault α :=
      match known.lookup name with
      | some a => .ok a
      | none => .error (.unknownVariant name (known.map Prod.fst))
    match v with
    | .string name => named name
    | .object [(name, value)] =>
      match named name with
      | .error e => .error e
      | .ok a => if isNothing value then .ok a else mistyped value "unit"
    | .object _ => .error (.wrongValue "map" "map with a single key")
    | v => mistyped v "string or map"

/-- One of several names, null being what stands for nothing. -/
def variant {α : Type} (known : List (String × α)) : Decoder α := variantWhere (·.isNull) known

def strings : Decoder (List String)
  | .array items => items.mapM string
  | v => mistyped v "a sequence"

end Decoder

/-! ## Records -/

/-- A field of a record: its name, what its values are refused for, and whether an
array may end before it. -/
structure Record.Entry where
  name : String
  check : Json → Option Fault
  omissible : Bool := false

/-- The fields of a record, in their order. -/
structure Record where
  title : String
  fields : List Record.Entry

/-- What a decoder refuses a value for. -/
def refusal {α : Type} (decode : Decoder α) (v : Json) : Option Fault :=
  match decode v with
  | .ok _ => none
  | .error e => some e

namespace Record

/-- How many fields a record has, in words. -/
def extent (r : Record) : String :=
  r.title ++ " with " ++ toString r.fields.length
    ++ (if r.fields.length = 1 then " element" else " elements")

/-- The fields of an object, checked one after the other.  A field that is missing is
left to whoever asks for it. -/
def checkMembers (members : List (String × Json)) : List Entry → Except Fault Unit
  | [] => .ok ()
  | entry :: rest =>
    match (lookup entry.name members).bind entry.check with
    | some e => .error e
    | none => checkMembers members rest

/-- The fields of an object, checked in the order in which they are written.  A field
may be there only once; members that are no fields are passed over. -/
def checkWritten (fields : List Entry) (seen : List String) :
    List (String × Json) → Except Fault Unit
  | [] => .ok ()
  | (name, v) :: rest =>
    match fields.find? (·.name = name) with
    | none => checkWritten fields seen rest
    | some entry =>
      if name ∈ seen then .error (.duplicateField name)
      else
        match entry.check v with
        | some e => .error e
        | none => checkWritten fields (name :: seen) rest

/-- The items of an array as the fields in their order; `index` is that of the first
of the fields.  Items beyond the last field are left out. -/
def pairItems (r : Record) (index : Nat) :
    List Entry → List Json → Except Fault (List (String × Json))
  | [], _ => .ok []
  | entry :: fields, [] =>
    if entry.omissible then r.pairItems (index + 1) fields []
    else .error (.wrongLength index r.extent)
  | entry :: fields, item :: items =>
    match entry.check item with
    | some e => .error e
    | none => (r.pairItems (index + 1) fields items).map ((entry.name, item) :: ·)

/-- The items of an array as the fields in their order.  There may be no more of them
than `enough` says in words. -/
def ofItems (r : Record) (enough : String) (items : List Json) :
    Except Fault (List (String × Json)) := do
  let members ← r.pairItems 0 r.fields items
  if r.fields.length < items.length then .error (.wrongLength items.length enough)
  else .ok members

/-- The members of a value that has the shape of a record.  The fields of an object are
checked in the order of their names. -/
def members (r : Record) : Decoder (List (String × Json))
  | .object members =>
    match checkMembers members (r.fields.mergeSort fun a b => decide (a.name ≤ b.name)) with
    | .error e => .error e
    | .ok _ => .ok members
  | .array items => r.ofItems "fewer elements in array" items
  | v => mistyped v r.title

/-- A field that has to be there. -/
def field {α : Type} (members : List (String × Json)) (name : String) (decode : Decoder α) :
    Except Fault α :=
  match lookup name members with
  | some v => decode v
  | none => .error (.missingField name)

/-- A field that may be null or missing. -/
def optionalField {α : Type} (members : List (String × Json)) (name : String)
    (decode : Decoder α) : Except Fault (Option α) :=
  match lookup name members with
  | some v => Decoder.optional decode v
  | none => .ok none

end Record

end Switchboard.Json
