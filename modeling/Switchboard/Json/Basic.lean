import Switchboard.Decimal.Basic
import Switchboard.Hex
import Switchboard.Limit

/-! # JSON values

* `Json` — a value; an object keeps its members in the order in which they were
  written, repeated names included;
* `Json.get?` — the member of a name: of several the last one counts;
* `Json.depth` — how many arrays and objects are open at the deepest point;
* `Json.render` — the compact text of a value. -/

namespace Switchboard

/-- A number as it was read: whole numbers of 64 bits are kept exactly, all others
as the decimal that was written. -/
inductive Json.Number where
  | whole (n : Int)
  | decimal (d : Decimal)
deriving DecidableEq, Repr

inductive Json where
  | null
  | bool (b : Bool)
  | number (n : Json.Number)
  | string (s : String)
  | array (items : List Json)
  | object (members : List (String × Json))

namespace Json

/-- The whole numbers that are kept exactly: 64 bits, signed below zero and
unsigned above. -/
def Number.minWhole : Int := -Limit.bits63

@[inherit_doc Number.minWhole]
def Number.maxWhole : Int := Limit.bits64 - 1

/-! ## Looking into a value -/

/-- The last member called `name`. -/
def lookup (name : String) : List (String × Json) → Option Json
  | [] => none
  | (key, value) :: rest =>
    match lookup name rest with
    | some later => some later
    | none => if key = name then some value else none

/-- The member of an object by name; other values have none. -/
def get? (name : String) : Json → Option Json
  | .object members => lookup name members
  | _ => none

def isNull : Json → Bool
  | .null => true
  | _ => false

def asString? : Json → Option String
  | .string s => some s
  | _ => none

def asObject? : Json → Option (List (String × Json))
  | .object members => some members
  | _ => none

def asArray? : Json → Option (List Json)
  | .array items => some items
  | _ => none

def asNat? : Json → Option Nat
  | .number (.whole (.ofNat n)) => some n
  | _ => none

def asInt? : Json → Option Int
  | .number (.whole n) => some n
  | _ => none

def asBool? : Json → Option Bool
  | .bool b => some b
  | _ => none

def ofNat (n : Nat) : Json := .number (.whole n)

/-- A string, or null in its absence. -/
def ofString? : Option String → Json
  | some s => .string s
  | none => .null

mutual

/-- How many arrays and objects are open at the deepest point of a value. -/
def depth : Json → Nat
  | .array items => depthItems items + 1
  | .object members => depthMembers members + 1
  | _ => 0

def depthItems : List Json → Nat
  | [] => 0
  | item :: rest => max item.depth (depthItems rest)

def depthMembers : List (String × Json) → Nat
  | [] => 0
  | (_, value) :: rest => max value.depth (depthMembers rest)

end

/-! ## The compact text -/

/-- The written form of one character of a string: the quote, the backslash and
the control characters are escaped, all others stand for themselves. -/
def escape (c : Char) : List Char :=
  if c = '"' then ['\\', '"']
  else if c = '\\' then ['\\', '\\']
  else if 0x20 ≤ c.toNat then [c]
  else if c = '\n' then ['\\', 'n']
  else if c = '\r' then ['\\', 'r']
  else if c = '\t' then ['\\', 't']
  else if c.toNat = 0x08 then ['\\', 'b']
  else if c.toNat = 0x0c then ['\\', 'f']
  else ['\\', 'u', '0', '0', Hex.digit (c.toNat / 16), Hex.digit (c.toNat % 16)]

def quote (s : String) : List Char :=
  '"' :: (s.toList.flatMap escape ++ ['"'])

def Number.text : Number → List Char
  | .whole n => Decimal.intText n
  | .decimal d => d.text

mutual

/-- The compact text of a value: no blanks, members in their order. -/
def text : Json → List Char
  | .null => ['n', 'u', 'l', 'l']
  | .bool true => ['t', 'r', 'u', 'e']
  | .bool false => ['f', 'a', 'l', 's', 'e']
  | .number n => n.text
  | .string s => quote s
  | .array [] => ['[', ']']
  | .array (item :: rest) => '[' :: (item.text ++ textItems rest)
  | .object [] => ['{', '}']
  | .object ((key, value) :: rest) =>
    '{' :: (quote key ++ ':' :: (value.text ++ textMembers rest))

/-- The items after the first, up to the closing bracket. -/
def textItems : List Json → List Char
  | [] => [']']
  | item :: rest => ',' :: (item.text ++ textItems rest)

/-- The members after the first, up to the closing brace. -/
def textMembers : List (String × Json) → List Char
  | [] => ['}']
  | (key, value) :: rest => ',' :: (quote key ++ ':' :: (value.text ++ textMembers rest))

end

def render (v : Json) : String := String.ofList v.text

end Json

end Switchboard
