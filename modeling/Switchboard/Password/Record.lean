import Switchboard.Base64
import Switchboard.Limit
import Switchboard.Password.Argon2
import Switchboard.Text.Numeral

/-! # Hashed passwords as they are kept

A hashed password is one line, `$variant$v=version$m=…,t=…,p=…$salt$hash`.  The
version and the parameters may be left out.

* `Password.Record` — what such a line says;
* `Password.Record.parse` — the record of a line;
* `Password.Record.render` — the line of a record. -/

namespace Switchboard.Password

/-- A hashed password and everything but the password that it depends on. -/
structure Record where
  variant : Argon2.Variant
  version : Argon2.Version
  cost : Argon2.Cost
  salt : List UInt8
  data : List UInt8
  hash : List UInt8
deriving DecidableEq, Repr

namespace Record

def variants : List (String × Argon2.Variant) :=
  [("argon2d", .dependent), ("argon2i", .independent), ("argon2id", .mixed)]

/-- The cost where a line does not tell. -/
def defaultCost : Argon2.Cost := ⟨19456, 2, 1⟩

/-! ## Reading -/

def isValueChar (c : Char) : Bool :=
  c.isAlphanum ∨ c = '-' ∨ c = '/' ∨ c = '+' ∨ c = '.'

/-- Whether a text may be a value. -/
def isValue (s : String) : Bool := s.utf8ByteSize ≤ 64 ∧ s.toList.all isValueChar

/-- Whether a text may be a name. -/
def isName (s : String) : Bool :=
  1 ≤ s.length ∧ s.length ≤ 32 ∧ s.toList.all fun c => c.isLower ∨ c.isDigit ∨ c = '-'

/-- A number of 32 bits without leading zeros. -/
def decimal (s : String) : Option Nat :=
  match s.toList with
  | '0' :: _ :: _ => none
  | cs => (Text.digitsOf cs).filter (· < Limit.bits32)

/-- The parts of a text between separators. -/
def parts (separator : Char) (s : String) : List String :=
  (s.toList.splitOn separator).map String.ofList

/-- A parameter: a name, the sign of equality, and a value. -/
def parameter (s : String) : Option (String × String) :=
  match parts '=' s with
  | [name, value] => if isName name ∧ isValue value then some (name, value) else none
  | _ => none

def parameters (s : String) : Option (List (String × String)) :=
  if 127 < s.utf8ByteSize then none else (parts ',' s).mapM parameter

/-- The bytes of a base64 text, of which there may be at most `limit`. -/
def bytesUpTo (limit : Nat) (s : String) : Option (List UInt8) :=
  (Base64.decode .standard s).filter (·.length ≤ limit)

/-- What the parameters say about the cost and the data that goes into the hash.  The
name of a key is read and has no effect. -/
def apply (state : Argon2.Cost × List UInt8) (p : String × String) :
    Option (Argon2.Cost × List UInt8) :=
  let (cost, data) := state
  match p.1 with
  | "m" => (decimal p.2).map fun n => ({ cost with memory := n }, data)
  | "t" => (decimal p.2).map fun n => ({ cost with passes := n }, data)
  | "p" => (decimal p.2).map fun n => ({ cost with lanes := n }, data)
  | "keyid" => (bytesUpTo 8 p.2).map fun _ => (cost, data)
  | "data" => (bytesUpTo 32 p.2).map fun bytes => (cost, bytes)
  | _ => none

/-- The version that a field tells, if it tells one, and the fields after it. -/
def takeVersion : List String → Option (Argon2.Version × List String)
  | [] => some (.second, [])
  | field :: rest =>
    match field.toList with
    | 'v' :: '=' :: number =>
      -- a list is left to `takeParameters`
      if ',' ∈ number then some (.second, field :: rest)
      else if isValue (String.ofList number) = false then none
      else
        match decimal (String.ofList number) with
        | some 16 => some (.first, rest)
        | some 19 => some (.second, rest)
        | _ => none
    | _ => some (.second, field :: rest)

/-- The parameters that a field tells, if it tells any, and the fields after it. -/
def takeParameters : List String → Option (List (String × String) × List String)
  | [] => some ([], [])
  | field :: rest =>
    if '=' ∈ field.toList then (parameters field).map fun ps => (ps, rest)
    else some ([], field :: rest)

/-- The bytes of a salt: a value of at least four characters that writes at least
eight bytes. -/
def readSalt (s : String) : Option (List UInt8) :=
  if 4 ≤ s.utf8ByteSize ∧ isValue s then
    (Base64.decode .standard s).filter (8 ≤ ·.length)
  else none

/-- The bytes of a hash, from 10 to 64 of them. -/
def readHash (s : String) : Option (List UInt8) :=
  (bytesUpTo 64 s).filter (10 ≤ ·.length)

def parse (line : String) : Option Record :=
  match parts '$' line with
  | "" :: name :: fields => do
    let variant ← variants.lookup name
    let (version, fields) ← takeVersion fields
    let (ps, fields) ← takeParameters fields
    let (cost, data) ← ps.foldlM apply (defaultCost, [])
    match fields with
    | [salt, hash] =>
      let salt ← readSalt salt
      let hash ← readHash hash
      if cost.isValid then some ⟨variant, version, cost, salt, data, hash⟩ else none
    | _ => none
  | _ => none

/-! ## Writing -/

def nameOf : Argon2.Variant → String
  | .dependent => "argon2d"
  | .independent => "argon2i"
  | .mixed => "argon2id"

def render (r : Record) : String :=
  "$" ++ nameOf r.variant ++ "$v=" ++ toString r.version.number
    ++ "$m=" ++ toString r.cost.memory ++ ",t=" ++ toString r.cost.passes
    ++ ",p=" ++ toString r.cost.lanes
    ++ (if r.data.isEmpty then "" else ",data=" ++ Base64.encode .standard r.data)
    ++ "$" ++ Base64.encode .standard r.salt ++ "$" ++ Base64.encode .standard r.hash

end Record

end Switchboard.Password
