import Switchboard.Hex
import Switchboard.Text.Numeral

/-! # Internet addresses

* `Address` — an address of 32 or of 128 bits;
* `Address.render` — its written form; of an address of 128 bits the longest run of
  zero groups is left out;
* `Address.ofEndpoint` — the address of an endpoint, `address:port` or `[address]:port`. -/

namespace Switchboard

/-- An address: four numbers below 256, or eight groups below 65536. -/
inductive Address where
  | short (parts : List Nat)
  | long (groups : List Nat)
deriving DecidableEq, Repr

namespace Address

/-! ## Writing -/

def pointed (parts : List Nat) : String := String.intercalate "." (parts.map toString)

def grouped (groups : List Nat) : String :=
  String.intercalate ":" (groups.map fun g => String.ofList (Nat.toDigits 16 g))

def zerosAhead (groups : List Nat) : Nat := (groups.takeWhile (· = 0)).length

/-- Where the longest run of zeros begins and how long it is; of two the first. -/
def longestZeros (groups : List Nat) : Nat × Nat :=
  (List.range groups.length).foldl
    (fun best i =>
      let run := zerosAhead (groups.drop i)
      if best.2 < run then (i, run) else best)
    (0, 0)

def render : Address → String
  | .short parts => pointed parts
  | .long [0, 0, 0, 0, 0, 0xffff, a, b] =>
    "::ffff:" ++ pointed [a / 256, a % 256, b / 256, b % 256]
  | .long groups =>
    let (start, count) := longestZeros groups
    if 1 < count then
      grouped (groups.take start) ++ "::" ++ grouped (groups.drop (start + count))
    else grouped groups

/-! ## Reading -/

/-- A number below 256 without leading zeros. -/
def part (s : List Char) : Option Nat :=
  match s with
  | '0' :: _ :: _ => none
  | _ => (Text.digitsOf s).filter (· < 256)

def parts (s : List Char) : Option (List Nat) :=
  ((s.splitOn '.').mapM part).filter (·.length = 4)

/-- A group of up to four hexadecimal digits. -/
def group (s : List Char) : Option Nat :=
  if s.isEmpty ∨ 4 < s.length then none
  else (s.mapM Hex.digitValue).map fun ds => ds.foldl (fun n d => 16 * n + d) 0

/-- Groups with colons between them, the last two of which may be written as four numbers. -/
def groups : List (List Char) → Option (List Nat)
  | [] => some []
  | [s] =>
    match parts s with
    | some [a, b, c, d] => some [a * 256 + b, c * 256 + d]
    | _ => (group s).map fun g => [g]
  | s :: rest => do
    let g ← group s
    let gs ← groups rest
    return g :: gs

/-- Pieces between single colons, none for an empty text. -/
def pieces (s : List Char) : List (List Char) := if s.isEmpty then [] else s.splitOn ':'

/-- The text before two colons and the text after them, if they are there. -/
def splitZeros (before : List Char) : List Char → Option (List Char × List Char)
  | ':' :: ':' :: rest => some (before.reverse, rest)
  | c :: rest => splitZeros (c :: before) rest
  | [] => none

def eightGroups (s : List Char) : Option (List Nat) :=
  match splitZeros [] s with
  | some (before, after) => do
    let front ← groups (pieces before)
    let back ← groups (pieces after)
    if front.length + back.length < 8 ∧ '.' ∉ before then
      some (front ++ List.replicate (8 - front.length - back.length) 0 ++ back)
    else none
  | none => (groups (pieces s)).filter (·.length = 8)

/-- The address of an endpoint.  A zone after the sign of percent is left out. -/
def ofEndpoint (text : String) : Option Address :=
  match text.toList with
  | '[' :: s => (eightGroups ((s.takeWhile (· ≠ ']')).takeWhile (· ≠ '%'))).map .long
  | s => (parts (s.takeWhile (· ≠ ':'))).map .short

end Address

end Switchboard
