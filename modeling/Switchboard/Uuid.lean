import Switchboard.Digest.Bytes
import Switchboard.Hex

/-! # Identifiers

Accounts, devices and connections are named by 128-bit identifiers.

* `Uuid` — an identifier, ordered by its bits;
* `Uuid.parse` — the identifier that a text writes: 32 hexadecimal digits, or
  the five groups, which may stand in braces or after `urn:uuid:`;
* `Uuid.render` — the five groups in lower case;
* `Uuid.random` — the identifier made from 128 random bits. -/

namespace Switchboard

/-- A 128-bit identifier. -/
structure Uuid where
  bits : BitVec 128
deriving DecidableEq, Repr

namespace Uuid

instance : Inhabited Uuid := ⟨⟨0⟩⟩

instance : Ord Uuid := ⟨fun a b => compare a.bits b.bits⟩

instance : Std.TransOrd Uuid :=
  inferInstanceAs (Std.TransCmp (compareOn Uuid.bits))

instance : Std.LawfulEqOrd Uuid where
  eq_of_compare {a b} h := by
    have h' : compare a.bits b.bits = .eq := h
    have : a.bits = b.bits := Std.LawfulEqCmp.eq_of_compare h'
    cases a
    cases b
    simp_all

/-! ## Writing -/

def digits (u : Uuid) : List Char :=
  (List.range 32).map fun i => Hex.digit ((u.bits.toNat >>> (4 * (31 - i))) % 16)

def groupLengths : List Nat := [8, 4, 4, 4, 12]

/-- Digits cut into groups of the given lengths, with hyphens between them. -/
def hyphenated : List Nat → List Char → List Char
  | [], _ => []
  | [_], ds => ds
  | n :: ns, ds => ds.take n ++ '-' :: hyphenated ns (ds.drop n)

/-- The written form: five groups in lower case. -/
def render (u : Uuid) : String := String.ofList (hyphenated groupLengths u.digits)

/-! ## Reading -/

inductive Fault where
  | character (found : Char) (index : Nat)
  | length (found : Nat)
  | groupCount (found : Nat)
  | groupLength (group found : Nat)
deriving DecidableEq, Repr

def Fault.message : Fault → String
  | .character found index =>
    "invalid character: found `" ++ found.toString ++ "` at " ++ toString index
  | .length found => "invalid length: found " ++ toString found
  | .groupCount found => "invalid group count: expected 5, found " ++ toString found
  | .groupLength group found =>
    "invalid group length in group " ++ toString group ++ ": expected "
      ++ toString (groupLengths.getD group 0) ++ ", found " ++ toString found

def hexNumber (n : Nat) : List Char → Option Nat
  | [] => some n
  | c :: s => (Hex.digitValue c).bind fun d => hexNumber (n * 16 + d) s

def ofDigits (s : List Char) : Option Uuid :=
  if s.length = 32 then (hexNumber 0 s).map fun n => ⟨BitVec.ofNat 128 n⟩ else none

/-- The digits of five groups, if the hyphens stand where they should. -/
def unhyphenated : List Nat → List Char → Option (List Char)
  | [], s => if s.isEmpty then some [] else none
  | [n], s => if s.length = n then some s else none
  | n :: ns, s =>
    match s.drop n with
    | '-' :: r => (unhyphenated ns r).map (s.take n ++ ·)
    | _ => none

def ofGroups (s : List Char) : Option Uuid := (unhyphenated groupLengths s).bind ofDigits

/-- The mark in front of an identifier that is written as a name. -/
def urn : List Char := ['u', 'r', 'n', ':', 'u', 'u', 'i', 'd', ':']

/-- The part of a text that holds the groups, and how far in it begins, which is zero
where it stands there bare: braces and the mark `urn:uuid:` are taken off. -/
def unwrap (s : List Char) : List Char × Nat :=
  if s.head? = some '{' ∧ 2 ≤ s.length ∧ s.getLast? = some '}' then
    ((s.drop 1).dropLast, 1)
  else if (s.take 9).map Char.toLower = urn then (s.drop 9, 9)
  else (s, 0)

def parse? (s : List Char) : Option Uuid :=
  match unwrap s with
  | (_, 0) => (ofDigits s).or (ofGroups s)
  | (body, _) => ofGroups body

/-! ## Faults -/

/-- The first character that is neither digit nor hyphen, with its byte index. -/
def stray (index : Nat) : List Char → Option (Char × Nat)
  | [] => none
  | c :: s =>
    if c = '-' ∨ (Hex.digitValue c).isSome then stray (index + c.utf8Size) s
    else some (c, index)

/-- The group, counted from `group`, whose length differs from the one expected.  The last
group is said to take what the others and their hyphens leave of `size`, the bytes of the
whole text. -/
def wrongGroup (size group : Nat) : List Nat → List (List Char) → Fault
  | n :: m :: ns, g :: gs =>
    if g.length = n then wrongGroup (size - (n + 1)) (group + 1) (m :: ns) gs
    else .groupLength group g.length
  | _, _ => .groupLength group size

structure Body where
  chars : List Char
  /-- How many bytes before the part are counted with the index of a character. -/
  before : Nat
  /-- Whether the part is held against the five groups even if it has no hyphen. -/
  grouped : Bool

/-- The part of a text in which a fault is sought.  A text of 36 bytes is taken for bare
groups as it stands, one of 38 bytes in braces and one of 45 after the mark for groups
that begin there.  Of other lengths, what stands around the part is taken off and still
counted. -/
def Body.of (s : List Char) : Body :=
  let size := Bytes.lengthOf s
  let (body, before) := unwrap s
  if size = 36 then ⟨s, 0, true⟩
  else if (before = 1 ∧ size = 38) ∨ (before = 9 ∧ size = 45) then ⟨body, 0, true⟩
  else ⟨body, before, before ≠ 0⟩

def maxSize : Nat := 45

/-- What is wrong with a text that is no identifier. -/
def faultOf (s : List Char) : Fault :=
  let size := Bytes.lengthOf s
  let body := Body.of s
  if maxSize < size then .length size
  else
    match stray 0 body.chars with
    | some (c, i) => .character c (i + body.before)
    | none =>
      let hyphens := body.chars.count '-'
      if hyphens = 0 ∧ body.grouped = false then .length size
      else if hyphens ≠ 4 then .groupCount (hyphens + 1)
      else wrongGroup size 0 groupLengths (body.chars.splitOn '-')

def parse (text : String) : Except Fault Uuid :=
  match parse? text.toList with
  | some u => .ok u
  | none => .error (faultOf text.toList)

/-! ## Making -/

/-- The identifier of version 4 made from 128 random bits: six of them give way
to the marks of the version. -/
def random (bits : BitVec 128) : Uuid :=
  let free : BitVec 128 := bits &&& ~~~(0xf000#128 <<< 64) &&& ~~~(0xc000#128 <<< 48)
  ⟨free ||| (0x4000#128 <<< 64) ||| (0x8000#128 <<< 48)⟩

/-- Whether an identifier carries the marks of version 4. -/
def isRandom (u : Uuid) : Bool :=
  (u.bits.toNat >>> 76) % 16 = 4 ∧ (u.bits.toNat >>> 62) % 4 = 2

end Uuid

end Switchboard
