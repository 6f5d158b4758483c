import Switchboard.Text.LetterCase

/-! # Characters and texts

What the character database says about blanks and letters of either case, as far as emails, device
names, header values and settings need it.

* `Text.inRanges` — whether a code point lies in one of several ranges, as the tables list them;
* `Text.isBlank`, `Text.trim` — the property White_Space, and a text without the blanks at its ends;
* `Text.lower` — a text in lower case, in every script; a capital sigma at the end of a word takes
  its final form;
* `Text.lowerAscii` — a text with only the letters A to Z in lower case. -/

namespace Switchboard.Text

/-- Whether a code point lies in one of the ranges, each given by its first and its last. -/
def inRanges (ranges : List (Nat × Nat)) (n : Nat) : Bool :=
  ranges.any fun r => r.1 ≤ n ∧ n ≤ r.2

/-! ## Blanks -/

/-- The characters that count as white space, in every script. -/
def isBlank (c : Char) : Bool :=
  let n := c.toNat
  (0x9 ≤ n ∧ n ≤ 0xD) ∨ n = 0x20 ∨ n = 0x85 ∨ n = 0xA0 ∨ n = 0x1680 ∨
    (0x2000 ≤ n ∧ n ≤ 0x200A) ∨ n = 0x2028 ∨ n = 0x2029 ∨ n = 0x202F ∨ n = 0x205F ∨ n = 0x3000

def trimChars (s : List Char) : List Char :=
  ((s.dropWhile isBlank).reverse.dropWhile isBlank).reverse

def trim (s : String) : String := String.ofList (trimChars s.toList)

/-! ## Lower case -/

/-- The lower-case form of a letter, wherever it stands. -/
def lowerChar (c : Char) : List Char :=
  if c.toNat < 0x80 then [c.toLower]
  else if c.toNat = 0x130 then ['i', Char.ofNat 0x307]
  else
    match lowerRuns.find? (·.holds c.toNat) with
    | some run => [Char.ofNat (c.toNat + run.shift).toNat]
    | none => [c]

/-- Whether the first character that is not passed over has case. -/
def meetsCase (s : List Char) : Bool :=
  match s.dropWhile fun c => inRanges ignoredRanges c.toNat with
  | c :: _ => inRanges casedRanges c.toNat
  | [] => false

/-- Characters in lower case.  `before` holds those in front, the nearest first, which a sigma at
the end of a word looks back at. -/
def lowerChars (before : List Char) : List Char → List Char
  | [] => []
  | c :: s =>
    let this :=
      if c = 'Σ' then [if meetsCase before ∧ meetsCase s = false then 'ς' else 'σ']
      else lowerChar c
    this ++ lowerChars (c :: before) s

def lower (s : String) : String := String.ofList (lowerChars [] s.toList)

/-- A text with the letters A to Z in lower case and all others as they are. -/
def lowerAscii (s : String) : String := s.map Char.toLower

end Switchboard.Text
