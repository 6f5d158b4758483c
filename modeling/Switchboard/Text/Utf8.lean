/-! # Bytes that ought to be text

* `Utf8.decode` — the text of bytes; where they are none, the beginning of a character
  that comes to nothing is replaced by one sign. -/

namespace Switchboard.Utf8

/-- What stands for bytes that are no character. -/
def replacement : Char := Char.ofNat 0xFFFD

/-- How many bytes follow a first byte, and from where to where the next of them may lie. -/
def following (b : Nat) : Option (Nat × Nat × Nat) :=
  if b < 0xC2 then none
  else if b < 0xE0 then some (1, 0x80, 0xBF)
  else if b < 0xF0 then
    some (2, if b = 0xE0 then 0xA0 else 0x80, if b = 0xED then 0x9F else 0xBF)
  else if b < 0xF5 then
    some (3, if b = 0xF0 then 0x90 else 0x80, if b = 0xF4 then 0x8F else 0xBF)
  else none

/-- The bits of a first byte that belong to the character, of which `count` bytes follow. -/
def firstBits (count b : Nat) : Nat := b % Nat.pow 2 (6 - count)

/-- The character that so many more bytes complete, and the bytes after it. -/
def complete (value low high : Nat) : Nat → List UInt8 → Char × List UInt8
  | 0, s => (Char.ofNat value, s)
  | _ + 1, [] => (replacement, [])
  | count + 1, b :: s =>
    if low ≤ b.toNat ∧ b.toNat ≤ high then
      complete (value * 64 + b.toNat % 64) 0x80 0xBF count s
    else (replacement, b :: s)

theorem length_complete_le (value low high count : Nat) (s : List UInt8) :
    (complete value low high count s).2.length ≤ s.length := by
  fun_induction complete value low high count s with
  | case1 => exact Nat.le_refl _
  | case2 => exact Nat.le_refl _
  | case3 value low high count b s h ih => exact Nat.le_succ_of_le ih
  | case4 => exact Nat.le_refl _

/-- The first character of bytes, and the bytes after it. -/
def first (b : UInt8) (s : List UInt8) : Char × List UInt8 :=
  if b.toNat < 0x80 then (Char.ofNat b.toNat, s)
  else
    match following b.toNat with
    | none => (replacement, s)
    | some (count, low, high) => complete (firstBits count b.toNat) low high count s

theorem length_first_le (b : UInt8) (s : List UInt8) : (first b s).2.length ≤ s.length := by
  unfold first
  repeat' split
  · exact Nat.le_refl _
  · exact Nat.le_refl _
  · exact length_complete_le _ _ _ _ _

/-- The characters of bytes. -/
def decodeChars : List UInt8 → List Char
  | [] => []
  | b :: s => (first b s).1 :: decodeChars (first b s).2
termination_by s => s.length
decreasing_by exact Nat.lt_succ_of_le (length_first_le b s)

def decode (bytes : List UInt8) : String := String.ofList (decodeChars bytes)

end Switchboard.Utf8
