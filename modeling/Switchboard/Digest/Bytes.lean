/-! # Words and texts as bytes

Digests take bytes in words, some with the most significant byte in front, some
with the least.

* `Bytes.big`, `Bytes.little` — a number as so many bytes, in either order;
* `Bytes.ofBig`, `Bytes.ofLittle` — the number of such bytes;
* `Bytes.chunks` — bytes cut into pieces of one length;
* `Bytes.ascii` — the byte of a character of ASCII;
* `Bytes.ofString`, `Bytes.lengthOf` — the bytes of a text, and how many they are;
* `Bytes.text?` — the text of bytes, if they are one. -/

namespace Switchboard.Bytes

/-- The lowest `count` bytes of a number, the least significant in front. -/
def little : Nat → Nat → List UInt8
  | 0, _ => []
  | count + 1, n => UInt8.ofNat n :: little count (n / 256)

/-- The lowest `count` bytes of a number, the most significant in front. -/
def big (count n : Nat) : List UInt8 := (little count n).reverse

def ofLittle : List UInt8 → Nat
  | [] => 0
  | b :: bs => b.toNat + 256 * ofLittle bs

def ofBig (bs : List UInt8) : Nat := bs.foldl (fun n b => n * 256 + b.toNat) 0

/-- The first `count` pieces of `size` items each. -/
def chunks {α : Type} (size : Nat) : Nat → List α → List (List α)
  | 0, _ => []
  | count + 1, items => items.take size :: chunks size count (items.drop size)

def lengthOf (s : List Char) : Nat := s.foldr (fun c n => c.utf8Size + n) 0

@[inline] def ascii (c : Char) : UInt8 := UInt8.ofNat c.toNat

def ofChars (s : List Char) : List UInt8 := s.flatMap String.utf8EncodeChar

def ofString (s : String) : List UInt8 := s.toUTF8.data.toList

/-- The text of bytes, if they are one. -/
def text? (bytes : List UInt8) : Option String := String.fromUTF8? (ByteArray.mk bytes.toArray)

theorem ofString_ofList (s : List Char) : ofString (String.ofList s) = ofChars s := by
  simp [ofString, ofChars, List.utf8Encode]

theorem text?_ofString (s : String) : text? (ofString s) = some s := by
  simp only [text?, ofString, String.fromUTF8?, Array.toArray_toList]
  exact dif_pos s.isValidUTF8

end Switchboard.Bytes
