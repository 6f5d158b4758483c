/-! # Base64 without padding

* `Base64.Alphabet` — the two digits in which the alphabets differ;
* `Base64.encode` — bytes as digits of six bits, four for every three bytes;
* `Base64.decode` — back again; bits that stand for nothing have to be zero, so
  every sequence of bytes has one written form. -/

namespace Switchboard.Base64

/-- The digits for 62 and 63; those for the smaller values are the same everywhere. -/
structure Alphabet where
  digit62 : Char
  digit63 : Char

/-- The alphabet of texts in general. -/
def Alphabet.standard : Alphabet := ⟨'+', '/'⟩

/-- The alphabet whose digits may stand in addresses and names of files. -/
def Alphabet.urlSafe : Alphabet := ⟨'-', '_'⟩

def Alphabet.digit (a : Alphabet) (n : Nat) : Char :=
  if n < 26 then Char.ofNat (65 + n)
  else if n < 52 then Char.ofNat (71 + n)
  else if n < 62 then Char.ofNat (n - 4)
  else if n = 62 then a.digit62
  else a.digit63

def Alphabet.value (a : Alphabet) (c : Char) : Option Nat :=
  if 'A' ≤ c ∧ c ≤ 'Z' then some (c.toNat - 65)
  else if 'a' ≤ c ∧ c ≤ 'z' then some (c.toNat - 71)
  else if '0' ≤ c ∧ c ≤ '9' then some (c.toNat + 4)
  else if c = a.digit62 then some 62
  else if c = a.digit63 then some 63
  else none

def encodeBytes (alphabet : Alphabet) : List UInt8 → List Char
  | x :: y :: z :: rest =>
    let n := x.toNat * 65536 + y.toNat * 256 + z.toNat
    alphabet.digit (n / 262144) :: alphabet.digit (n / 4096 % 64) ::
      alphabet.digit (n / 64 % 64) :: alphabet.digit (n % 64) :: encodeBytes alphabet rest
  | [x, y] =>
    let n := (x.toNat * 256 + y.toNat) * 4
    [alphabet.digit (n / 4096), alphabet.digit (n / 64 % 64), alphabet.digit (n % 64)]
  | [x] => [alphabet.digit (x.toNat / 4), alphabet.digit (x.toNat % 4 * 16)]
  | [] => []

def decodeChars (alphabet : Alphabet) : List Char → Option (List UInt8)
  | a :: b :: c :: d :: rest => do
    let a ← alphabet.value a
    let b ← alphabet.value b
    let c ← alphabet.value c
    let d ← alphabet.value d
    let n := ((a * 64 + b) * 64 + c) * 64 + d
    let bytes ← decodeChars alphabet rest
    return UInt8.ofNat (n / 65536) :: UInt8.ofNat (n / 256 % 256) :: UInt8.ofNat (n % 256) :: bytes
  | [a, b, c] => do
    let a ← alphabet.value a
    let b ← alphabet.value b
    let c ← alphabet.value c
    let n := (a * 64 + b) * 64 + c
    if n % 4 = 0 then some [UInt8.ofNat (n / 1024), UInt8.ofNat (n / 4 % 256)] else none
  | [a, b] => do
    let a ← alphabet.value a
    let b ← alphabet.value b
    let n := a * 64 + b
    if n % 16 = 0 then some [UInt8.ofNat (n / 16)] else none
  | [_] => none
  | [] => some []

def encode (alphabet : Alphabet) (bytes : List UInt8) : String :=
  String.ofList (encodeBytes alphabet bytes)

def decode (alphabet : Alphabet) (text : String) : Option (List UInt8) :=
  decodeChars alphabet text.toList

end Switchboard.Base64
