import Switchboard.Digest.Bytes
import Switchboard.Hex
import Switchboard.Text.Utf8

/-! # Characters written as their bytes

In addresses a byte may be written as a percent sign and two hexadecimal digits.

* `Percent.decode` — the text that such an address stands for;
* `Percent.pairs` — the names and values of a query. -/

namespace Switchboard.Percent

def digit (b : UInt8) : Option Nat := Hex.digitValue (Char.ofNat b.toNat)

/-- The bytes that bytes stand for.  Those in `kept` stay written as they are. -/
def decodeBytes (kept : List UInt8) : List UInt8 → List UInt8
  | 37 :: a :: b :: s =>
    match digit a, digit b with
    | some high, some low =>
      let value := UInt8.ofNat (16 * high + low)
      if value ∈ kept then 37 :: a :: b :: decodeBytes kept s
      else value :: decodeBytes kept s
    | _, _ => 37 :: decodeBytes kept (a :: b :: s)
  | b :: s => b :: decodeBytes kept s
  | [] => []
termination_by s => s.length

/-- The text that an address stands for. -/
def decode (kept : List UInt8) (s : String) : String :=
  Utf8.decode (decodeBytes kept (Bytes.ofString s))

/-- A name or a value in a query, where blanks are written as plus signs. -/
def queryText (s : List Char) : String :=
  decode [] (String.ofList (s.map fun c => if c = '+' then ' ' else c))

def pair (s : List Char) : String × String :=
  (queryText (s.takeWhile (· ≠ '=')), queryText ((s.dropWhile (· ≠ '=')).drop 1))

def pairs (query : String) : List (String × String) :=
  ((query.toList.splitOn '&').filter (· ≠ [])).map pair

end Switchboard.Percent
