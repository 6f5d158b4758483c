/-! # Hexadecimal

* `Hex.digitValue` — the value of a digit of either case;
* `Hex.digit` — the digit of a value, in lower case;
* `Hex.encode`, `Hex.decode` — bytes as pairs of digits, and back. -/

namespace Switchboard.Hex

/-- The value of a hexadecimal digit of either case. -/
def digitValue (c : Char) : Option Nat :=
  if '0' ≤ c ∧ c ≤ '9' then some (c.toNat - 48)
  else if 'a' ≤ c ∧ c ≤ 'f' then some (c.toNat - 87)
  else if 'A' ≤ c ∧ c ≤ 'F' then some (c.toNat - 55)
  else none

/-- The digit of a value below sixteen, in lower case. -/
def digit (n : Nat) : Char := Nat.digitChar n

def pair (b : UInt8) : List Char := [digit (b.toNat / 16), digit (b.toNat % 16)]

def encode (bytes : List UInt8) : String := String.ofList (bytes.flatMap pair)

def decodePairs : List Char → Option (List UInt8)
  | [] => some []
  | [_] => none
  | a :: b :: s => do
    let high ← digitValue a
    let low ← digitValue b
    let rest ← decodePairs s
    return UInt8.ofNat (16 * high + low) :: rest

def decode (text : String) : Option (List UInt8) := decodePairs text.toList

end Switchboard.Hex
