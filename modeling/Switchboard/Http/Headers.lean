import Switchboard.Address
import Switchboard.Text.Basic

/-! # Headers of a request

* `Headers` — names and values in the order in which they came;
* `Headers.get?` — the first value of a name, whatever the case of its letters;
* `Headers.text?` — the same, if the value is text;
* `Headers.client` — the address that a request comes from. -/

namespace Switchboard

abbrev Headers := List (String × List UInt8)

namespace Headers

/-- The first value of a name. -/
def get? (headers : Headers) (name : String) : Option (List UInt8) :=
  (headers.find? fun h => Text.lowerAscii h.1 = name).map Prod.snd

/-- A value as text: characters that can be seen, spaces and tabs. -/
def textOf (value : List UInt8) : Option String :=
  if value.all fun b => b = 9 ∨ (32 ≤ b ∧ b < 127) then
    some (String.ofList (value.map fun b => Char.ofNat b.toNat))
  else none

def text? (headers : Headers) (name : String) : Option String := (headers.get? name).bind textOf

/-- The address that a request comes from: what a proxy says, the first of several, or
the other end of the connection. -/
def client (headers : Headers) (peer : Option Address) : String :=
  match headers.text? "x-forwarded-for" with
  | some forwarded => Text.trim (String.ofList (forwarded.toList.takeWhile (· ≠ ',')))
  | none =>
    match headers.text? "x-real-ip" with
    | some address => address
    | none => (peer.map Address.render).getD "unknown"

end Headers

end Switchboard
