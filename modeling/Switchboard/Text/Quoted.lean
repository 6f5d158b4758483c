import Switchboard.Text.Unseen

/-! # Texts shown between quotes

In messages a text is shown between double quotes, with everything that could
not be seen there written as an escape.

* `Text.isPlain` — the characters that are shown as they are;
* `Text.quoted` — a text between quotes. -/

namespace Switchboard.Text

/-- Whether a character is shown as it is. -/
def isPlain (c : Char) : Bool :=
  0x20 ≤ c.toNat ∧ isUnseen c = false

/-- A character as it is shown between quotes. -/
def shown (c : Char) : List Char :=
  if c = '"' ∨ c = '\\' then ['\\', c]
  else if c = '\n' then ['\\', 'n']
  else if c = '\r' then ['\\', 'r']
  else if c = '\t' then ['\\', 't']
  else if c.toNat = 0 then ['\\', '0']
  else if isPlain c then [c]
  else ['\\', 'u', '{'] ++ Nat.toDigits 16 c.toNat ++ ['}']

def quoted (s : String) : String :=
  String.ofList ('"' :: (s.toList.flatMap shown ++ ['"']))

end Switchboard.Text
