import Switchboard.Digest.Bytes
import Switchboard.Frame.Reader

/-! # Writing frames

* `Frame.payload` — the bytes that a frame carries;
* `Frame.write` — a frame as bytes, masked by a key if there is one.  Clients have to mask
  their frames, the relay does not. -/

namespace Switchboard.Frame

/-- The bytes of a farewell: the code, and the reason after it. -/
def farewellBytes (farewell : Farewell) : List UInt8 :=
  Bytes.big 2 farewell.code ++ Bytes.ofString farewell.reason

def payload : Frame → List UInt8
  | text s => Bytes.ofString s
  | binary data => data
  | ping data => data
  | pong data => data
  | close farewell => (farewell.map farewellBytes).getD []
  | piece _ data => data

/-- A length: a small one at once, others in the two or eight bytes that follow. -/
def lengthBytes (mark length : Nat) : List UInt8 :=
  if length < 126 then [UInt8.ofNat (mark + length)]
  else if length < 65536 then UInt8.ofNat (mark + 126) :: Bytes.big 2 length
  else UInt8.ofNat (mark + 127) :: Bytes.big 8 length

def write (f : Frame) (key : Option (List UInt8)) : List UInt8 :=
  let first := UInt8.ofNat ((if f.isFinal then 128 else 0) + f.opcode.number)
  match key with
  | some key => first :: lengthBytes 128 f.payload.length ++ key ++ mask key f.payload
  | none => first :: lengthBytes 0 f.payload.length ++ f.payload

end Switchboard.Frame
