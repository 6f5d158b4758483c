/-! # Frames

What goes over a connection goes in frames.  A message may be cut into several, and
between its pieces only frames that control the connection may come.

* `Frame` — one frame with what it carries;
* `Frame.Opcode` — the number that tells the kinds of frames apart;
* `Frame.opcode`, `Frame.isFinal` — the kind of a frame, and whether it ends a message;
* `Farewell` — why a connection is closed. -/

namespace Switchboard

/-- Why a connection is closed: a code, and a reason in words, which may be empty. -/
structure Farewell where
  code : Nat
  reason : String
deriving DecidableEq, Repr

/-- Whether a code may go over a connection.  The others stand for what happens without a
farewell, are kept for later, or mean nothing at all. -/
def Farewell.maySend (code : Nat) : Bool :=
  (1000 ≤ code ∧ code ≤ 1003) ∨ (1007 ≤ code ∧ code ≤ 1014) ∨ (3000 ≤ code ∧ code ≤ 4999)

/-- The code that tells that somebody was sent away because of the rules. -/
def Farewell.policyCode : Nat := 1008

/-- The farewell to somebody who is sent away. -/
def Farewell.policy (reason : String) : Farewell := ⟨policyCode, reason⟩

/-- The place of a piece in its message. -/
inductive Frame.Place where
  | firstOfText
  | firstOfBinary
  | middle
  | last
deriving DecidableEq, Repr

inductive Frame where
  | text (text : String)
  | binary (data : List UInt8)
  | ping (data : List UInt8)
  | pong (data : List UInt8)
  | close (farewell : Option Farewell)
  | piece (place : Frame.Place) (data : List UInt8)
deriving DecidableEq, Repr

namespace Frame

/-- The kinds of frames that have numbers. -/
inductive Opcode where
  | continuation
  | text
  | binary
  | close
  | ping
  | pong
deriving DecidableEq, Repr

namespace Opcode

def number : Opcode → Nat
  | continuation => 0
  | text => 1
  | binary => 2
  | close => 8
  | ping => 9
  | pong => 10

def ofNumber? : Nat → Option Opcode
  | 0 => some continuation
  | 1 => some text
  | 2 => some binary
  | 8 => some close
  | 9 => some ping
  | 10 => some pong
  | _ => none

/-- Whether frames of a kind control the connection.  They may come between the pieces of
a message, and none of them is cut into pieces itself. -/
def isControl : Opcode → Bool
  | close | ping | pong => true
  | continuation | text | binary => false

end Opcode

/-- The most bytes that a frame that controls the connection carries. -/
def maxControl : Nat := 125

def opcode : Frame → Opcode
  | text _ => .text
  | binary _ => .binary
  | ping _ => .ping
  | pong _ => .pong
  | close _ => .close
  | piece .firstOfText _ => .text
  | piece .firstOfBinary _ => .binary
  | piece .middle _ => .continuation
  | piece .last _ => .continuation

def isFinal : Frame → Bool
  | piece .last _ => true
  | piece _ _ => false
  | _ => true

end Frame

end Switchboard
