import Switchboard.Digest.Sha256

/-! # SHA-1

Good enough to show that an answer belongs to a question, and for nothing else.

* `Sha1.digest` — the 20 bytes that stand for a message. -/

namespace Switchboard.Sha1

/-- The five words that are carried from block to block. -/
structure State where
  a : UInt32
  b : UInt32
  c : UInt32
  d : UInt32
  e : UInt32
deriving DecidableEq

def initial : State := ⟨0x67452301, 0xefcdab89, 0x98badcfe, 0x10325476, 0xc3d2e1f0⟩

def rotate (x n : UInt32) : UInt32 := (x <<< n) ||| (x >>> (32 - n))

/-- The words of a block carried on to as many as there are rounds.  `recent` holds the
last sixteen, the latest first. -/
def schedule : Nat → List UInt32 → List UInt32
  | 0, _ => []
  | count + 1, recent =>
    let w (i : Nat) : UInt32 := recent.getD i 0
    w 15 :: schedule count (rotate (w 2 ^^^ w 7 ^^^ w 13 ^^^ w 15) 1 :: recent.take 15)

/-- How three words are mixed in a round, and its constant. -/
def mix (round : Nat) (x y z : UInt32) : UInt32 × UInt32 :=
  if round < 20 then ((x &&& y) ||| (~~~x &&& z), 0x5a827999)
  else if round < 40 then (x ^^^ y ^^^ z, 0x6ed9eba1)
  else if round < 60 then ((x &&& y) ||| (x &&& z) ||| (y &&& z), 0x8f1bbcdc)
  else (x ^^^ y ^^^ z, 0xca62c1d6)

def round (s : State) (number : Nat) (w : UInt32) : State :=
  let (mixed, constant) := mix number s.b s.c s.d
  ⟨rotate s.a 5 + mixed + s.e + constant + w, s.a, rotate s.b 30, s.c, s.d⟩

def compress (s : State) (block : List UInt8) : State :=
  let words := (Bytes.chunks 4 16 block).map fun b => UInt32.ofNat (Bytes.ofBig b)
  let t := ((List.range 80).zip (schedule 80 words.reverse)).foldl (fun t nw => round t nw.1 nw.2) s
  ⟨s.a + t.a, s.b + t.b, s.c + t.c, s.d + t.d, s.e + t.e⟩

def digest (message : List UInt8) : List UInt8 :=
  let padded := Sha256.pad message
  let s := (Bytes.chunks 64 (padded.length / 64) padded).foldl compress initial
  [s.a, s.b, s.c, s.d, s.e].flatMap fun w => Bytes.big 4 w.toNat

end Switchboard.Sha1
