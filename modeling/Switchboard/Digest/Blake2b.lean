import Switchboard.Digest.Bytes
import Switchboard.Digest.Words
import Switchboard.Limit

/-! # BLAKE2b

* `Blake2b.digest` — the bytes, 64 at most, that stand for a message. -/

namespace Switchboard.Blake2b

/-- The words before the first block: fractions of the square roots of eight primes. -/
def initial : List UInt64 :=
  [0x6a09e667f3bcc908, 0xbb67ae8584caa73b, 0x3c6ef372fe94f82b, 0xa54ff53a5f1d36f1,
   0x510e527fade682d1, 0x9b05688c2b3e6c1f, 0x1f83d9abfb41bd6b, 0x5be0cd19137e2179]

/-- The order in which the rounds take the words of a block. -/
def orders : List (List Nat) :=
  [[0, 1, 2, 3, 4, 5, 6, 7, 8, 9, 10, 11, 12, 13, 14, 15],
   [14, 10, 4, 8, 9, 15, 13, 6, 1, 12, 0, 2, 11, 7, 5, 3],
   [11, 8, 12, 0, 5, 2, 15, 13, 10, 14, 3, 6, 7, 1, 9, 4],
   [7, 9, 3, 1, 13, 12, 11, 14, 2, 6, 5, 10, 4, 0, 15, 8],
   [9, 0, 5, 7, 2, 4, 10, 15, 14, 1, 11, 12, 6, 8, 3, 13],
   [2, 12, 6, 10, 0, 11, 8, 3, 4, 13, 7, 5, 15, 14, 1, 9],
   [12, 5, 1, 15, 14, 13, 4, 10, 0, 7, 6, 3, 9, 2, 8, 11],
   [13, 11, 7, 14, 12, 1, 3, 9, 5, 0, 15, 4, 8, 6, 2, 10],
   [6, 15, 14, 9, 11, 3, 0, 8, 12, 2, 13, 7, 1, 4, 10, 5],
   [10, 2, 8, 4, 7, 6, 1, 5, 15, 11, 9, 14, 3, 12, 13, 0],
   [0, 1, 2, 3, 4, 5, 6, 7, 8, 9, 10, 11, 12, 13, 14, 15],
   [14, 10, 4, 8, 9, 15, 13, 6, 1, 12, 0, 2, 11, 7, 5, 3]]

/-- Mixes two words of the block into four words. -/
def mix (x y a b c d : UInt64) : Words.Four :=
  let a := a + b + x
  let d := Words.rotate (d ^^^ a) 32
  let c := c + d
  let b := Words.rotate (b ^^^ c) 24
  let a := a + b + y
  let d := Words.rotate (d ^^^ a) 16
  let c := c + d
  let b := Words.rotate (b ^^^ c) 63
  ⟨a, b, c, d⟩

def round (block : Array UInt64) (v : Words) (order : List Nat) : Words :=
  let ws := order.map fun i => block.getD i 0
  v.round fun i => mix (ws.getD (2 * i) 0) (ws.getD (2 * i + 1) 0)

/-- Takes in a block of 128 bytes; `count` is the number of bytes so far, and the
last block is marked as such. -/
def compress (h : List UInt64) (count : Nat) (last : Bool) (bytes : List UInt8) : List UInt64 :=
  let block := ((Bytes.chunks 8 16 bytes).map fun b => UInt64.ofNat (Bytes.ofLittle b)).toArray
  let marks : List UInt64 :=
    [UInt64.ofNat count, UInt64.ofNat (count / Limit.bits64),
      if last then 0xffffffffffffffff else 0, 0]
  let start := h ++ initial.take 4 ++ ((initial.drop 4).zip marks).map fun p => p.1 ^^^ p.2
  let v := (orders.foldl (round block) (Words.ofList start)).toList
  (h.zip ((v.take 8).zip (v.drop 8))).map fun p => p.1 ^^^ p.2.1 ^^^ p.2.2

/-- Takes in the blocks of a message, the last of which may be short. -/
def absorb (h : List UInt64) (done : Nat) : Nat → List UInt8 → List UInt64
  | 0, rest =>
    compress h (done + rest.length) true (rest ++ List.replicate (128 - rest.length) 0)
  | blocks + 1, rest =>
    absorb (compress h (done + 128) false (rest.take 128)) (done + 128) blocks (rest.drop 128)

/-- The first `size` bytes of the digest of a message; the digest depends on `size`. -/
def digest (size : Nat) (message : List UInt8) : List UInt8 :=
  let h :=
    match initial with
    | w :: ws => (w ^^^ 0x01010000 ^^^ UInt64.ofNat size) :: ws
    | [] => []
  let words := absorb h 0 ((message.length - 1) / 128) message
  (words.flatMap fun w => Bytes.little 8 w.toNat).take size

end Switchboard.Blake2b
