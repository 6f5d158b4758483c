import Switchboard.Limit
import Switchboard.Limits.Bucket

/-! # Buckets in words

A machine keeps the numbers of a bucket in words of 32 bits.  What has come back it works out
in a word of 128 bits, and what does not fit into 32 bits afterwards counts as the largest
number that does.

* `Bucket.Words` — a bucket whose numbers are words;
* `Bucket.Words.take` — whether a frame is let through, worked out in words. -/

namespace Switchboard.Bucket

/-- No clock measures a longer time: as many seconds as 64 bits count, in milliseconds. -/
def longest : Nat := Limit.bits64 * 1000

/-- A bucket whose numbers are words of 32 bits. -/
structure Words where
  tokens : UInt32
  capacity : UInt32
  perSecond : UInt32
  refilled : Instant
deriving DecidableEq, Repr

namespace Words

def full (capacity perSecond : UInt32) (now : Instant) : Words :=
  ⟨capacity, capacity, perSecond, now⟩

def largest : UInt32 := 4294967295

/-- A long word as a short one, the largest if it does not fit. -/
def clip (n : BitVec 128) : UInt32 :=
  if n < BitVec.ofNat 128 Limit.bits32 then .ofBitVec (n.setWidth 32) else largest

/-- The sum of two words, the largest if it does not fit. -/
def plus (m n : UInt32) : UInt32 := if m + n < m then largest else m + n

def due (w : Words) (now : Instant) : BitVec 128 :=
  BitVec.ofNat 128 (now - w.refilled) * w.perSecond.toBitVec.setWidth 128 / 1000

def refill (w : Words) (now : Instant) : Words :=
  if 0 < w.due now then
    { w with tokens := min w.capacity (plus w.tokens (clip (w.due now))), refilled := now }
  else w

def take (w : Words) (now : Instant) : Bool × Words :=
  let w := w.refill now
  if 0 < w.tokens then (true, { w with tokens := w.tokens - 1 }) else (false, w)

/-- The bucket with its words read as numbers. -/
def numbers (w : Words) : Bucket :=
  ⟨w.tokens.toNat, w.capacity.toNat, w.perSecond.toNat, w.refilled⟩

end Words

end Switchboard.Bucket
