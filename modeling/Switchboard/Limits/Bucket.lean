import Switchboard.Calendar

/-! # Limiting how fast one connection may send

* `Bucket` — tokens that are taken one for each frame and come back with time;
* `Bucket.take` — whether a frame is let through, and the bucket after it. -/

namespace Switchboard

/-- A bucket of tokens, of which it holds `burst`; `perSecond` come back in a second, the last ones
at `refilled`. -/
structure Bucket where
  tokens : Nat
  capacity : Nat
  perSecond : Nat
  refilled : Instant
deriving DecidableEq, Repr

namespace Bucket

def full (capacity perSecond : Nat) (now : Instant) : Bucket :=
  ⟨capacity, capacity, perSecond, now⟩

/-- The whole tokens that have come back since `refilled`. -/
def due (b : Bucket) (now : Instant) : Nat := (now - b.refilled) * b.perSecond / 1000

/-- Puts the tokens in that are `due`.  While there are none `refilled` stays, so that time goes on
counting; otherwise it is `now`, and what was on the way to the next token is lost. -/
def refill (b : Bucket) (now : Instant) : Bucket :=
  if 0 < b.due now then
    { b with tokens := min b.capacity (b.tokens + b.due now), refilled := now }
  else b

/-- Takes a token for a frame, if there is one after `refill`. -/
def take (b : Bucket) (now : Instant) : Bool × Bucket :=
  let b := b.refill now
  if 0 < b.tokens then (true, { b with tokens := b.tokens - 1 }) else (false, b)

end Bucket

end Switchboard
