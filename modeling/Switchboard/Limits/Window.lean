import Switchboard.Calendar
import Switchboard.Table

/-! # Limiting how often one address may call

* `WindowLimiter` — counts the calls of every address in windows of fixed length;
* `WindowLimiter.check` — whether a call is let through, and the limiter after it;
* `WindowLimiter.purge` — forgets the windows that are over;
* `WindowLimiter.step` — one of the two, and `WindowLimiter.allowsAt` whether it lets a call of
  some address through. -/

namespace Switchboard

/-- How many calls one address has made since its window began at `start`. -/
structure WindowLimiter.Count where
  calls : Nat
  start : Instant
deriving DecidableEq, Repr

/-- The calls of all addresses. -/
structure WindowLimiter where
  maxCalls : Nat
  windowMs : Nat
  counts : Table String WindowLimiter.Count

namespace WindowLimiter

def empty (maxCalls windowMs : Nat) : WindowLimiter := ⟨maxCalls, windowMs, ∅⟩

def isOver (windowMs : Nat) (now : Instant) (c : Count) : Bool := windowMs < now - c.start

/-- One more call of an address.  The call after the end of a window begins the next one, and is let
through without a look at `maxCalls`. -/
def Count.step (maxCalls windowMs : Nat) (now : Instant) (c : Count) : Bool × Count :=
  if isOver windowMs now c then (true, ⟨1, now⟩)
  else if c.calls < maxCalls then (true, ⟨c.calls + 1, c.start⟩)
  else (false, c)

/-- One more call of the address `key`, which may be its first. -/
def check (l : WindowLimiter) (key : String) (now : Instant) : Bool × WindowLimiter :=
  -- an address that is not there starts with no calls, in a window that begins now
  let (allowed, c) := (l.counts.getD key ⟨0, now⟩).step l.maxCalls l.windowMs now
  (allowed, { l with counts := l.counts.insert key c })

/-- Forgets the windows that are over, so that idle addresses cost nothing. -/
def purge (l : WindowLimiter) (now : Instant) : WindowLimiter :=
  { l with counts := l.counts.filter fun _ c => isOver l.windowMs now c = false }

inductive Action where
  | check (key : String)
  | purge
deriving DecidableEq, Repr

/-- The limiter after an action. -/
def step (l : WindowLimiter) (now : Instant) : Action → WindowLimiter
  | .check key => (l.check key now).2
  | .purge => l.purge now

/-- Whether an action is a call of an address, and is let through. -/
def allowsAt (l : WindowLimiter) (key : String) (now : Instant) : Action → Bool
  | .check key' => key' = key ∧ (l.check key' now).1 = true
  | .purge => false

end WindowLimiter

end Switchboard
