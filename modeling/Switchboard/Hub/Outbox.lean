/-! # Outboxes

The relay never writes to a connection itself: it puts what it has to say into the
connection's outbox, and the connection takes one item after the other.  Texts wait
in a queue of limited length; a close may always be put in.

* `Outbox` — everything ever put in, and how much of it has been taken out;
* `Outbox.pushText`, `Outbox.pushClose` — putting something in;
* `Outbox.take?` — taking out what has waited longest;
* `Outbox.handle?`, `Outbox.handleAll` — taking out and being done with it. -/

namespace Switchboard

/-- What can be put into an outbox. -/
inductive Outbox.Item where
  | text (text : String)
  /-- The connection is to be closed, for a reason. -/
  | close (reason : String)
deriving DecidableEq, Repr

/-- The outbox of a connection: `sent` is all that was ever put in, of which the first `taken` have
been taken out.  `depth` counts the texts that take up room, also those taken out, until
`release`. -/
structure Outbox where
  capacity : Nat
  depth : Nat
  live : Bool
  sent : List Outbox.Item
  taken : Nat
deriving DecidableEq, Repr

namespace Outbox

inductive Refusal where
  | full
  | closed
deriving DecidableEq, Repr

def Refusal.message : Refusal → String
  | .full => "send queue full"
  | .closed => "connection closed"

def fresh (capacity : Nat) : Outbox := ⟨capacity, 0, true, [], 0⟩

/-- The outbox of a connection that is not there.  It takes nothing. -/
def dead : Outbox := ⟨0, 0, false, [], 0⟩

/-- What has been put in and not yet taken out.  Nobody looks into the outbox of a connection that
has ended. -/
def waiting (b : Outbox) : List Item := if b.live then b.sent.drop b.taken else []

/-- Puts a text in, if fewer than `capacity` take up room. -/
def pushText (b : Outbox) (text : String) : Except Refusal Outbox :=
  if b.live = false then .error .closed
  else if b.capacity ≤ b.depth then .error .full
  else .ok { b with depth := b.depth + 1, sent := b.sent ++ [.text text] }

/-- Puts a close in.  It takes up no room, so it gets in behind texts that fill the outbox. -/
def pushClose (b : Outbox) (reason : String) : Outbox :=
  if b.live then { b with sent := b.sent ++ [.close reason] } else b

/-- The connection is done with a text, which gives its room back. -/
def release (b : Outbox) : Outbox := { b with depth := b.depth - 1 }

def stop (b : Outbox) : Outbox := { b with live := false }

/-- Takes out what has waited longest, and leaves `depth` as it is. -/
def take? (b : Outbox) : Option (Item × Outbox) :=
  match b.waiting with
  | [] => none
  | item :: _ => some (item, { b with taken := b.taken + 1 })

theorem length_waiting_lt {b b' : Outbox} {item : Item} (h : b.take? = some (item, b')) :
    b'.waiting.length < b.waiting.length := by
  unfold take? at h
  split at h
  · simp at h
  · rename_i first rest hw
    simp only [Option.some.injEq, Prod.mk.injEq] at h
    rw [hw, ← h.2]
    unfold waiting at hw ⊢
    split at hw
    · rename_i hl
      have := congrArg List.length hw
      simp only [hl, if_true, List.length_drop, List.length_cons] at this ⊢
      omega
    · simp at hw

/-- An outbox after its connection has done what an item says: it ends with a close, and gives back
the room of a text if `release` is set. -/
def done (b : Outbox) (release : Bool) : Item → Outbox
  | .text _ => if release then b.release else b
  | .close _ => b.stop

theorem waiting_done (b : Outbox) (release : Bool) (item : Item) :
    (b.done release item).waiting.length ≤ b.waiting.length := by
  cases item with
  | text text => cases release <;> exact Nat.le_refl _
  | close reason => simp [done, stop, waiting]

/-- `take?` and `done` in one. -/
def handle? (b : Outbox) (release : Bool) : Option (Item × Outbox) :=
  b.take?.map fun (item, b) => (item, b.done release item)

theorem length_waiting_lt_of_handle {b b' : Outbox} {release : Bool} {item : Item}
    (h : b.handle? release = some (item, b')) : b'.waiting.length < b.waiting.length := by
  unfold handle? at h
  obtain ⟨⟨first, c⟩, hc, heq⟩ := Option.map_eq_some_iff.1 h
  simp only [Prod.mk.injEq] at heq
  have := waiting_done c release first
  have := length_waiting_lt hc
  rw [← heq.2]
  omega

/-- Takes out everything, one item after the other. -/
def handleAll (b : Outbox) (release : Bool) : List Item × Outbox :=
  match _h : b.handle? release with
  | none => ([], b)
  | some (item, b') =>
    let (items, b'') := b'.handleAll release
    (item :: items, b'')
termination_by b.waiting.length
decreasing_by exact length_waiting_lt_of_handle _h

end Outbox

end Switchboard
