import Switchboard.Frame.Reader
import Switchboard.Hub.Membership
import Switchboard.Hub.Route
import Switchboard.Limits.Bucket

/-! # Sockets

A socket is the relay's end of a connection.  It registers with the hub, passes on what
the client says, sends what the hub has put into its outbox, and looks from time to
time whether the client is still there.

* `Socket` — a socket, with the phase of its life;
* `Socket.start` — a socket opens and registers;
* `Socket.hear`, `Socket.receive` — something comes from the client;
* `Socket.take?`, `Socket.drain` — something comes from the hub;
* `Socket.beat` — time has passed;
* `Socket.quit`, `Socket.finish` — the client is gone, and the socket too;
* `Socket.Move`, `Socket.step` — any one of these. -/

namespace Switchboard

/-- The phases of the life of a socket. -/
inductive Socket.Phase where
  | running
  /-- The socket has been told to stop, and does nothing any more. -/
  | stopping
  /-- The socket is no longer registered, and nobody looks into its outbox. -/
  | stopped
deriving DecidableEq, Repr

/-- A socket, with an `id` once the hub has let it in.  `heard` is when the client was last heard
of, and `nextBeat` when that is looked at next. -/
structure Socket where
  principal : Principal
  outbox : OutboxId
  id : Option ConnectionId
  phase : Socket.Phase
  inflow : Inflow
  heard : Instant
  nextBeat : Instant
  bucket : Bucket
deriving DecidableEq, Repr

namespace Socket

/-- What a socket has done: the hub and the socket afterwards, and the frames it sent. -/
structure Outcome where
  hub : Hub
  socket : Socket
  sent : List Frame

def Outcome.after (before : List Frame) (out : Outcome) : Outcome :=
  { out with sent := before ++ out.sent }

def quit (s : Socket) : Socket := if s.phase = .running then { s with phase := .stopping } else s

def hearOf (s : Socket) (now : Instant) : Socket := { s with heard := now }

/-- Tells the client why it is sent away, and stops. -/
def sendAway (h : Hub) (s : Socket) (reason : String) : Outcome :=
  ⟨h, s.quit, [.close (some (.policy reason))]⟩

/-! ## The beginning -/

/-- A socket before it registers, with a full bucket and the client just heard of. -/
def fresh (config : Config) (now : Instant) (c : Connection) : Socket where
  principal := c.principal
  outbox := c.outbox
  id := none
  phase := .running
  inflow := .start
  heard := now
  nextBeat := now + config.heartbeatMs
  bucket := .full config.burst config.perSecond now

/-- A socket opens its outbox and registers.  One that the hub does not let in sends its client away
with the reason, without ever having an `id`. -/
def start (h : Hub) (now : Instant) (c : Connection) : Outcome :=
  -- the outbox is there first, as the hub puts the greeting into it
  let s := fresh h.config now c
  match (h.setOutbox c.outbox (.fresh h.config.outboxCapacity)).register c with
  | (h, .ok id) => ⟨h, { s with id := some id }, []⟩
  | (h, .error e) => sendAway h s e.closeReason

/-! ## From the client -/

def rateLimited : String := "RATE_LIMITED"

def tooFast (text : String) : Notice :=
  .error (Message.peekId text) rateLimited "rate limit exceeded"

/-- A text of the client is routed if the bucket has a token for it, and answered with `tooFast` if
not. -/
def hearText (h : Hub) (s : Socket) (now : Instant) (text : String) : Outcome :=
  match s.id with
  | none => ⟨h, s, []⟩
  | some id =>
    match s.bucket.take now with
    | (false, bucket) => ⟨h, { s with bucket }, [.text (tooFast text).render]⟩
    | (true, bucket) =>
      match h.route id s.principal.role text with
      | (h, none) => ⟨h, { s with bucket }, []⟩
      | (h, some reply) => ⟨h, { s with bucket }, [.text reply.render]⟩

/-- A frame of the client.  Messages in pieces are not understood, and do not even count as a sign
of life. -/
def hearFrame (h : Hub) (s : Socket) (now : Instant) : Frame → Outcome
  | .text text => hearText h (s.hearOf now) now text
  | .binary _ => ⟨h, s.hearOf now, [.text (Notice.invalid .binary none).render]⟩
  | .ping data => ⟨h, s.hearOf now, [.pong data]⟩
  | .pong _ => ⟨h, s.hearOf now, []⟩
  | .close farewell => ⟨h, s.quit, [.close farewell]⟩
  | .piece _ _ => ⟨h, s, []⟩

/-- A frame of the client, or bytes that are none, which end the connection.  A socket that has been
told to stop hears nothing. -/
def hear (h : Hub) (s : Socket) (now : Instant) (f : Except Frame.Fault Frame) : Outcome :=
  if s.phase = .running then
    match f with
    | .ok frame => hearFrame h s now frame
    | .error _ => ⟨h, s.quit, []⟩
  else ⟨h, s, []⟩

def hearAll (h : Hub) (s : Socket) (now : Instant) : List (Except Frame.Fault Frame) → Outcome
  | [] => ⟨h, s, []⟩
  | f :: fs =>
    let out := hear h s now f
    (hearAll out.hub out.socket now fs).after out.sent

/-- Bytes of the client, which may end in the middle of a frame. -/
def receive (h : Hub) (s : Socket) (now : Instant) (bytes : List UInt8) : Outcome :=
  let (frames, inflow) := (s.inflow.receive bytes).readAll
  hearAll h { s with inflow } now frames

/-! ## From the hub -/

/-- Does what an item says that has been taken out: a text is sent, and its room given back only
then; a close sends the client away. -/
def obey (h : Hub) (s : Socket) : Outbox.Item → Outcome
  | .text text => ⟨h.setOutbox s.outbox (h.outbox s.outbox).release, s, [.text text]⟩
  | .close reason => sendAway h s reason

/-- Takes one item out of the outbox and obeys it. -/
def take? (h : Hub) (s : Socket) : Option Outcome :=
  if s.phase = .running then
    (h.outbox s.outbox).take?.map fun (item, b) => obey (h.setOutbox s.outbox b) s item
  else none

theorem outbox_setOutbox (h : Hub) (o : OutboxId) (b : Outbox) :
    (h.setOutbox o b).outbox o = b := by
  simp [Hub.setOutbox, Hub.outbox]

theorem outbox_obey (h : Hub) (s : Socket) (item : Outbox.Item) :
    ((obey h s item).hub.outbox (obey h s item).socket.outbox).waiting
      = (h.outbox s.outbox).waiting := by
  cases item with
  | text text =>
    simp only [obey, outbox_setOutbox]
    rfl
  | close reason =>
    simp only [obey, sendAway, quit]
    split <;> rfl

theorem take_lt {h : Hub} {s : Socket} {out : Outcome} (ht : s.take? h = some out) :
    (out.hub.outbox out.socket.outbox).waiting.length < (h.outbox s.outbox).waiting.length := by
  unfold take? at ht
  split at ht
  · obtain ⟨⟨item, b⟩, hb, rfl⟩ := Option.map_eq_some_iff.1 ht
    rw [outbox_obey, outbox_setOutbox]
    exact Outbox.length_waiting_lt hb
  · simp at ht

/-- Takes out and obeys everything, until told to stop. -/
def drain (h : Hub) (s : Socket) : Outcome :=
  match _h : s.take? h with
  | none => ⟨h, s, []⟩
  | some out => (drain out.hub out.socket).after out.sent
termination_by (h.outbox s.outbox).waiting.length
decreasing_by exact take_lt _h

/-! ## Time -/

def heartbeat : List UInt8 := Bytes.ofString "heartbeat"

def isSilent (config : Config) (s : Socket) (now : Instant) : Bool :=
  s.heard + config.timeoutMs < now

def isDue (s : Socket) (now : Instant) : Bool :=
  s.phase = .running ∧ s.id.isSome ∧ s.nextBeat ≤ now

/-- When `nextBeat` has come the client is pinged, or given up if it has been silent for too
long. -/
def beat (h : Hub) (s : Socket) (now : Instant) : Outcome :=
  if s.isDue now then
    -- counted from when the timer was due, not from `now`, so it keeps its pace
    let s := { s with nextBeat := s.nextBeat + h.config.heartbeatMs }
    if s.isSilent h.config now then ⟨h, s.quit, []⟩ else ⟨h, s, [.ping heartbeat]⟩
  else ⟨h, s, []⟩

/-! ## The end -/

/-- A socket that has been told to stop leaves the hub, and what waits in its outbox is lost. -/
def finish (h : Hub) (s : Socket) : Outcome :=
  if s.phase = .stopping then
    let h := match s.id with
      | some id => (h.deregister id).1
      | none => h
    -- until here the hub could still put something in
    ⟨h.setOutbox s.outbox (h.outbox s.outbox).stop, { s with phase := .stopped }, []⟩
  else ⟨h, s, []⟩

/-! ## One thing after the other -/

/-- What a socket may do at one moment after it has started. -/
inductive Move where
  | hear (frame : Except Frame.Fault Frame)
  | receive (bytes : List UInt8)
  /-- The client's stream ends, or breaks. -/
  | quit
  | take
  | beat
  | finish

def step (h : Hub) (s : Socket) (now : Instant) : Move → Outcome
  | .hear frame => s.hear h now frame
  | .receive bytes => s.receive h now bytes
  | .quit => ⟨h, s.quit, []⟩
  | .take => (s.take? h).getD ⟨h, s, []⟩
  | .beat => s.beat h now
  | .finish => s.finish h

end Socket

end Switchboard
