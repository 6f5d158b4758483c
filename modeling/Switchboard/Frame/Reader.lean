import Switchboard.Digest.Bytes
import Switchboard.Frame.Basic
import Switchboard.Limit

/-! # Reading what a client sends

Bytes come in portions that have nothing to do with where frames begin and end.

* `Frame.Fault` — what may be wrong with a frame;
* `Frame.Header` — what stands before the bytes that a frame carries;
* `Inflow` — the bytes that are still to be read, and whether a message has been begun;
* `Inflow.next?` — the next frame, as soon as all of it has come;
* `Inflow.readAll` — all frames that have come, up to the first that is at fault. -/

namespace Switchboard

namespace Frame

inductive Fault where
  /-- Clients have to mask what they send. -/
  | unmasked
  /-- A bit is set that has no meaning. -/
  | reserved
  | unknownOpcode
  | tooLong
  /-- A frame that controls the connection is too long or cut into pieces. -/
  | badControl
  /-- A piece of no message, or a new message before the last one has ended. -/
  | outOfPlace
  | notText
  | badFarewell
deriving DecidableEq, Repr

/-- The most bytes that a frame may carry. -/
def maxPayload : Nat := 65536

/-- What stands before the bytes that a frame carries. -/
structure Header where
  final : Bool
  opcode : Opcode
  length : Nat
  key : List UInt8
deriving DecidableEq, Repr

/-- So many bytes as one number, if they have come. -/
def readNumber (count : Nat) (bytes : List UInt8) : Option (Nat × List UInt8) :=
  if bytes.length < count then none
  else some (Bytes.ofBig (bytes.take count), bytes.drop count)

theorem readNumber_le {count n : Nat} {bytes rest : List UInt8}
    (h : readNumber count bytes = some (n, rest)) : rest.length ≤ bytes.length := by
  unfold readNumber at h
  split at h
  · simp at h
  · simp only [Option.some.injEq, Prod.mk.injEq] at h
    rw [← h.2, List.length_drop]
    exact Nat.sub_le _ _

/-- A length: a small one is given at once, others in the two or eight bytes that follow. -/
def readLength (short : Nat) (bytes : List UInt8) : Option (Nat × List UInt8) :=
  if short = 126 then readNumber 2 bytes
  else if short = 127 then readNumber 8 bytes
  else some (short, bytes)

theorem readLength_le {short n : Nat} {bytes rest : List UInt8}
    (h : readLength short bytes = some (n, rest)) : rest.length ≤ bytes.length := by
  unfold readLength at h
  split at h
  · exact readNumber_le h
  · split at h
    · exact readNumber_le h
    · simp only [Option.some.injEq, Prod.mk.injEq] at h
      exact Nat.le_of_eq (congrArg List.length h.2.symm)

/-- Each byte with that byte of `key` added whose turn it is, so that masking twice gives the bytes
back. -/
def mask (key bytes : List UInt8) : List UInt8 :=
  bytes.mapIdx fun i b => b ^^^ key.getD (i % 4) 0

/-- A header, once all of it has come.  A length beyond 63 bits, which none may have, is refused as
soon as it has been read itself. -/
def Header.read : List UInt8 → Except Fault (Option (Header × List UInt8))
  | first :: second :: rest =>
    if second.toNat < 128 then .error .unmasked
    else if first.toNat / 16 % 8 ≠ 0 then .error .reserved
    else
      match Opcode.ofNumber? (first.toNat % 16) with
      | none => .error .unknownOpcode
      | some opcode =>
        match readLength (second.toNat % 128) rest with
        | none => .ok none
        | some (length, rest) =>
          if Limit.bits63 ≤ length then .error .tooLong
          else if rest.length < 4 then .ok none
          else .ok (some (⟨128 ≤ first.toNat, opcode, length, rest.take 4⟩, rest.drop 4))
  | _ => .ok none

theorem Header.read_lt {bytes rest : List UInt8} {header : Header}
    (h : Header.read bytes = .ok (some (header, rest))) : rest.length < bytes.length := by
  unfold Header.read at h
  repeat' split at h
  all_goals simp only [Except.ok.injEq, Option.some.injEq, Prod.mk.injEq, reduceCtorEq] at h
  rename_i hlen _ _
  have := readLength_le hlen
  rw [← h.2]
  simp only [List.length_drop, List.length_cons]
  omega

def readText (data : List UInt8) : Except Fault String :=
  match Bytes.text? data with
  | some s => .ok s
  | none => .error .notText

/-- The farewell in a frame that closes the connection. -/
def readFarewell : List UInt8 → Except Fault (Option Farewell)
  | [] => .ok none
  | [_] => .error .badFarewell
  | high :: low :: reason =>
    let code := Bytes.ofBig [high, low]
    if Farewell.maySend code then (readText reason).map fun reason => some ⟨code, reason⟩
    else .error .badFarewell

/-- A frame that controls the connection. -/
def readControl (opcode : Opcode) (data : List UInt8) : Except Fault Frame :=
  match opcode with
  | Opcode.close => (readFarewell data).map close
  | Opcode.ping => .ok (ping data)
  | _ => .ok (pong data)

/-- A frame that carries a message or a piece of one.  `begun` says whether a message is open, which
decides whether a piece is in its place. -/
def readData (final : Bool) (opcode : Opcode) (data : List UInt8) (begun : Bool) :
    Except Fault Frame :=
  match opcode, begun with
  | Opcode.continuation, false => .error .outOfPlace
  | Opcode.continuation, true => .ok (piece (if final then .last else .middle) data)
  | _, true => .error .outOfPlace
  | Opcode.text, false =>
    if final then (readText data).map text else .ok (piece .firstOfText data)
  | _, false => if final then .ok (binary data) else .ok (piece .firstOfBinary data)

def ofPayload (header : Header) (data : List UInt8) (begun : Bool) : Except Fault Frame :=
  if header.opcode.isControl then
    if header.final ∧ data.length ≤ maxControl then readControl header.opcode data
    else .error .badControl
  else readData header.final header.opcode data begun

/-- Whether a message has been begun and not ended after a frame. -/
def leavesBegun (begun : Bool) : Frame → Bool
  | piece .last _ => false
  | piece _ _ => true
  | _ => begun

end Frame

open Switchboard.Frame (Fault Header)

/-- The bytes of a client that are still to be read; `begun` is set between the first piece of a
message and its last. -/
structure Inflow where
  pending : List UInt8
  begun : Bool
deriving DecidableEq, Repr

namespace Inflow

def start : Inflow := ⟨[], false⟩

def receive (s : Inflow) (bytes : List UInt8) : Inflow := { s with pending := s.pending ++ bytes }

/-- The next frame, once all of it has come: a frame that is too long is waited for, and only then
refused. -/
def next? (s : Inflow) : Except Fault (Option (Frame × Inflow)) :=
  match Header.read s.pending with
  | .error f => .error f
  | .ok none => .ok none
  | .ok (some (header, rest)) =>
    if rest.length < header.length then .ok none
    else if Frame.maxPayload < header.length then .error .tooLong
    else
      let data := Frame.mask header.key (rest.take header.length)
      match Frame.ofPayload header data s.begun with
      | .error f => .error f
      | .ok frame =>
        .ok (some (frame, ⟨rest.drop header.length, frame.leavesBegun s.begun⟩))

theorem next_lt {s s' : Inflow} {frame : Frame} (h : s.next? = .ok (some (frame, s'))) :
    s'.pending.length < s.pending.length := by
  unfold next? at h
  split at h
  · simp at h
  · simp at h
  · rename_i hread
    have := Header.read_lt hread
    dsimp only at h
    repeat' split at h
    all_goals simp only [Except.ok.injEq, Option.some.injEq, Prod.mk.injEq, reduceCtorEq] at h
    rw [← h.2]
    simp only [List.length_drop]
    omega

/-- All frames that have come, up to the first that is at fault.  The bytes from there on stay where
they are, so nothing is ever read behind a fault. -/
def readAll (s : Inflow) : List (Except Fault Frame) × Inflow :=
  match _h : s.next? with
  | .error f => ([.error f], s)
  | .ok none => ([], s)
  | .ok (some (frame, s')) =>
    let (frames, s'') := s'.readAll
    (.ok frame :: frames, s'')
termination_by s.pending.length
decreasing_by exact next_lt _h

end Inflow

end Switchboard
