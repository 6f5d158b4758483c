import Switchboard.Proofs.Socket.Transition

/-! # When a client was last heard of

A socket keeps two times: when its client was last heard of, and when that is looked at next.
Texts, binary frames, pings and pongs are signs that the client is there, whatever the hub makes of
them and whether the bucket lets them pass or not.  Closing the connection is none, nor is a piece
of a message.

* `Frame.isSign`, `signs`, `Move.isSign` — signs in a frame, in several, and in a move;
* `timed_step` — what a move does to the two times of a socket that keeps running;
* `beat_of_due` — looking whether the client is there.
-/

namespace Switchboard

/-- A frame shows that the client is there. -/
def Frame.isSign : Frame → Bool
  | .text _ | .binary _ | .ping _ | .pong _ => true
  | .close _ | .piece _ _ => false

namespace Socket

/-- Some frames show that the client is there, before one of them ends the connection. -/
def signs : List (Except Frame.Fault Frame) → Bool
  | [] | .error _ :: _ | .ok (.close _) :: _ => false
  | .ok f :: fs => f.isSign || signs fs

/-- What a move brings from the client shows that it is there. -/
def Move.isSign (s : Socket) : Move → Bool
  | .hear f => signs [f]
  | .receive bytes => signs (s.inflow.receive bytes).readAll.1
  | .quit | .take | .beat | .finish => false

/-- What becomes of the two times of a socket that has been told nothing, or something that shows
that its client is there. -/
structure Timed (s s' : Socket) (now : Instant) (sign : Bool) : Prop where
  heard : s'.heard = if sign then now else s.heard
  nextBeat : s'.nextBeat = s.nextBeat

variable {h : Hub} {s s' : Socket} {now : Instant} {m : Move}

theorem Timed.same (hheard : s'.heard = s.heard) (hnext : s'.nextBeat = s.nextBeat) :
    Timed s s' now false := ⟨hheard, hnext⟩

/-! ## Frames -/

theorem hearText_timed (h : Hub) (s : Socket) (now : Instant) (text : String) :
    Timed s (s.hearText h now text).socket now false ∧
      (s.hearText h now text).socket.phase = s.phase := by
  unfold hearText
  split
  · exact ⟨.same rfl rfl, rfl⟩
  · split
    · exact ⟨.same rfl rfl, rfl⟩
    · split <;> exact ⟨.same rfl rfl, rfl⟩

theorem quit_not_running (s : Socket) : s.quit.phase ≠ .running := by
  unfold quit
  split
  · simp
  · assumption

/-- One of some frames after the other: the first one ends the connection, or the socket goes on
with the others. -/
theorem hear_timed (h : Hub) (now : Instant) (hrunning : s.phase = .running)
    (f : Except Frame.Fault Frame) :
    (s.hear h now f).socket.phase ≠ .running ∨
      ∃ frame, f = .ok frame ∧ (∀ farewell, frame ≠ .close farewell) ∧
        (s.hear h now f).socket.phase = .running ∧
        Timed s (s.hear h now f).socket now frame.isSign := by
  unfold hear
  rw [if_pos hrunning]
  match f with
  | .error _ => exact .inl (quit_not_running s)
  | .ok (.close _) => exact .inl (quit_not_running s)
  | .ok (.text text) =>
    obtain ⟨htimed, hphase⟩ := hearText_timed h (s.hearOf now) now text
    refine .inr ⟨.text text, rfl, by simp, hphase.trans hrunning, ?_, htimed.nextBeat⟩
    exact htimed.heard
  | .ok (.binary data) => exact .inr ⟨.binary data, rfl, by simp, hrunning, rfl, rfl⟩
  | .ok (.ping data) => exact .inr ⟨.ping data, rfl, by simp, hrunning, rfl, rfl⟩
  | .ok (.pong data) => exact .inr ⟨.pong data, rfl, by simp, hrunning, rfl, rfl⟩
  | .ok (.piece place data) => exact .inr ⟨.piece place data, rfl, by simp, hrunning, rfl, rfl⟩

theorem hearAll_of_not_running (hs : s.phase ≠ .running) (fs : List (Except Frame.Fault Frame)) :
    (s.hearAll h now fs).socket.phase ≠ .running := by
  induction fs generalizing h s with
  | nil => exact hs
  | cons f fs ih =>
    have hsame : s.hear h now f = ⟨h, s, []⟩ := if_neg hs
    rw [hearAll, hsame]
    exact ih hs

theorem signs_cons {frame : Frame} (hopen : ∀ farewell, frame ≠ .close farewell)
    (fs : List (Except Frame.Fault Frame)) :
    signs (.ok frame :: fs) = (frame.isSign || signs fs) := by
  cases frame with
  | close farewell => exact absurd rfl (hopen farewell)
  | _ => rfl

theorem hearAll_timed (h : Hub) (now : Instant) (hrunning : s.phase = .running)
    (fs : List (Except Frame.Fault Frame)) (hstill : (s.hearAll h now fs).socket.phase = .running) :
    Timed s (s.hearAll h now fs).socket now (signs fs) := by
  induction fs generalizing h s with
  | nil => exact .same rfl rfl
  | cons f fs ih =>
    rw [hearAll] at hstill ⊢
    obtain hover | ⟨frame, rfl, hopen, hgoes, hfirst⟩ := hear_timed h now hrunning f
    · exact absurd hstill (hearAll_of_not_running hover fs)
    · have hrest := ih _ hgoes hstill
      refine ⟨?_, hrest.nextBeat.trans hfirst.nextBeat⟩
      rw [signs_cons hopen]
      refine hrest.heard.trans ?_
      -- the last sign is among the others, or it is the first frame
      cases signs fs with
      | true => simp
      | false => simpa using hfirst.heard

/-! ## Moves -/

/-- All that becomes of the two times at a move, if the socket is running before and after it and
does not look at them. -/
theorem timed_step (hrunning : s.phase = .running) (hbeat : m ≠ .beat)
    (hstill : (s.step h now m).socket.phase = .running) :
    Timed s (s.step h now m).socket now (m.isSign s) := by
  cases m with
  | hear f => exact hearAll_timed h now hrunning [f] hstill
  | receive bytes =>
    let s' : Socket := { s with inflow := (s.inflow.receive bytes).readAll.2 }
    have hread := hearAll_timed (s := s') h now hrunning _ hstill
    exact ⟨hread.heard, hread.nextBeat⟩
  | quit => exact absurd hstill (quit_not_running s)
  | take =>
    simp only [step] at hstill ⊢
    cases ht : s.take? h with
    | none => exact .same rfl rfl
    | some out =>
      rw [ht] at hstill
      obtain ⟨-, ⟨text, b, -, rfl⟩ | ⟨reason, b, -, rfl⟩⟩ := take_cases ht
      · exact .same rfl rfl
      · exact absurd hstill (quit_not_running s)
  | beat => exact absurd rfl hbeat
  | finish =>
    have hsame : s.finish h = ⟨h, s, []⟩ := by
      rw [finish_eq, if_neg (by simp [hrunning])]
    simp only [step, hsame]
    exact .same rfl rfl

/-- When it is time, a client that has been silent for too long is given up, and nothing else
happens to any other one but that the next time is later. -/
theorem beat_of_due (hdue : s.isDue now = true) :
    (s.heard + h.config.timeoutMs < now → (s.beat h now).socket.phase ≠ .running) ∧
      (now ≤ s.heard + h.config.timeoutMs →
        (s.beat h now).socket = { s with nextBeat := s.nextBeat + h.config.heartbeatMs }) := by
  rw [beat, if_pos hdue]
  dsimp only
  constructor
  · intro hsilent
    rw [if_pos (by simpa [isSilent] using hsilent)]
    exact quit_not_running _
  · intro hheard
    rw [if_neg (by simpa [isSilent] using hheard)]

end Socket

end Switchboard
