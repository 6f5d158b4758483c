import Switchboard.Proofs.Limits.Bucket
import Switchboard.Proofs.Socket.Transition

/-! # What a socket hears

Every text that a client says to a running socket is put to the socket's bucket.  Either it is
passed on to the hub, or its client is told that it sends too fast; there is no third way,
because a socket that the hub has not let in is not running.

* `Hearing` — a text that is heard, with what there is before it;
* `Hearing.passed`, `Hearing.limited` — what comes of it;
* `hearings`, `Move.hearings` — the texts that are heard among some frames, and at a move;
* `mem_hearings`, `sent_hearings`, `hub_hearings` — who hears them, what is answered, and what
  the hub gets of it;
* `paces_step` — which of them are passed on is up to the bucket and the times alone.
-/

namespace Switchboard.Socket

open Limits

/-- A text that a running socket hears, and the hub and the socket before it. -/
structure Hearing where
  hub : Hub
  socket : Socket
  time : Instant
  text : String

namespace Hearing

/-- Whether the bucket lets the text through. -/
def passes (x : Hearing) : Bool := (x.socket.bucket.take x.time).1

/-- What the socket does about it. -/
def outcome (x : Hearing) : Outcome := x.socket.hear x.hub x.time (.ok (.text x.text))

/-- What the hub makes of the text if it gets it from a connection. -/
def routed (x : Hearing) (i : ConnectionId) : Hub × Option Notice :=
  x.hub.route i x.socket.principal.role x.text

/-- A hub that gets the text from the socket's connection. -/
def reach (h : Hub) (x : Hearing) : Hub :=
  match x.socket.id with
  | some i => (h.route i x.socket.principal.role x.text).1
  | none => h

end Hearing

/-- A socket is running only if the hub has let it in. -/
def Admitted (s : Socket) : Prop := s.phase = .running → ∃ i, s.id = some i

/-- The text that a socket hears in a frame, if it is running and the frame is one. -/
def heard? (h : Hub) (s : Socket) (now : Instant) : Except Frame.Fault Frame → Option Hearing
  | .ok (.text text) => if s.phase = .running then some ⟨h, s, now, text⟩ else none
  | _ => none

/-- The texts that a socket hears among some frames. -/
def hearings (h : Hub) (s : Socket) (now : Instant) : List (Except Frame.Fault Frame) → List Hearing
  | [] => []
  | f :: fs =>
    let out := s.hear h now f
    (s.heard? h now f).toList ++ out.socket.hearings out.hub now fs

/-- The texts that a socket hears at a move. -/
def Move.hearings (h : Hub) (s : Socket) (now : Instant) : Move → List Hearing
  | .hear f => s.hearings h now [f]
  | .receive bytes =>
    let (frames, inflow) := (s.inflow.receive bytes).readAll
    { s with inflow }.hearings h now frames
  | _ => []

/-- At such a move a socket hears what its client says. -/
def Move.Listens : Move → Prop
  | .hear _ | .receive _ => True
  | _ => False

variable {h g : Hub} {s s' : Socket} {now : Instant} {f : Except Frame.Fault Frame} {x : Hearing}
  {i : ConnectionId}

/-! ## One text -/

theorem heard?_eq_some : s.heard? h now f = some x ↔
    s.phase = .running ∧ ∃ text, f = .ok (.text text) ∧ x = ⟨h, s, now, text⟩ := by
  unfold heard?
  split
  · rename_i text
    split
    · rename_i hrunning
      simp [hrunning, eq_comm]
    · rename_i hnot
      simp [hnot]
  · rename_i hnot
    simp only [reduceCtorEq, false_iff, not_and]
    rintro - ⟨text, rfl, -⟩
    exact hnot text rfl

/-- A text that the bucket lets through goes to the hub, and its reply to the client. -/
theorem Hearing.passed (hrunning : x.socket.phase = .running) (hi : x.socket.id = some i)
    (hpass : x.passes = true) :
    x.outcome.hub = (x.routed i).1 ∧
      x.outcome.sent = (x.routed i).2.toList.map fun reply => .text reply.render := by
  obtain ⟨h, s, now, text⟩ := x
  dsimp only at hrunning hi
  obtain ⟨bucket, htake⟩ : ∃ bucket, s.bucket.take now = (true, bucket) := ⟨_, Prod.ext hpass rfl⟩
  simp only [outcome, routed, hear, hrunning, if_true, hearFrame, hearText, hearOf, hi, htake]
  split <;>
  · rename_i hroute
    simp [hroute]

/-- A text that the bucket refuses is answered with one error, and nothing else happens. -/
theorem Hearing.limited (hrunning : x.socket.phase = .running) (hi : x.socket.id = some i)
    (hlimit : x.passes = false) :
    x.outcome.hub = x.hub ∧ x.outcome.sent = [.text (tooFast x.text).render] := by
  obtain ⟨h, s, now, text⟩ := x
  dsimp only at hrunning hi
  obtain ⟨bucket, htake⟩ : ∃ bucket, s.bucket.take now = (false, bucket) :=
    ⟨_, Prod.ext hlimit rfl⟩
  simp [outcome, hear, hrunning, hearFrame, hearText, hearOf, hi, htake]

theorem hear_of_heard (hheard : s.heard? h now f = some x) : s.hear h now f = x.outcome := by
  obtain ⟨-, text, rfl, rfl⟩ := heard?_eq_some.1 hheard
  rfl

/-- Whatever else a socket hears has no effect on the hub. -/
theorem hub_hear_of_unheard (hheard : s.heard? h now f = none) : (s.hear h now f).hub = h := by
  unfold hear
  split
  · rename_i hrunning
    match f with
    | .ok (.text text) => simp [heard?, hrunning] at hheard
    | .ok (.binary _) | .ok (.ping _) | .ok (.pong _) | .ok (.close _) | .ok (.piece _ _)
    | .error _ => rfl
  · rfl

/-- Texts are put to the bucket one by one, and nothing else is. -/
theorem bucket_hear (hs : s.Admitted) (f : Except Frame.Fault Frame) :
    (s.hear h now f).socket.bucket =
      after Bucket.take s.bucket ((s.heard? h now f).toList.map (·.time)) := by
  unfold hear
  by_cases hrunning : s.phase = .running
  · obtain ⟨i, hi⟩ := hs hrunning
    rw [if_pos hrunning]
    match f with
    | .ok (.text text) =>
      simp only [hearFrame, hearText, hearOf, hi, heard?, hrunning, if_true, Option.toList_some,
        List.map_cons, List.map_nil, after_cons]
      split
      · rename_i bucket htake
        simp [htake, after]
      · rename_i bucket htake
        split <;> simp [htake, after]
    | .ok (.binary _) | .ok (.ping _) | .ok (.pong _) | .ok (.piece _ _) => rfl
    | .ok (.close _) | .error _ =>
      change s.quit.bucket = s.bucket
      unfold quit
      split <;> rfl
  · rw [if_neg hrunning]
    match f with
    | .ok (.text text) => simp [heard?, hrunning, after]
    | .ok (.binary _) | .ok (.ping _) | .ok (.pong _) | .ok (.piece _ _) | .ok (.close _)
    | .error _ => rfl

/-! ## Sockets that are let in -/

theorem Transition.admitted (hd : Transition h s g s') (hs : s.Admitted) : s'.Admitted := by
  intro hrunning
  have hphase := hd.was_running hrunning
  obtain ⟨i, hi⟩ := hs hphase
  have hsame : s'.connection? = some ⟨i, s.principal, s.outbox⟩ :=
    hd.same.1.trans (connection?_eq_some.2 ⟨hi, rfl, rfl⟩)
  exact ⟨i, (connection?_eq_some.1 hsame).1⟩

theorem admitted_start (h : Hub) (now : Instant) (c : Connection) :
    (start h now c).socket.Admitted := by
  rw [start_eq]
  cases (opened h c).refusal? c with
  | some e =>
    intro hrunning
    simp [sendAway, quit, fresh] at hrunning
  | none => exact fun _ => ⟨c.id, rfl⟩

/-! ## Several frames -/

/-- Which of some texts are passed on is up to a bucket and their times, and leaves another
bucket behind. -/
structure Paces (b : Bucket) (xs : List Hearing) (b' : Bucket) : Prop where
  passed : (xs.filter (·.passes)).map (·.time) = admitted Bucket.take b (xs.map (·.time))
  bucket : b' = after Bucket.take b (xs.map (·.time))

theorem Paces.nil (b : Bucket) : Paces b [] b := ⟨rfl, rfl⟩

theorem Paces.append {b b' b'' : Bucket} {xs ys : List Hearing} (hx : Paces b xs b')
    (hy : Paces b' ys b'') : Paces b (xs ++ ys) b'' where
  passed := by
    rw [List.filter_append, List.map_append, hx.passed, hy.passed, List.map_append,
      admitted_append, hx.bucket]
  bucket := by rw [hy.bucket, hx.bucket, List.map_append, after_append]

theorem paces_hear (hs : s.Admitted) (f : Except Frame.Fault Frame) :
    Paces s.bucket (s.heard? h now f).toList (s.hear h now f).socket.bucket := by
  refine ⟨?_, bucket_hear hs f⟩
  cases hheard : s.heard? h now f with
  | none => rfl
  | some x =>
    obtain ⟨-, text, -, rfl⟩ := heard?_eq_some.1 hheard
    simp only [Option.toList_some, List.map_cons, List.map_nil, admitted, List.filter_cons,
      Hearing.passes, List.filter_nil]
    split <;> rfl

theorem paces_hearAll (hs : s.Admitted) (fs : List (Except Frame.Fault Frame)) :
    Paces s.bucket (s.hearings h now fs) (s.hearAll h now fs).socket.bucket := by
  induction fs generalizing h s with
  | nil => exact .nil _
  | cons f fs ih => exact (paces_hear hs f).append (ih ((transition_hear h s now f).admitted hs))

/-- What is heard is heard by a running socket that the hub has let in. -/
theorem mem_hearings {fs : List (Except Frame.Fault Frame)} (hs : s.Admitted)
    (hx : x ∈ s.hearings h now fs) :
    x.time = now ∧ x.socket.phase = .running ∧ ∃ i, x.socket.id = some i := by
  induction fs generalizing h s with
  | nil => simp [hearings] at hx
  | cons f fs ih =>
    obtain hx | hx := List.mem_append.1 hx
    · obtain ⟨hrunning, text, -, rfl⟩ := heard?_eq_some.1 (Option.mem_toList.1 hx)
      exact ⟨rfl, hrunning, hs hrunning⟩
    · exact ih ((transition_hear h s now f).admitted hs) hx

theorem sent_hearings (h : Hub) (s : Socket) (now : Instant)
    (fs : List (Except Frame.Fault Frame)) :
    ((s.hearings h now fs).flatMap (·.outcome.sent)).Sublist (s.hearAll h now fs).sent := by
  induction fs generalizing h s with
  | nil => exact .slnil
  | cons f fs ih =>
    rw [hearings, List.flatMap_append]
    refine List.Sublist.append ?_ (ih _ _)
    cases hheard : s.heard? h now f with
    | none => simp
    | some x => simp [hear_of_heard hheard]

/-- What a socket hears has an effect on the hub only through the texts that pass. -/
theorem hub_hearings (hs : s.Admitted) (fs : List (Except Frame.Fault Frame)) :
    (s.hearAll h now fs).hub =
      ((s.hearings h now fs).filter (·.passes)).foldl Hearing.reach h := by
  induction fs generalizing h s with
  | nil => rfl
  | cons f fs ih =>
    rw [hearings, List.filter_append, List.foldl_append]
    refine (ih ((transition_hear h s now f).admitted hs)).trans ?_
    -- what remains is that the first frame reaches the hub only as a text that passes
    congr 1
    cases hheard : s.heard? h now f with
    | none => simp [hub_hear_of_unheard hheard]
    | some x =>
      obtain ⟨hrunning, text, -, rfl⟩ := heard?_eq_some.1 hheard
      obtain ⟨i, hi⟩ := hs hrunning
      rw [hear_of_heard hheard]
      cases hpass : Hearing.passes ⟨h, s, now, text⟩ with
      | true =>
        simp [hpass, (Hearing.passed hrunning hi hpass).1, Hearing.reach, Hearing.routed, hi]
      | false => simp [hpass, (Hearing.limited hrunning hi hpass).1]

theorem bucket_quit (s : Socket) : s.quit.bucket = s.bucket := by
  unfold quit
  split <;> rfl

theorem bucket_take {out : Outcome} (ht : s.take? h = some out) :
    out.socket.bucket = s.bucket := by
  obtain ⟨-, ⟨text, b, -, rfl⟩ | ⟨reason, b, -, rfl⟩⟩ := take_cases ht
  · rfl
  · exact bucket_quit s

theorem bucket_beat : (s.beat h now).socket.bucket = s.bucket := by
  unfold beat
  dsimp only
  split
  · split
    · exact bucket_quit _
    · rfl
  · rfl

theorem bucket_finish : (s.finish h).socket.bucket = s.bucket := by
  unfold finish
  split <;> rfl

/-! ## Moves -/

theorem Move.mem_hearings {m : Move} (hs : s.Admitted) (hx : x ∈ m.hearings h s now) :
    x.time = now ∧ x.socket.phase = .running ∧ ∃ i, x.socket.id = some i := by
  cases m with
  | hear f => exact Socket.mem_hearings hs hx
  | receive bytes =>
    have hs' : Admitted { s with inflow := (s.inflow.receive bytes).readAll.2 } := hs
    exact Socket.mem_hearings hs' hx
  | quit | take | beat | finish => cases hx

theorem Move.sent_hearings (h : Hub) (s : Socket) (now : Instant) (m : Move) :
    ((m.hearings h s now).flatMap (·.outcome.sent)).Sublist (s.step h now m).sent := by
  cases m with
  | hear f =>
    have hall := Socket.sent_hearings h s now [f]
    rwa [hearAll, Outcome.after, hearAll, List.append_nil] at hall
  | receive bytes => exact Socket.sent_hearings h _ now _
  | quit | take | beat | finish => exact List.nil_sublist _

theorem Move.hub_hearings {m : Move} (hs : s.Admitted) (hm : m.Listens) :
    (s.step h now m).hub = ((m.hearings h s now).filter (·.passes)).foldl Hearing.reach h := by
  cases m with
  | hear f => exact Socket.hub_hearings hs [f]
  | receive bytes =>
    have hs' : Admitted { s with inflow := (s.inflow.receive bytes).readAll.2 } := hs
    exact Socket.hub_hearings hs' _
  | quit | take | beat | finish => cases hm

/-- At a move that hears nothing, nothing is put to the bucket. -/
theorem paces_step (hs : s.Admitted) (m : Move) :
    Paces s.bucket (m.hearings h s now) (s.step h now m).socket.bucket := by
  cases m with
  | hear f => exact paces_hearAll hs [f]
  | receive bytes =>
    have hs' : Admitted { s with inflow := (s.inflow.receive bytes).readAll.2 } := hs
    exact paces_hearAll hs' _
  | quit => exact ⟨rfl, bucket_quit s⟩
  | take =>
    refine ⟨rfl, ?_⟩
    cases ht : s.take? h with
    | none => simp [step, ht, Move.hearings, after]
    | some out =>
      rw [step, ht]
      exact bucket_take ht
  | beat => exact ⟨rfl, bucket_beat⟩
  | finish => exact ⟨rfl, bucket_finish⟩

end Switchboard.Socket
