import Switchboard.Proofs.Hub.Runs
import Switchboard.Socket.Basic

/-! # What a socket can do

Whatever a socket does comes down to a few things, done one after the other: it minds its own
business, it passes on what its client says, it takes something out of its outbox, it leaves the
hub, and it comes to its end.

* `Socket.connection?` — the connection that a socket has registered;
* `Socket.start_eq` — how a socket begins;
* `Socket.InboundTransition` — what a socket does at the word of its client or of the clock, without
  a look into its outbox;
* `Socket.take_cases`, `Socket.finish_eq` — how it takes something out, and how it ends;
* `Socket.Transition`, `Socket.transition_step` — all that a socket can do;
* `Socket.Transition.same` — it stays who it is;
* `Socket.Transition.was_running`, `Socket.Transition.stays_stopped` — it does not start again;
* `Socket.Transition.refused` — one that was not let in does nothing to the hub.
-/

namespace Switchboard.Socket

/-! ## Who a socket is -/

/-- The connection that a socket has registered, if the hub has let it in. -/
def connection? (s : Socket) : Option Connection :=
  s.id.map fun i => ⟨i, s.principal, s.outbox⟩

variable {h k g : Hub} {s t s' : Socket} {c : Connection}

theorem connection?_eq_some : s.connection? = some c ↔
    s.id = some c.id ∧ s.principal = c.principal ∧ s.outbox = c.outbox := by
  unfold connection?
  cases s.id with
  | none => simp
  | some i =>
    obtain ⟨j, p, o⟩ := c
    simp

theorem connection?_eq_none : s.connection? = none ↔ s.id = none := by
  simp [connection?]

/-- The same socket, which may have been told to stop in the meantime. -/
structure Becomes (s s' : Socket) : Prop where
  connection : s'.connection? = s.connection?
  outbox : s'.outbox = s.outbox
  phase : s'.phase = s.phase ∨ s.phase = .running ∧ s'.phase = .stopping

theorem Becomes.of_eq (hid : s'.id = s.id) (hp : s'.principal = s.principal)
    (ho : s'.outbox = s.outbox) (hphase : s'.phase = s.phase) : s.Becomes s' where
  connection := by rw [connection?, connection?, hid, hp, ho]
  outbox := ho
  phase := .inl hphase

theorem Becomes.trans (hb : s.Becomes t) (hb' : t.Becomes s') : s.Becomes s' where
  connection := hb'.connection.trans hb.connection
  outbox := hb'.outbox.trans hb.outbox
  phase := by
    obtain heq | ⟨hrunning, hstopping⟩ := hb.phase
    · rw [← heq]
      exact hb'.phase
    · obtain heq | ⟨hrunning', -⟩ := hb'.phase
      · exact .inr ⟨hrunning, heq.trans hstopping⟩
      · rw [hstopping] at hrunning'
        cases hrunning'

theorem becomes_quit (s : Socket) : s.Becomes s.quit := by
  unfold quit
  split
  · rename_i hrunning
    exact ⟨rfl, rfl, .inr ⟨hrunning, rfl⟩⟩
  · exact ⟨rfl, rfl, .inl rfl⟩

/-! ## How it begins -/

/-- The hub in which a connection that has just been opened has an outbox. -/
def opened (h : Hub) (c : Connection) : Hub :=
  h.setOutbox c.outbox (.fresh h.config.outboxCapacity)

/-- A socket that opens is sent away at once, or is registered. -/
theorem start_eq (h : Hub) (now : Instant) (c : Connection) :
    start h now c =
      match (opened h c).refusal? c with
      | some e => sendAway (opened h c) (fresh h.config now c) e.closeReason
      | none =>
        ⟨(opened h c).next (.register c), { fresh h.config now c with id := some c.id }, []⟩ := by
  have hnext (k : Hub) : k.next (.register c) = (k.register c).1 := rfl
  simp only [start, opened, hnext, Hub.register_eq]
  generalize h.setOutbox c.outbox (.fresh h.config.outboxCapacity) = k
  cases k.refusal? c with
  | some e => rfl
  | none => cases c.principal.isDesktop <;> rfl

theorem start_of_refused {now : Instant} (hs : (start h now c).socket.connection? = none) :
    (start h now c).hub = opened h c := by
  rw [start_eq] at hs ⊢
  cases hr : (opened h c).refusal? c with
  | some e => rfl
  | none =>
    rw [hr] at hs
    cases hs

/-! ## What it does without a look into its outbox -/

/-- What a socket can do with a hub without a look into its outbox: it minds its own business,
and passes on what its client says. -/
inductive InboundTransition : Hub → Socket → Hub → Socket → Prop
  | becomes {h : Hub} {s s' : Socket} : s.Becomes s' → InboundTransition h s h s'
  | passes {h : Hub} {s : Socket} (c : Connection) (text : String) : s.connection? = some c →
      InboundTransition h s (h.next (.route c.id c.principal.role text)) s
  | andThen {h k g : Hub} {s t s' : Socket} : InboundTransition h s k t →
      InboundTransition k t g s' → InboundTransition h s g s'

theorem InboundTransition.refl (h : Hub) (s : Socket) : InboundTransition h s h s :=
  .becomes (.of_eq rfl rfl rfl rfl)

theorem InboundTransition.same_socket (hm : InboundTransition h s g s') : s.Becomes s' := by
  induction hm with
  | becomes hb => exact hb
  | passes => exact .of_eq rfl rfl rfl rfl
  | andThen _ _ ih ih' => exact ih.trans ih'

theorem inbound_hearText (h : Hub) (s : Socket) (now : Instant) (text : String) :
    InboundTransition h s (s.hearText h now text).hub (s.hearText h now text).socket := by
  unfold hearText
  split
  · exact .refl h s
  · rename_i i hi
    have hconn : s.connection? = some ⟨i, s.principal, s.outbox⟩ :=
      connection?_eq_some.2 ⟨hi, rfl, rfl⟩
    have hpass : InboundTransition h s (h.route i s.principal.role text).1 s := .passes _ text hconn
    split
    · exact .becomes (.of_eq rfl rfl rfl rfl)
    · rename_i bucket _
      split <;>
      · rename_i hroute
        rw [hroute] at hpass
        exact hpass.andThen (.becomes (.of_eq rfl rfl rfl rfl))

theorem inbound_hear (h : Hub) (s : Socket) (now : Instant) (f : Except Frame.Fault Frame) :
    InboundTransition h s (s.hear h now f).hub (s.hear h now f).socket := by
  unfold hear
  split
  · cases f with
    | error _ => exact .becomes (becomes_quit s)
    | ok frame =>
      cases frame with
      | text text =>
        have hheard : InboundTransition h s h (s.hearOf now) := .becomes (.of_eq rfl rfl rfl rfl)
        exact hheard.andThen (inbound_hearText h (s.hearOf now) now text)
      | binary | ping | pong => exact .becomes (.of_eq rfl rfl rfl rfl)
      | close farewell => exact .becomes (becomes_quit s)
      | piece => exact .refl h s
  · exact .refl h s

theorem inbound_hearAll (h : Hub) (s : Socket) (now : Instant)
    (fs : List (Except Frame.Fault Frame)) :
    InboundTransition h s (s.hearAll h now fs).hub (s.hearAll h now fs).socket := by
  induction fs generalizing h s with
  | nil => exact .refl h s
  | cons f fs ih => exact (inbound_hear h s now f).andThen (ih _ _)

theorem inbound_receive (h : Hub) (s : Socket) (now : Instant) (bytes : List UInt8) :
    InboundTransition h s (s.receive h now bytes).hub (s.receive h now bytes).socket := by
  have hread : InboundTransition h s h { s with inflow := (s.inflow.receive bytes).readAll.2 } :=
    .becomes (.of_eq rfl rfl rfl rfl)
  exact hread.andThen (inbound_hearAll h _ now _)

theorem inbound_beat (h : Hub) (s : Socket) (now : Instant) :
    InboundTransition h s (s.beat h now).hub (s.beat h now).socket := by
  unfold beat
  dsimp only
  split
  · have hbeat : InboundTransition h s h { s with nextBeat := s.nextBeat + h.config.heartbeatMs } :=
      .becomes (.of_eq rfl rfl rfl rfl)
    split
    · exact hbeat.andThen (.becomes (becomes_quit _))
    · exact hbeat
  · exact .refl h s

/-! ## How it takes something out, and how it ends -/

theorem setOutbox_setOutbox (h : Hub) (o : OutboxId) (b b' : Outbox) :
    (h.setOutbox o b).setOutbox o b' = h.setOutbox o b' := by
  unfold Hub.setOutbox
  rw [Table.insert_insert]

/-- What a socket takes out is a text, which it sends on, or a close, which it heeds. -/
theorem take_cases {out : Outcome} (ht : s.take? h = some out) : s.phase = .running ∧
    ((∃ text b, (h.outbox s.outbox).take? = some (.text text, b) ∧
        out = ⟨h.setOutbox s.outbox b.release, s, [.text text]⟩) ∨
      ∃ reason b, (h.outbox s.outbox).take? = some (.close reason, b) ∧
        out = sendAway (h.setOutbox s.outbox b) s reason) := by
  unfold take? at ht
  split at ht
  · rename_i hrunning
    obtain ⟨⟨item, b⟩, hb, rfl⟩ := Option.map_eq_some_iff.1 ht
    refine ⟨hrunning, ?_⟩
    cases item with
    | text text =>
      refine .inl ⟨text, b, hb, ?_⟩
      simp only [obey, Hub.outbox_setOutbox_self, setOutbox_setOutbox]
    | close reason => exact .inr ⟨reason, b, hb, rfl⟩
  · cases ht

/-- The hub that a socket leaves, if it was let in. -/
def left (h : Hub) (s : Socket) : Hub :=
  match s.id with
  | some i => (h.deregister i).1
  | none => h

theorem finish_eq (h : Hub) (s : Socket) : s.finish h =
    if s.phase = .stopping then
      ⟨(left h s).setOutbox s.outbox ((left h s).outbox s.outbox).stop,
        { s with phase := .stopped }, []⟩
    else ⟨h, s, []⟩ := rfl

/-! ## All that it does -/

/-- What a socket can do with a hub, one thing after the other. -/
inductive Transition : Hub → Socket → Hub → Socket → Prop
  | becomes {h : Hub} {s s' : Socket} : s.Becomes s' → Transition h s h s'
  | passes {h : Hub} {s : Socket} (c : Connection) (text : String) : s.connection? = some c →
      Transition h s (h.next (.route c.id c.principal.role text)) s
  | takes {h : Hub} {s : Socket} (text : String) (b : Outbox) : s.phase = .running →
      (h.outbox s.outbox).take? = some (.text text, b) →
      Transition h s (h.setOutbox s.outbox b.release) s
  | heeds {h : Hub} {s : Socket} (reason : String) (b : Outbox) : s.phase = .running →
      (h.outbox s.outbox).take? = some (.close reason, b) →
      Transition h s (h.setOutbox s.outbox b) s.quit
  | leaves {h : Hub} {s : Socket} (c : Connection) : s.phase = .stopping →
      s.connection? = some c → Transition h s (h.next (.deregister c.id)) s
  | ends {h : Hub} {s : Socket} : s.phase = .stopping →
      (∀ c, s.connection? = some c → c.id ∉ h.index) →
      Transition h s (h.setOutbox s.outbox (h.outbox s.outbox).stop) { s with phase := .stopped }
  | andThen {h k g : Hub} {s t s' : Socket} : Transition h s k t → Transition k t g s' →
      Transition h s g s'

theorem Transition.refl (h : Hub) (s : Socket) : Transition h s h s :=
  .becomes (.of_eq rfl rfl rfl rfl)

theorem InboundTransition.transition (hm : InboundTransition h s g s') : Transition h s g s' := by
  induction hm with
  | becomes hb => exact .becomes hb
  | passes c text hc => exact .passes c text hc
  | andThen _ _ ih ih' => exact ih.andThen ih'

theorem transition_hear (h : Hub) (s : Socket) (now : Instant) (f : Except Frame.Fault Frame) :
    Transition h s (s.hear h now f).hub (s.hear h now f).socket :=
  (inbound_hear h s now f).transition

theorem transition_finish (h : Hub) (s : Socket) :
    Transition h s (s.finish h).hub (s.finish h).socket := by
  rw [finish_eq]
  split
  · rename_i hstopping
    have hleft : Transition h s (left h s) s := by
      unfold left
      split
      · rename_i i hi
        exact .leaves ⟨i, s.principal, s.outbox⟩ hstopping (connection?_eq_some.2 ⟨hi, rfl, rfl⟩)
      · exact .refl h s
    -- a socket that was let in is not registered when it comes to its end
    refine hleft.andThen (.ends hstopping fun c hc => ?_)
    rw [left, (connection?_eq_some.1 hc).1]
    exact Hub.not_mem_deregister h c.id
  · exact .refl h s

/-- There is nothing else that a socket does. -/
theorem transition_step (h : Hub) (s : Socket) (now : Instant) (m : Move) :
    Transition h s (s.step h now m).hub (s.step h now m).socket := by
  cases m with
  | hear frame => exact transition_hear h s now frame
  | receive bytes => exact (inbound_receive h s now bytes).transition
  | quit => exact .becomes (becomes_quit s)
  | take =>
    cases ht : s.take? h with
    | none =>
      simp only [step, ht, Option.getD_none]
      exact .refl h s
    | some out =>
      simp only [step, ht, Option.getD_some]
      obtain ⟨hrunning, ⟨text, b, hb, rfl⟩ | ⟨reason, b, hb, rfl⟩⟩ := take_cases ht
      · exact .takes text b hrunning hb
      · exact .heeds reason b hrunning hb
  | beat => exact (inbound_beat h s now).transition
  | finish => exact transition_finish h s

/-! ## What it does not do -/

theorem Transition.same (hd : Transition h s g s') :
    s'.connection? = s.connection? ∧ s'.outbox = s.outbox := by
  induction hd with
  | becomes hb => exact ⟨hb.connection, hb.outbox⟩
  | passes | takes | leaves => exact ⟨rfl, rfl⟩
  | heeds reason b => exact ⟨(becomes_quit _).connection, (becomes_quit _).outbox⟩
  | ends => exact ⟨rfl, rfl⟩
  | andThen _ _ ih ih' => exact ⟨ih'.1.trans ih.1, ih'.2.trans ih.2⟩

theorem id_step (h : Hub) (s : Socket) (now : Instant) (m : Move) :
    (s.step h now m).socket.id.isSome = s.id.isSome := by
  have hsame := congrArg Option.isSome (transition_step h s now m).same.1
  simpa [connection?] using hsame

/-- No socket starts to run again. -/
theorem Transition.was_running (hd : Transition h s g s') (hrunning : s'.phase = .running) :
    s.phase = .running := by
  induction hd with
  | becomes hb =>
    obtain heq | ⟨hwas, -⟩ := hb.phase
    · exact heq ▸ hrunning
    · exact hwas
  | passes | takes | leaves => exact hrunning
  | heeds reason b hwas => exact hwas
  | ends => cases hrunning
  | andThen _ _ ih ih' => exact ih (ih' hrunning)

/-- A socket that has stopped stays so. -/
theorem Transition.stays_stopped (hd : Transition h s g s') (hstopped : s.phase = .stopped) :
    s'.phase = .stopped := by
  induction hd with
  | becomes hb =>
    obtain heq | ⟨hwas, -⟩ := hb.phase
    · exact heq.trans hstopped
    · rw [hstopped] at hwas
      cases hwas
  | passes | takes | leaves => exact hstopped
  | heeds reason b hwas =>
    rw [hstopped] at hwas
    cases hwas
  | ends => rfl
  | andThen _ _ ih ih' => exact ih' (ih hstopped)

/-- A socket that the hub has not let in changes nothing but its own outbox. -/
theorem Transition.refused (hd : Transition h s g s') (hs : s.connection? = none) :
    g.rooms = h.rooms ∧ g.index = h.index ∧ ∀ o, s.outbox ≠ o → g.outbox o = h.outbox o := by
  induction hd with
  | becomes => exact ⟨rfl, rfl, fun _ _ => rfl⟩
  | passes c text hc | leaves c _ hc =>
    rw [hs] at hc
    cases hc
  | takes | heeds | ends => exact ⟨rfl, rfl, fun o ho => Hub.outbox_setOutbox_ne _ _ ho⟩
  | andThen hd _ ih ih' =>
    obtain ⟨hrooms, hindex, houtbox⟩ := ih hs
    obtain ⟨hrooms', hindex', houtbox'⟩ := ih' (hd.same.1.trans hs)
    rw [hd.same.2] at houtbox'
    exact ⟨hrooms'.trans hrooms, hindex'.trans hindex,
      fun o ho => (houtbox' o ho).trans (houtbox o ho)⟩

end Switchboard.Socket
