import Switchboard.Proofs.Hub.Offers
import Switchboard.Proofs.Relay.Pace
import Switchboard.Proofs.Socket.Signs

/-! # Clients that are silent

A socket looks at its client at regular times.  The relay is configured so that a client may be
silent for longer than the time between two looks; so whoever gives a sign of life between any two
of them is never given up, and whoever falls silent is given up at the first look after the time
that a client may be silent.

* `showsAt`, `lastSign` — signs of life from the client of a socket;
* `Punctual`, `Lively` — a timer that keeps to its times, and a client that is there at each;
* `Stops` — a socket stops, at a look at its client or otherwise;
* `Ticking`, `Ticking.step` — what is known of a socket that is running;
* `Watched`, `silence_ends` — which clients are given up, when, and what comes of it.
-/

namespace Switchboard.Relay

open Socket (Move)

/-! ## What happens to a socket -/

/-- A socket is running. -/
def runs (o : OutboxId) (r : Relay) : Bool := (r.sockets[o]?).any fun s => s.phase = .running

/-- A running socket gets something that shows that its client is there. -/
def showsAt (o : OutboxId) (r : Relay) (e : Instant × Event) : Bool :=
  match e.2, r.sockets[o]? with
  | .move o' m, some s => o' = o ∧ s.phase = .running ∧ m.isSign s
  | _, _ => false

/-- When the client of a socket was last heard of in a run, if that was at `last` before it. -/
def lastSign (o : OutboxId) (last : Instant) (r : Relay) : List (Instant × Event) → Instant
  | [] => last
  | e :: es => lastSign o (if showsAt o r e then e.1 else last) (r.next e) es

/-- The timer of a socket goes off. -/
def isBeat (o : OutboxId) (e : Instant × Event) : Bool :=
  match e.2 with
  | .move o' .beat => o' = o
  | _ => false

/-- While a socket is running, its timer goes off when it is due, neither sooner nor later, and is
due again after the interval. -/
def Punctual (o : OutboxId) (intervalMs : Nat) (due : Instant) (r : Relay) :
    List (Instant × Event) → Prop
  | [] => True
  | e :: es =>
    (runs o r = true → e.1 ≤ due ∧ (isBeat o e = true → e.1 = due)) ∧
      Punctual o intervalMs (if isBeat o e then due + intervalMs else due) (r.next e) es

/-- Whenever the timer of a running socket goes off, its client has shown that it is there since
the last time.  `seen` is whether it has done so already. -/
def Lively (o : OutboxId) (seen : Bool) (r : Relay) : List (Instant × Event) → Prop
  | [] => True
  | e :: es =>
    (runs o r = true → isBeat o e = true → seen = true) ∧
      Lively o (if isBeat o e then false else seen || showsAt o r e) (r.next e) es

/-- A running socket stops at a certain time, because of its timer or because of something else. -/
def Stops (o : OutboxId) (timer : Bool) (t : Instant) (r : Relay) (e : Instant × Event) : Prop :=
  e.1 = t ∧ isBeat o e = timer ∧ runs o r = true ∧ runs o (r.next e) = false

variable {config : Config} {r : Relay} {e : Instant × Event} {es : List (Instant × Event)}
  {o : OutboxId} {s : Socket} {c : Connection} {due last now t : Instant} {seen timer : Bool}
  {coming : List ConnectionId}

instance Punctual.decidable (o : OutboxId) (intervalMs : Nat) :
    ∀ (due : Instant) (r : Relay) (es : List (Instant × Event)),
      Decidable (Punctual o intervalMs due r es)
  | _, _, [] => inferInstanceAs (Decidable True)
  | due, r, e :: es =>
    have := Punctual.decidable o intervalMs (if isBeat o e then due + intervalMs else due)
      (r.next e) es
    inferInstanceAs (Decidable (_ ∧ _))

/-! ## A socket that does not run -/

theorem runs_iff : runs o r = true ↔ ∃ s, r.sockets[o]? = some s ∧ s.phase = .running := by
  unfold runs
  cases r.sockets[o]? <;> simp

/-- A socket is there, and does not run any more. -/
def Ended (o : OutboxId) (r : Relay) : Prop := ∃ s, r.sockets[o]? = some s ∧ s.phase ≠ .running

namespace Ended

theorem not_runs (he : Ended o r) : runs o r = false := by
  obtain ⟨s, hget, hstill⟩ := he
  simp [runs, hget, hstill]

/-- It does not start again. -/
theorem run (he : Ended o r) (es : List (Instant × Event)) : Ended o (es.foldl Relay.next r) := by
  obtain ⟨s, hget, hstill⟩ := he
  refine socket_run (fun h s now m hs hrunning => ?_) hget hstill es
  exact hs ((Socket.transition_step h s now m).was_running hrunning)

theorem next (he : Ended o r) (e : Instant × Event) : Ended o (r.next e) := he.run [e]

theorem not_stops (he : Ended o r) : ¬ Occurs Relay.next (Stops o timer t) r es := by
  induction es generalizing r with
  | nil => exact id
  | cons e es ih =>
    rintro (⟨-, -, hrunning, -⟩ | hlater)
    · rw [he.not_runs] at hrunning
      cases hrunning
    · exact ih (he.next e) hlater

theorem showsAt (he : Ended o r) : showsAt o r e = false := by
  obtain ⟨s, hget, hstill⟩ := he
  unfold Relay.showsAt
  split
  · rename_i hsome
    rw [hget] at hsome
    cases hsome
    simp [hstill]
  · rfl

theorem lastSign (he : Ended o r) : lastSign o last r es = last := by
  induction es generalizing r with
  | nil => rfl
  | cons e es ih =>
    rw [Relay.lastSign, he.showsAt]
    exact ih (he.next e)

end Ended

theorem le_lastSign (hlast : last ≤ now) (ordered : (now :: es.map Prod.fst).Pairwise (· ≤ ·)) :
    last ≤ lastSign o last r es := by
  induction es generalizing r last now with
  | nil => exact Nat.le_refl last
  | cons e es ih =>
    obtain ⟨hnow, hordered⟩ := List.pairwise_cons.1 ordered
    have hfirst : last ≤ e.1 := Nat.le_trans hlast (hnow e.1 List.mem_cons_self)
    rw [lastSign]
    split
    · exact Nat.le_trans hfirst (ih (Nat.le_refl _) hordered)
    · exact ih hfirst hordered

/-! ## A socket that runs -/

theorem eq_of_isBeat (hbeat : isBeat o e = true) (htime : e.1 = t) : e = (t, .move o .beat) := by
  obtain ⟨now, e⟩ := e
  unfold isBeat at hbeat
  split at hbeat
  · rename_i o' hmove
    simp only [decide_eq_true_eq] at hbeat
    obtain rfl := hbeat
    obtain rfl : e = .move o' .beat := hmove
    obtain rfl : now = t := htime
    rfl
  · cases hbeat

theorem showsAt_beat : showsAt o r (t, .move o .beat) = false := by
  unfold showsAt
  cases r.sockets[o]? <;> simp [Move.isSign]

/-- What is known of a running socket: when its client was last heard of and when its timer is
due, which is not later than the first time at which a silent client is given up, and not much
later than a client was heard of that has shown itself since the timer went off. -/
structure Ticking (config : Config) (o : OutboxId) (due last now : Instant) (seen : Bool)
    (r : Relay) : Prop where
  configured : r.hub.config = config
  socket : ∃ s, r.sockets[o]? = some s ∧ s.phase = .running ∧ s.id.isSome = true ∧
    s.nextBeat = due ∧ s.heard = last
  past : last ≤ now
  patient : due ≤ last + config.timeoutMs + config.heartbeatMs
  soon : due ≤ now + config.heartbeatMs
  attentive : seen = true → due ≤ last + config.heartbeatMs

namespace Ticking

theorem runs (ht : Ticking config o due last now seen r) : runs o r = true := by
  obtain ⟨s, hget, hrunning, -⟩ := ht.socket
  exact runs_iff.2 ⟨s, hget, hrunning⟩

/-- When the timer goes off, the socket stops if its client was silent for too long, and runs on
otherwise. -/
theorem beats (ht : Ticking config o due last now seen r) (hnow : now ≤ due) :
    Ended o (r.next (due, .move o .beat)) ∧ last + config.timeoutMs < due ∨
      Ticking config o (due + config.heartbeatMs) last due false (r.next (due, .move o .beat)) := by
  obtain ⟨s, hget, hrunning, hid, hbeat, hheard⟩ := ht.socket
  have hpatient := ht.patient
  have hget' : (r.next (due, .move o .beat)).sockets[o]? = some (s.beat r.hub due).socket := by
    rw [next_move due .beat hget, Table.lookup_insert, if_pos rfl]
    rfl
  have hisDue : s.isDue due = true := by simp [Socket.isDue, hrunning, hid, hbeat]
  obtain ⟨hsilent, hgoes⟩ := Socket.beat_of_due (h := r.hub) hisDue
  rw [ht.configured, hheard] at hsilent hgoes
  -- the next time is one period on; `patient` holds as the client was not silent for too long
  by_cases hlong : last + config.timeoutMs < due
  · exact .inl ⟨⟨_, hget', hsilent hlong⟩, hlong⟩
  · right
    rw [hgoes (Nat.le_of_not_lt hlong)] at hget'
    refine ⟨(config_next r _).trans ht.configured, ⟨_, hget', hrunning, hid, ?_, rfl⟩,
      Nat.le_trans ht.past hnow, ?_, Nat.le_refl _, by simp⟩
    · exact congrArg (· + config.heartbeatMs) hbeat
    · lia

/-- Anything else may stop the socket.  If it does not, a sign of life counts from its moment on,
and the timer is due when it was. -/
theorem spends (ht : Ticking config o due last now seen r) (hnow : now ≤ e.1)
    (hbeat : isBeat o e = false) :
    Ended o (r.next e) ∨
      Ticking config o due (if showsAt o r e then e.1 else last) e.1 (seen || showsAt o r e)
        (r.next e) := by
  obtain ⟨s, hget, hrunning, hid, hdue, hheard⟩ := ht.socket
  have hpatient := ht.patient
  have hsoon : due ≤ e.1 + config.heartbeatMs :=
    Nat.le_trans ht.soon (Nat.add_le_add_right hnow _)
  have hpast : last ≤ e.1 := Nat.le_trans ht.past hnow
  have hconfig : (r.next e).hub.config = config := (config_next r e).trans ht.configured
  -- it is a move of this socket, or the socket is left as it is
  obtain ⟨now', m, rfl, hget'⟩ | ⟨hother, hget'⟩ := socket_next hget e
  · have hshows : showsAt o r (now', .move o m) = m.isSign s := by
      simp [showsAt, hget, hrunning]
    have hm : m ≠ .beat := by
      rintro rfl
      simp [isBeat] at hbeat
    by_cases hstill : (s.step r.hub now' m).socket.phase = .running
    · right
      have htimed := Socket.timed_step hrunning hm hstill
      have hid' := (Socket.id_step r.hub s now' m).trans hid
      rw [hshows]
      cases hsign : m.isSign s with
      | true =>
        refine ⟨hconfig, ⟨_, hget', hstill, hid', htimed.nextBeat.trans hdue, ?_⟩, Nat.le_refl _,
          ?_, hsoon, fun _ => hsoon⟩
        · simpa [hsign] using htimed.heard
        · simp only [if_true]
          lia
      | false =>
        refine ⟨hconfig, ⟨_, hget', hstill, hid', htimed.nextBeat.trans hdue, ?_⟩, hpast, hpatient,
          hsoon, ?_⟩
        · simpa [hsign, hheard] using htimed.heard
        · simpa using ht.attentive
    · exact .inl ⟨_, hget', hstill⟩
  · right
    have hnothing : showsAt o r e = false := by
      unfold showsAt
      split
      · rename_i o' m _ hmove _
        have ho : o' ≠ o := by
          rintro rfl
          exact hother m hmove
        simp [ho]
      · rfl
    rw [hnothing]
    refine ⟨hconfig, ⟨s, hget', hrunning, hid, hdue, hheard⟩, hpast, hpatient, hsoon, ?_⟩
    simpa using ht.attentive

/-- At an event the socket stops, because of its timer only if the client was silent for too
long; or it runs on, with its times brought up to date. -/
theorem step (ht : Ticking config o due last now seen r) (hnow : now ≤ e.1)
    (hdue : isBeat o e = true → e.1 = due) :
    Ended o (r.next e) ∧ (isBeat o e = true → last + config.timeoutMs < e.1) ∨
      Ticking config o (if isBeat o e then due + config.heartbeatMs else due)
        (if showsAt o r e then e.1 else last) e.1
        (if isBeat o e then false else seen || showsAt o r e) (r.next e) := by
  cases hbeat : isBeat o e with
  | true =>
    obtain rfl : e = (due, .move o .beat) := eq_of_isBeat hbeat (hdue hbeat)
    rw [showsAt_beat]
    obtain ⟨hstops, hlong⟩ | hgoes := ht.beats hnow
    · exact .inl ⟨hstops, fun _ => hlong⟩
    · exact .inr hgoes
  | false =>
    obtain hstops | hgoes := ht.spends hnow hbeat
    · exact .inl ⟨hstops, by simp⟩
    · exact .inr hgoes

/-! ## A run -/

/-- A client that shows itself between any two looks at it is not given up. -/
theorem kept (hv : config.heartbeatMs ≤ config.timeoutMs)
    (ht : Ticking config o due last now seen r)
    (ordered : (now :: es.map Prod.fst).Pairwise (· ≤ ·))
    (hpunctual : Punctual o config.heartbeatMs due r es) (hlively : Lively o seen r es) :
    ¬ Occurs next (Stops o true t) r es := by
  induction es generalizing r due last now seen with
  | nil => exact id
  | cons e es ih =>
    obtain ⟨hnow, hordered⟩ := List.pairwise_cons.1 ordered
    obtain ⟨hfirst, hrest⟩ := hpunctual
    obtain ⟨hseen, hlively'⟩ := hlively
    obtain ⟨-, hdue⟩ := hfirst ht.runs
    obtain ⟨hended, hlong⟩ | hgoes := ht.step (hnow e.1 List.mem_cons_self) hdue
    · rintro (⟨-, hbeat, -⟩ | hlater)
      · -- the client was heard of since the timer went off, which is not long ago
        have hrecent := ht.attentive (hseen ht.runs hbeat)
        have htime := hdue hbeat
        have hsilent := hlong hbeat
        lia
      · exact hended.not_stops hlater
    · rintro (⟨-, -, -, hstops⟩ | hlater)
      · rw [hgoes.runs] at hstops
        cases hstops
      · exact ih hgoes hordered hrest hlively' hlater

/-- A client is given up only when it has been silent for too long, and for no more than the time
between two looks longer. -/
theorem range (ht : Ticking config o due last now seen r)
    (ordered : (now :: es.map Prod.fst).Pairwise (· ≤ ·))
    (hpunctual : Punctual o config.heartbeatMs due r es)
    (hstops : Occurs next (Stops o true t) r es) :
    Relay.lastSign o last r es + config.timeoutMs < t ∧
      t ≤ Relay.lastSign o last r es + config.timeoutMs + config.heartbeatMs := by
  induction es generalizing r due last now seen with
  | nil => cases hstops
  | cons e es ih =>
    obtain ⟨hnow, hordered⟩ := List.pairwise_cons.1 ordered
    obtain ⟨hfirst, hrest⟩ := hpunctual
    obtain ⟨-, hdue⟩ := hfirst ht.runs
    rw [Relay.lastSign]
    obtain ⟨hended, hlong⟩ | hgoes := ht.step (hnow e.1 List.mem_cons_self) hdue
    · rw [hended.lastSign]
      obtain ⟨rfl, hbeat, -⟩ | hlater := hstops
      · have hpatient := ht.patient
        have htime := hdue hbeat
        rw [eq_of_isBeat hbeat rfl, showsAt_beat]
        refine ⟨hlong hbeat, ?_⟩
        simp only [Bool.false_eq_true, if_false]
        lia
      · exact absurd hlater hended.not_stops
    · obtain ⟨-, -, -, hstops⟩ | hlater := hstops
      · rw [hgoes.runs] at hstops
        cases hstops
      · exact ih hgoes hordered hrest hlater

/-- Nobody runs any more so long after the client was last heard of. -/
theorem dropped (ht : Ticking config o due last now seen r)
    (ordered : (now :: es.map Prod.fst).Pairwise (· ≤ ·))
    (hpunctual : Punctual o config.heartbeatMs due r es) {x : Instant × Event} (hx : x ∈ es)
    (hlate : Relay.lastSign o last r es + config.timeoutMs + config.heartbeatMs < x.1) :
    ∃ timer t, t ≤ Relay.lastSign o last r es + config.timeoutMs + config.heartbeatMs ∧
      Occurs next (Stops o timer t) r es := by
  induction es generalizing r due last now seen with
  | nil => cases hx
  | cons e es ih =>
    obtain ⟨hnow, hordered⟩ := List.pairwise_cons.1 ordered
    obtain ⟨hfirst, hrest⟩ := hpunctual
    obtain ⟨hsoon, hdue⟩ := hfirst ht.runs
    have hnow' := hnow e.1 List.mem_cons_self
    -- the first event is not so late, for the timer is due before that
    have hearly : e.1 ≤ Relay.lastSign o last r (e :: es) + config.timeoutMs +
        config.heartbeatMs := by
      have hlast : last ≤ Relay.lastSign o last r (e :: es) := le_lastSign ht.past ordered
      have hpatient := ht.patient
      lia
    obtain rfl | hx := List.mem_cons.1 hx
    · exact absurd hlate (Nat.not_lt_of_le hearly)
    · obtain ⟨hended, -⟩ | hgoes := ht.step hnow' hdue
      · exact ⟨isBeat o e, e.1, hearly, .inl ⟨rfl, rfl, ht.runs, hended.not_runs⟩⟩
      · obtain ⟨timer, t, htime, hlater⟩ := ih hgoes hordered hrest hx hlate
        exact ⟨timer, t, htime, .inr hlater⟩

end Ticking

/-! ## From the beginning to the end -/

/-- A socket whose connection is registered as it starts has just heard of its client. -/
theorem ticking_start {opened : Instant} (hs : Sound r (c.id :: coming))
    (registered : c.id ∈ (r.next (opened, .start c)).hub.index) :
    Ticking r.hub.config c.outbox (opened + r.hub.config.heartbeatMs) opened opened true
      (r.next (opened, .start c)) ∧
      ∃ s, (r.next (opened, .start c)).sockets[c.outbox]? = some s ∧ s.connection? = some c := by
  have hnew : c.id ∉ r.hub.index := hs.not_mem_index List.mem_cons_self
  have hconfig := config_next r (opened, .start c)
  rw [next_start] at registered hconfig ⊢
  split at registered
  · exact absurd registered hnew
  · rename_i hfree
    rw [if_neg hfree] at hconfig ⊢
    rw [Socket.start_eq] at registered hconfig ⊢
    cases hrefused : (Socket.opened r.hub c).refusal? c with
    | some e =>
      rw [hrefused] at registered
      exact absurd registered hnew
    | none =>
      rw [hrefused] at hconfig
      have hsocket : ∃ s : Socket,
          some { Socket.fresh r.hub.config opened c with id := some c.id } = some s ∧
            s.phase = .running ∧ s.id.isSome = true ∧
            s.nextBeat = opened + r.hub.config.heartbeatMs ∧ s.heard = opened :=
        ⟨_, rfl, rfl, rfl, rfl, rfl⟩
      refine ⟨⟨hconfig, ?_, Nat.le_refl _, ?_, Nat.le_refl _, fun _ => Nat.le_refl _⟩, _,
        (Table.lookup_insert _ _ _ _).trans (if_pos rfl), rfl⟩
      · simpa only [Table.lookup_insert, if_true] using hsocket
      · lia

theorem ended_of_stops (hget : r.sockets[o]? = some s)
    (hstops : Occurs next (Stops o timer t) r es) : Ended o (es.foldl next r) := by
  obtain ⟨earlier, e, later, rfl, -, -, -, hnot⟩ := occurs_iff.1 hstops
  obtain ⟨s', hget', -⟩ := socket_run (P := fun _ => True) (fun _ _ _ _ _ => trivial) hget trivial
    (earlier ++ [e])
  rw [List.foldl_append] at hget'
  change ((earlier.foldl next r).next e).sockets[o]? = some s' at hget'
  rw [List.foldl_append, List.foldl_cons]
  have hended : Ended o ((earlier.foldl next r).next e) := by
    refine ⟨s', hget', fun hrunning => ?_⟩
    rw [runs_iff.2 ⟨s', hget', hrunning⟩] at hnot
    cases hnot
  exact hended.run later

/-- A socket that does not run comes to its end.  If it was the desktop until then, every mobile
that has room for it is told. -/
theorem finish_ended (hs : Sound r coming) (hget : r.sockets[c.outbox]? = some s)
    (hconn : s.connection? = some c) (hstill : s.phase ≠ .running) (now : Instant) :
    let r' := r.next (now, .move c.outbox .finish)
    (∃ s', r'.sockets[c.outbox]? = some s' ∧ s'.phase = .stopped ∧ s'.connection? = some c) ∧
      ((r.hub.room c.principal.account).desktop = some c → ∀ (i : ConnectionId) (m : Connection),
        (r.hub.room c.principal.account).mobiles[i]? = some m → (r.hub.outbox m.outbox).Takes →
        (r'.hub.outbox m.outbox).told =
          (r.hub.outbox m.outbox).told ++ [(Hub.presence false c.principal).render]) := by
  intro r'
  obtain ⟨hid, -, houtbox⟩ := Socket.connection?_eq_some.1 hconn
  have hr' : r' = ⟨(s.finish r.hub).hub, r.sockets.insert c.outbox (s.finish r.hub).socket⟩ :=
    next_move now .finish hget
  rw [hr']
  simp only [Table.lookup_insert, if_true, Option.some.injEq, exists_eq_left']
  rw [Socket.finish_eq]
  cases hphase : s.phase with
  | running => exact absurd hphase hstill
  | stopped =>
    refine ⟨⟨hphase, hconn⟩, fun hdesktop => ?_⟩
    -- it has left long ago, so it is nobody's desktop
    have hgone := (hs.accords c.outbox s hget).stopped hphase c hconn
    exact absurd (Table.mem_of_lookup (hs.consistent.index_desktop hdesktop)) hgone
  | stopping =>
    refine ⟨⟨rfl, hconn⟩, fun hdesktop i m hm htakes => ?_⟩
    have hleft : Socket.left r.hub s = (r.hub.deregister c.id).1 := by rw [Socket.left, hid]
    have hoffers := Hub.offers_leave hs.consistent hs.separate hdesktop rfl (fun _ => rfl)
      fun _ _ => rfl
    have hlistens : (r.hub.room c.principal.account).listens m.outbox = true :=
      Room.listens_iff.2 ⟨i, m, hm, rfl⟩
    have hother : c.outbox ≠ m.outbox := by
      intro heq
      have hsame := hs.separate c m ⟨_, .inl hdesktop⟩ ⟨_, .inr ⟨i, hm⟩⟩ heq
      have hwf := hs.consistent.wellFormed c.principal.account
      have hkey : i = c.id := by rw [hsame, (hwf.mobile i m hm).1]
      exact hwf.apart c hdesktop (hkey ▸ Table.mem_of_lookup hm)
    simp only [if_true, hleft, houtbox]
    rw [Hub.outbox_setOutbox_ne _ _ hother, hoffers.told, Hub.mobilesOf, if_pos hlistens,
      Outbox.offered_of_takes htakes]

/-- Whether and when the timer gives up the client of a socket, and what comes of it. -/
structure Watched (config : Config) (c : Connection) (opened : Instant) (r : Relay)
    (es : List (Instant × Event)) : Prop where
  kept : Lively c.outbox true r es → ∀ t, ¬ Occurs next (Stops c.outbox true t) r es
  range : ∀ t, Occurs next (Stops c.outbox true t) r es →
    lastSign c.outbox opened r es + config.timeoutMs < t ∧
      t ≤ lastSign c.outbox opened r es + config.timeoutMs + config.heartbeatMs
  dropped : ∀ e ∈ es,
    lastSign c.outbox opened r es + config.timeoutMs + config.heartbeatMs < e.1 →
    (∃ t, lastSign c.outbox opened r es + config.timeoutMs < t ∧
      t ≤ lastSign c.outbox opened r es + config.timeoutMs + config.heartbeatMs ∧
      Occurs next (Stops c.outbox true t) r es) ∨
    ∃ t, t ≤ lastSign c.outbox opened r es + config.timeoutMs + config.heartbeatMs ∧
      Occurs next (Stops c.outbox false t) r es
  gone : ∀ t before now after, es = before ++ (now, .move c.outbox .finish) :: after →
    Occurs next (Stops c.outbox true t) r before →
    let r₀ := before.foldl next r
    let r₁ := r₀.next (now, .move c.outbox .finish)
    c.id ∉ (es.foldl next r).hub.index ∧
      ((r₀.hub.room c.principal.account).desktop = some c →
        ∀ (i : ConnectionId) (m : Connection),
          (r₀.hub.room c.principal.account).mobiles[i]? = some m → (r₀.hub.outbox m.outbox).Takes →
          (r₁.hub.outbox m.outbox).told =
            (r₀.hub.outbox m.outbox).told ++ [(Hub.presence false c.principal).render])

theorem heartbeat_le_timeout (hvalid : config.flaw? = none) :
    config.heartbeatMs ≤ config.timeoutMs := by
  have hlonger : config.heartbeatSeconds < config.timeoutSeconds := by
    by_contra hshort
    have hflaw : config.flaw? ≠ none := by
      simp only [Config.flaw?, Nat.le_of_not_lt hshort, if_true]
      split_ifs <;> simp
    exact hflaw hvalid
  exact Nat.mul_le_mul_right 1000 (Nat.le_of_lt hlonger)

end Switchboard.Relay
