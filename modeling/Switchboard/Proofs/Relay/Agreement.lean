import Switchboard.Proofs.Socket.Accord
import Switchboard.Relay.Basic

/-! # Sockets and hub agree

The hub takes connections out on its own account, and a socket stops on its own account.  They
agree all the same on who is connected: a socket that is running is registered or has a close
waiting for it, one that has stopped is not registered, and one that was not let in has no part
in it.

* `Relay.Sound` — all sockets and the hub agree;
* `Relay.Sound.put` — one socket is put in the place of another one, or is new;
* `Relay.Sound.transition` — whatever a socket does keeps the agreement;
* `Relay.Sound.start`, `Relay.Sound.evict`, `Relay.Sound.next`, `Relay.Sound.run` — so does
  every event, and every run;
* `Relay.sockets_agree` — the agreement, in every run.
-/

namespace Switchboard.Relay

open Socket

/-! ## All sockets and the hub -/

/-- Sockets have their names, whoever is in the hub has a socket, all sockets accord with the
hub, and the names that are still to come are new. -/
structure Sound (r : Relay) (coming : List ConnectionId) : Prop where
  consistent : r.hub.Consistent
  named : ∀ (o : OutboxId) (s : Socket), r.sockets[o]? = some s → s.outbox = o
  peopled : Hub.Peopled (fun _ c => ∃ s : Socket, r.sockets[c.outbox]? = some s ∧
    s.connection? = some c) r.hub
  unique : ∀ (o o' : OutboxId) (s s' : Socket) (i : ConnectionId), r.sockets[o]? = some s →
    r.sockets[o']? = some s' → s.id = some i → s'.id = some i → o = o'
  accords : ∀ (o : OutboxId) (s : Socket), r.sockets[o]? = some s → s.Accords r.hub
  fresh : coming.Nodup
  new : ∀ (o : OutboxId) (s : Socket) (i : ConnectionId), r.sockets[o]? = some s →
    s.id = some i → i ∉ coming

/-- Whoever registers has a name that is still to come, and an outbox that is not in use. -/
def Brings (r : Relay) (coming : List ConnectionId) (a : Hub.Action) : Prop :=
  ∀ d, a = .register d → d.id ∈ coming ∧ d.outbox ∉ r.sockets

namespace Sound

variable {r : Relay} {coming coming' : List ConnectionId} {o : OutboxId} {s s' : Socket}
  {c : Connection} {a : Hub.Action} {g : Hub}

theorem empty (config : Config) (hfresh : coming.Nodup) : Sound (.empty config) coming where
  consistent := .empty config
  named o s hs := by simp [Relay.empty] at hs
  peopled := .empty config
  unique o o' s s' i hs := by simp [Relay.empty] at hs
  accords o s hs := by simp [Relay.empty] at hs
  fresh := hfresh
  new o s i hs := by simp [Relay.empty] at hs

theorem fewer (hs : Sound r coming) (hsub : coming'.Sublist coming) : Sound r coming' where
  consistent := hs.consistent
  named := hs.named
  peopled := hs.peopled
  unique := hs.unique
  accords := hs.accords
  fresh := hs.fresh.sublist hsub
  new o s i hget hi hmem := hs.new o s i hget hi (hsub.subset hmem)

/-- Whoever is in the hub has a socket of that name. -/
theorem socket_of_mem (hs : Sound r coming) {i : ConnectionId} (hi : i ∈ r.hub.index) :
    ∃ (o : OutboxId) (s : Socket), r.sockets[o]? = some s ∧ s.id = some i := by
  obtain ⟨c, hmember, rfl⟩ := hs.consistent.exists_member hi
  obtain ⟨-, s, hget, hc⟩ := hs.peopled.member hmember
  exact ⟨c.outbox, s, hget, (connection?_eq_some.1 hc).1⟩

theorem separate (hs : Sound r coming) : r.hub.Separate := by
  intro c c' hc hc' ho
  obtain ⟨-, s, hget, hconn⟩ := hs.peopled.member hc
  obtain ⟨-, s', hget', hconn'⟩ := hs.peopled.member hc'
  rw [ho, hget'] at hget
  cases hget
  exact Option.some.inj (hconn.symm.trans hconn')

theorem not_mem_index (hs : Sound r coming) {i : ConnectionId} (hi : i ∈ coming) :
    i ∉ r.hub.index := by
  intro hin
  obtain ⟨o, s, hget, hid⟩ := hs.socket_of_mem hin
  exact hs.new o s i hget hid hi

/-- A connection can be followed through what anybody does with the hub, if nobody else has its
name or its outbox. -/
theorem follows_of_alone (hs : Sound r coming) (ha : Brings r coming a)
    (halone : Hub.Peopled (fun _ c' => c'.id = c.id ∨ c'.outbox = c.outbox → c' = c) r.hub)
    (hcoming : ∀ d, a = .register d → d.id = c.id ∨ d.outbox = c.outbox → d = c) :
    Hub.Follows c r.hub [a] where
  consistent := hs.consistent
  alone := halone
  fresh := by
    rw [Hub.arrivals_cons]
    cases a.arrival? <;> simp [Hub.arrivals]
  new i hi := by
    obtain ⟨d, hd, rfl⟩ := List.mem_map.1 (Hub.arrivals_eq [a] ▸ hi)
    have heq := List.mem_singleton.1 (Hub.mem_newcomers.1 hd)
    exact hs.not_mem_index (ha d heq.symm).1
  coming d hd := hcoming d (List.mem_singleton.1 (Hub.mem_newcomers.1 hd)).symm

theorem follows (hs : Sound r coming) (hget : r.sockets[o]? = some s)
    (hc : s.connection? = some c) (ha : Brings r coming a) : Hub.Follows c r.hub [a] := by
  obtain ⟨hid, -, houtbox⟩ := connection?_eq_some.1 hc
  have ho : c.outbox = o := houtbox.symm.trans (hs.named o s hget)
  refine hs.follows_of_alone ha (hs.peopled.imp ?_) fun d hd hsame => ?_
  · rintro - c' ⟨s', hget', hc'⟩ hsame
    have hkey : c'.outbox = o := by
      obtain hsame | hsame := hsame
      · exact hs.unique c'.outbox o s' s c.id hget' hget
          (hsame ▸ (connection?_eq_some.1 hc').1) hid
      · exact hsame.trans ho
    rw [hkey, hget] at hget'
    cases hget'
    rw [hc] at hc'
    cases hc'
    rfl
  · obtain ⟨hnew, hsocket⟩ := ha d hd
    obtain hsame | hsame := hsame
    · exact absurd (hsame ▸ hnew) (hs.new o s c.id hget hid)
    · exact absurd (hsame.trans ho ▸ Table.mem_of_lookup hget) hsocket

/-- What anybody asks of the hub leaves a socket in accord with it that does not leave itself. -/
theorem accords_next (hs : Sound r coming) (hget : r.sockets[o]? = some s)
    (ha : Brings r coming a) (ht : a.target? = none)
    (hleave : ∀ i, a = .deregister i → s.id ≠ some i) : s.Accords (r.hub.next a) := by
  have haccords := hs.accords o s hget
  have hmem : s.outbox ∈ r.sockets := hs.named o s hget ▸ Table.mem_of_lookup hget
  have hother : ∀ d, a = .register d → d.outbox ≠ s.outbox :=
    fun d hd ho => (ha d hd).2 (ho ▸ hmem)
  cases hc : s.connection? with
  | some c =>
    obtain ⟨hid, -, houtbox⟩ := connection?_eq_some.1 hc
    have hfollows := hs.follows hget hc ha
    have hcome : a ≠ .register c := fun heq => hother c heq houtbox.symm
    refine .of_connection hc (fun hrunning => ?_) fun hstopped => ?_
    · obtain ⟨hopen, hatt⟩ := haccords.attached hrunning hc
      exact hfollows.attached_next hopen hatt (by simp [ht]) hcome
        fun heq => hleave c.id heq hid
    · exact hfollows.not_mem_index (haccords.stopped hstopped c hc) hcome
  | none =>
    -- nobody in the hub has its outbox, and nobody brings it in
    have hno : Hub.Peopled (fun _ c => c.outbox ≠ s.outbox) r.hub := by
      refine hs.peopled.imp ?_
      rintro - c ⟨s', hget', hc'⟩ ho
      rw [ho, hs.named o s hget, hget] at hget'
      cases hget'
      rw [hc] at hc'
      cases hc'
    refine .of_refused hc (haccords.not_running hc) ?_
    rw [Hub.outbox_next_unowned hno hother (by simp [ht])]
    exact haccords.refused hc

theorem consistent_next (hs : Sound r coming) (ha : Brings r coming a) :
    (r.hub.next a).Consistent := by
  refine hs.consistent.next fun i harr => ?_
  cases a with
  | register d =>
    cases harr
    exact hs.not_mem_index (ha d rfl).1
  | _ => cases harr

/-! ### Putting a socket in -/

/-- A socket is put in the place of another one, or is new, while the hub changes. -/
theorem put (hs : Sound r coming) (hc : g.Consistent) (ho : s.outbox = o)
    (hpeopled : Hub.Peopled (fun _ c => (∃ s' : Socket, o ≠ c.outbox ∧
      r.sockets[c.outbox]? = some s' ∧ s'.connection? = some c) ∨ s.connection? = some c) g)
    (hothers : ∀ (o' : OutboxId) (s' : Socket), o ≠ o' → r.sockets[o']? = some s' →
      s'.Accords g)
    (hself : s.Accords g) (hsub : coming'.Sublist coming)
    (hid : ∀ i, s.id = some i → i ∉ coming' ∧ ∀ (o' : OutboxId) (s' : Socket), o ≠ o' →
      r.sockets[o']? = some s' → s'.id ≠ some i) :
    Sound ⟨g, r.sockets.insert o s⟩ coming' where
  consistent := hc
  named o' s' hget := by
    obtain ⟨rfl, rfl⟩ | ⟨-, hget⟩ := Table.lookup_insert_eq_some.1 hget
    · exact ho
    · exact hs.named o' s' hget
  peopled := by
    refine hpeopled.imp ?_
    rintro - c (⟨s', hne, hget, hc⟩ | hself)
    · exact ⟨s', Table.lookup_insert_eq_some.2 (.inr ⟨hne, hget⟩), hc⟩
    · have hkey : o = c.outbox := ho.symm.trans (connection?_eq_some.1 hself).2.2
      exact ⟨s, Table.lookup_insert_eq_some.2 (.inl ⟨hkey, rfl⟩), hself⟩
  unique o₁ o₂ s₁ s₂ i h₁ h₂ hi₁ hi₂ := by
    -- at most one of the two is the socket that is put in
    obtain ⟨rfl, rfl⟩ | ⟨hne₁, h₁⟩ := Table.lookup_insert_eq_some.1 h₁ <;>
      obtain ⟨heq, hself⟩ | ⟨hne₂, h₂⟩ := Table.lookup_insert_eq_some.1 h₂
    · exact heq
    · exact absurd hi₂ ((hid i hi₁).2 o₂ s₂ hne₂ h₂)
    · exact absurd hi₁ ((hid i (hself ▸ hi₂)).2 o₁ s₁ hne₁ h₁)
    · exact hs.unique o₁ o₂ s₁ s₂ i h₁ h₂ hi₁ hi₂
  accords o' s' hget := by
    obtain ⟨rfl, rfl⟩ | ⟨hne, hget⟩ := Table.lookup_insert_eq_some.1 hget
    · exact hself
    · exact hothers o' s' hne hget
  fresh := hs.fresh.sublist hsub
  new o' s' i hget hi := by
    obtain ⟨rfl, rfl⟩ | ⟨-, hget⟩ := Table.lookup_insert_eq_some.1 hget
    · exact (hid i hi).1
    · exact fun hmem => hs.new o' s' i hget hi (hsub.subset hmem)

/-- A socket stays who it is, and nobody comes into the hub. -/
theorem replace (hs : Sound r coming) (hget : r.sockets[o]? = some s)
    (hconn : s'.connection? = s.connection?) (ho : s'.outbox = s.outbox) (hc : g.Consistent)
    (hg : Hub.Gains (fun _ => False) (fun _ _ _ => True) r.hub g)
    (hothers : ∀ (o' : OutboxId) (t : Socket), o ≠ o' → r.sockets[o']? = some t → t.Accords g)
    (hself : s'.Accords g) : Sound ⟨g, r.sockets.insert o s'⟩ coming := by
  have hids : s'.id = s.id := by
    cases hc' : s.connection? with
    | none => rw [connection?_eq_none.1 (hconn.trans hc'), connection?_eq_none.1 hc']
    | some c =>
      rw [(connection?_eq_some.1 (hconn.trans hc')).1, (connection?_eq_some.1 hc').1]
  refine hs.put hc (ho.trans (hs.named o s hget)) ((hs.peopled.gains hg).imp ?_) hothers hself
    (List.Sublist.refl _) fun i hi => ?_
  · rintro - c ⟨t, hgett, hct⟩
    by_cases hne : o = c.outbox
    · rw [← hne, hget] at hgett
      cases hgett
      exact .inr (hconn.trans hct)
    · exact .inl ⟨t, hne, hgett, hct⟩
  · rw [hids] at hi
    exact ⟨hs.new o s i hget hi, fun o' t hne hgett hit =>
      hne (hs.unique o o' s t i hget hgett hi hit)⟩

/-! ### What sockets do -/

/-- A socket works on its own outbox. -/
theorem setOutbox (hs : Sound r coming) (hget : r.sockets[o]? = some s)
    (hconn : s'.connection? = s.connection?) (ho : s'.outbox = s.outbox) {b : Outbox}
    (hself : s'.Accords (r.hub.setOutbox s.outbox b)) :
    Sound ⟨r.hub.setOutbox s.outbox b, r.sockets.insert o s'⟩ coming := by
  refine hs.replace hget hconn ho (hs.consistent.of_tables rfl rfl rfl) (.of_tables rfl rfl rfl)
    (fun o' t hne hgett => (hs.accords o' t hgett).of_same rfl ?_) hself
  refine Hub.outbox_setOutbox_ne _ b ?_
  rw [hs.named o s hget, hs.named o' t hgett]
  exact hne

/-- A socket asks something of the hub, and stays in accord with it itself. -/
theorem asks (hs : Sound r coming) (hget : r.sockets[o]? = some s) (ht : a.target? = none)
    (hcome : ∀ d, a ≠ .register d)
    (hleave : ∀ (o' : OutboxId) (t : Socket) (i : ConnectionId), o ≠ o' →
      r.sockets[o']? = some t → a = .deregister i → t.id ≠ some i)
    (hself : s.Accords (r.hub.next a)) :
    Sound ⟨r.hub.next a, r.sockets.insert o s⟩ coming := by
  have ha : Brings r coming a := fun d hd => absurd hd (hcome d)
  refine hs.replace hget rfl rfl (hs.consistent_next ha)
    ((Hub.gains_next r.hub a).imp (fun i harr => ?_) fun _ _ _ _ => trivial)
    (fun o' t hne hgett => hs.accords_next hgett ha ht fun i hi => hleave o' t i hne hgett hi)
    hself
  cases a with
  | register d => exact absurd rfl (hcome d)
  | _ => cases harr

/-- Whatever a socket does, all stay in accord. -/
theorem transition {h : Hub} {sockets : Table OutboxId Socket} (hd : Transition h s g s')
    (hs : Sound ⟨h, sockets⟩ coming) (hget : sockets[o]? = some s) :
    Sound ⟨g, sockets.insert o s'⟩ coming := by
  -- along what is done: each part starts from the table that the part before it has left behind
  induction hd generalizing sockets with
  | becomes hb =>
    exact hs.replace hget hb.connection hb.outbox hs.consistent (.of_tables rfl rfl rfl)
      (fun o' t _ hgett => hs.accords o' t hgett) ((hs.accords o _ hget).becomes hb)
  | @passes h s c text hc =>
    have hcome : ∀ d, Hub.Action.route c.id c.principal.role text ≠ .register d := by simp
    have hstay : ∀ i, Hub.Action.route c.id c.principal.role text ≠ .deregister i := by simp
    have ha : Brings ⟨h, sockets⟩ coming (.route c.id c.principal.role text) :=
      fun d hd => absurd hd (hcome d)
    exact hs.asks hget rfl hcome (fun _ _ i _ _ hi => absurd hi (hstay i))
      (hs.accords_next hget ha rfl fun i hi => absurd hi (hstay i))
  | takes text b hrunning ht =>
    exact hs.setOutbox hget rfl rfl ((hs.accords o _ hget).takes hrunning ht)
  | @heeds h s reason b hrunning ht =>
    have hb := becomes_quit s
    refine hs.setOutbox hget hb.connection hb.outbox ?_
    rw [← hb.outbox]
    refine ((hs.accords o s hget).becomes hb).setOutbox ?_ ?_
    · simp [Socket.quit, hrunning]
    · rw [hb.outbox]
      exact Outbox.sent_take ht
  | leaves c hstopping hc =>
    -- no other socket has the name that leaves, and this one does not count on its place any more
    obtain ⟨hid, -⟩ := connection?_eq_some.1 hc
    refine hs.asks hget rfl (by simp) ?_ ?_
    · rintro o' t i hne hgett hi hit
      cases hi
      exact hne (hs.unique o o' _ t c.id hget hgett hid hit)
    · refine .of_connection hc (fun hrunning => ?_) fun hstopped => ?_
      · rw [hstopping] at hrunning
        cases hrunning
      · rw [hstopping] at hstopped
        cases hstopped
  | @ends h s hstopping hgone =>
    have hends := (hs.accords o s hget).ends hgone
    refine hs.setOutbox hget ?_ ?_ hends <;> rfl
  | andThen _ _ ih ih' =>
    rename_i t s' _ _
    have hfirst := ih hs hget
    have hthen := ih' hfirst (by rw [Table.lookup_insert, if_pos rfl])
    rwa [Table.insert_insert] at hthen

/-! ### Coming -/

theorem attach (hs : Sound r coming) (ho : o ∉ r.sockets) (b : Outbox) :
    Sound ⟨r.hub.setOutbox o b, r.sockets⟩ coming where
  consistent := hs.consistent.of_tables rfl rfl rfl
  named := hs.named
  peopled := by
    have hg : Hub.Gains (fun _ => False) (fun _ _ _ => True) r.hub (r.hub.setOutbox o b) :=
      .of_tables rfl rfl rfl
    exact hs.peopled.gains hg
  unique := hs.unique
  accords o' s hget := by
    refine (hs.accords o' s hget).of_same rfl (Hub.outbox_setOutbox_ne _ b ?_)
    rw [hs.named o' s hget]
    rintro rfl
    exact ho (Table.mem_of_lookup hget)
  fresh := hs.fresh
  new := hs.new

theorem refused (hs : Sound r coming) (ho : s.outbox ∉ r.sockets) (hnone : s.connection? = none)
    (hphase : s.phase ≠ .running) (hsent : (r.hub.outbox s.outbox).sent = []) :
    Sound ⟨r.hub, r.sockets.insert s.outbox s⟩ coming := by
  refine hs.put hs.consistent rfl (hs.peopled.imp ?_) (fun o' t _ hget => hs.accords o' t hget)
    (.of_refused hnone hphase hsent) (List.Sublist.refl _) fun i hi => ?_
  · rintro - c ⟨t, hget, hc⟩
    refine .inl ⟨t, ?_, hget, hc⟩
    rintro heq
    exact ho (heq ▸ Table.mem_of_lookup hget)
  · rw [connection?_eq_none.1 hnone] at hi
    cases hi

/-- A socket that the hub lets in is registered. -/
theorem letIn (hs : Sound r (c.id :: coming)) (ho : c.outbox ∉ r.sockets)
    (hr : r.hub.refusal? c = none) (hopen : (r.hub.outbox c.outbox).Open)
    (hc : s.connection? = some c) (hphase : s.phase ≠ .stopped) :
    Sound ⟨r.hub.next (.register c), r.sockets.insert c.outbox s⟩ coming := by
  obtain ⟨hid, -, houtbox⟩ := connection?_eq_some.1 hc
  have ha : Brings r (c.id :: coming) (.register c) := by
    rintro d hd
    cases hd
    exact ⟨List.mem_cons_self, ho⟩
  have hne : ∀ (o : OutboxId) (t : Socket), r.sockets[o]? = some t → c.outbox ≠ o := by
    rintro o t hget rfl
    exact ho (Table.mem_of_lookup hget)
  -- nobody in the hub has the newcomer's name or its outbox, as every member has a socket
  have hfollows : Hub.Follows c r.hub [.register c] := by
    refine hs.follows_of_alone ha (hs.peopled.imp ?_)
      fun d hd _ => (Hub.Action.register.inj hd).symm
    rintro - d ⟨t, hget, hd⟩ (hsame | hsame)
    · exact absurd List.mem_cons_self
        (hs.new d.outbox t c.id hget (hsame ▸ (connection?_eq_some.1 hd).1))
    · exact absurd hsame.symm (hne d.outbox t hget)
  obtain ⟨hopen', hatt⟩ := hfollows.attached_arrival hopen hr
  refine hs.put (hs.consistent_next ha) houtbox ?_
    (fun o' t _ hget => hs.accords_next hget ha rfl (by simp))
    (.of_connection hc (fun _ => ⟨hopen', hatt⟩) fun hstopped => absurd hstopped hphase)
    (List.sublist_cons_self _ _) fun i hi => ?_
  · refine Hub.Peopled.next (hs.peopled.imp ?_) fun d hd => ?_
    · rintro - d ⟨t, hget, hd⟩
      exact .inl ⟨t, hne d.outbox t hget, hget, hd⟩
    · cases hd
      exact .inr hc
  · rw [hid] at hi
    cases hi
    exact ⟨(List.nodup_cons.1 hs.fresh).1,
      fun o' t _ hget hit => hs.new o' t c.id hget hit List.mem_cons_self⟩

/-- A socket opens, under a name that is not in use. -/
theorem start (hs : Sound r (c.id :: coming)) (ho : c.outbox ∉ r.sockets) (now : Instant) :
    Sound ⟨(Socket.start r.hub now c).hub,
      r.sockets.insert c.outbox (Socket.start r.hub now c).socket⟩ coming := by
  have hopened : Sound ⟨opened r.hub c, r.sockets⟩ (c.id :: coming) := hs.attach ho _
  have houtbox : (opened r.hub c).outbox c.outbox = .fresh r.hub.config.outboxCapacity :=
    Hub.outbox_setOutbox_self _ _ _
  rw [start_eq]
  cases hr : (opened r.hub c).refusal? c with
  | some e =>
    have hfew := hopened.fewer (List.sublist_cons_self c.id coming)
    exact hfew.refused (s := (Socket.fresh r.hub.config now c).quit) ho rfl
      (by simp [Socket.quit, Socket.fresh]) (congrArg Outbox.sent houtbox)
  | none =>
    exact hopened.letIn ho hr (houtbox ▸ .fresh _) (connection?_eq_some.2 ⟨rfl, rfl, rfl⟩)
      (by simp [Socket.fresh])

theorem evict (hs : Sound r coming) (account : AccountId) (device : DeviceId) :
    Sound { r with hub := (r.hub.evict account device).1 } coming where
  consistent := hs.consistent.evict account device
  named := hs.named
  peopled := by
    have hg : Hub.Gains (fun _ => False) (fun _ _ _ => True) r.hub (r.hub.evict account device).1 :=
      Hub.gains_evict r.hub account device
    exact hs.peopled.gains hg
  unique := hs.unique
  accords o s hget :=
    hs.accords_next (a := .evict account device) hget (by simp [Brings]) rfl (by simp)
  fresh := hs.fresh
  new := hs.new

end Sound

/-! ## Every run -/

/-- The name of a connection that comes with an event. -/
def Event.arrival? : Event → Option ConnectionId
  | .start c => some c.id
  | _ => none

/-- The socket that an event is about. -/
def Event.actor? : Event → Option OutboxId
  | .start c => some c.outbox
  | .move o _ => some o
  | .evict _ _ => none

/-- The names of connections that come in a run. -/
def arrivals (es : List (Instant × Event)) : List ConnectionId := es.filterMap (·.2.arrival?)

/-- The relay after an event. -/
def next (r : Relay) (e : Instant × Event) : Relay := (r.step e.1 e.2).1

theorem run_fst (r : Relay) (es : List (Instant × Event)) : (r.run es).1 = es.foldl next r := by
  induction es generalizing r with
  | nil => rfl
  | cons e es ih =>
    rw [List.foldl_cons, ← ih]
    rfl

variable {r : Relay} {e : Instant × Event} {es : List (Instant × Event)}
  {coming : List ConnectionId} {o : OutboxId} {s : Socket}

theorem arrivals_cons (e : Instant × Event) (es : List (Instant × Event)) :
    arrivals (e :: es) = e.2.arrival?.toList ++ arrivals es := by
  unfold arrivals
  rw [List.filterMap_cons]
  cases e.2.arrival? <;> rfl

theorem arrivals_append (es es' : List (Instant × Event)) :
    arrivals (es ++ es') = arrivals es ++ arrivals es' :=
  List.filterMap_append

theorem next_start (r : Relay) (now : Instant) (c : Connection) :
    r.next (now, .start c) = if c.outbox ∈ r.sockets then r
      else ⟨(Socket.start r.hub now c).hub,
        r.sockets.insert c.outbox (Socket.start r.hub now c).socket⟩ := by
  change (r.start now c).1 = _
  unfold start
  split <;> rfl

theorem next_move (now : Instant) (m : Move) (hget : r.sockets[o]? = some s) :
    r.next (now, .move o m) =
      ⟨(s.step r.hub now m).hub, r.sockets.insert o (s.step r.hub now m).socket⟩ := by
  change (r.act o _).1 = _
  unfold act
  rw [hget]

theorem next_move_none (now : Instant) (m : Move) (hget : r.sockets[o]? = none) :
    r.next (now, .move o m) = r := by
  change (r.act o _).1 = _
  unfold act
  rw [hget]

/-- A socket is there after an event if it was there before, and only its own moves change it. -/
theorem socket_next (hget : r.sockets[o]? = some s) (e : Instant × Event) :
    (∃ now m, e = (now, .move o m) ∧
        (r.next e).sockets[o]? = some (s.step r.hub now m).socket) ∨
      (∀ m, e.2 ≠ .move o m) ∧ (r.next e).sockets[o]? = some s := by
  obtain ⟨now, e⟩ := e
  cases e with
  | start c =>
    refine .inr ⟨by simp, ?_⟩
    rw [next_start]
    split
    · exact hget
    · rename_i hnew
      -- the name is in use, so it is another one that starts
      rw [Table.lookup_insert, if_neg, hget]
      rintro rfl
      exact hnew (Table.mem_of_lookup hget)
  | move o' m =>
    by_cases ho : o' = o
    · subst ho
      refine .inl ⟨now, m, rfl, ?_⟩
      rw [next_move now m hget, Table.lookup_insert, if_pos rfl]
    · refine .inr ⟨by simp [ho], ?_⟩
      cases hother : r.sockets[o']? with
      | none => rwa [next_move_none now m hother]
      | some s' => rw [next_move now m hother, Table.lookup_insert, if_neg ho, hget]
  | evict account device => exact .inr ⟨by simp, hget⟩

/-- What all moves keep of a socket is kept of it in every run. -/
theorem socket_run {P : Socket → Prop} (hmove : ∀ h s now m, P s → P (s.step h now m).socket)
    (hget : r.sockets[o]? = some s) (hs : P s) (es : List (Instant × Event)) :
    ∃ s', (es.foldl next r).sockets[o]? = some s' ∧ P s' := by
  induction es generalizing r s with
  | nil => exact ⟨s, hget, hs⟩
  | cons e es ih =>
    obtain ⟨now, m, -, hget'⟩ | ⟨-, hget'⟩ := socket_next hget e
    · exact ih hget' (hmove r.hub s now m hs)
    · exact ih hget' hs

theorem Sound.next (hs : Sound r (e.2.arrival?.toList ++ coming)) : Sound (r.next e) coming := by
  obtain ⟨now, e⟩ := e
  cases e with
  | start c =>
    rw [next_start]
    split
    · exact hs.fewer (List.sublist_cons_self c.id coming)
    · rename_i ho
      exact Sound.start hs ho now
  | move o m =>
    cases hget : r.sockets[o]? with
    | none =>
      rw [next_move_none now m hget]
      exact hs
    | some s =>
      rw [next_move now m hget]
      exact hs.transition (Socket.transition_step r.hub s now m) hget
  | evict account device => exact Sound.evict hs account device

theorem Sound.run (hs : Sound r (arrivals es ++ coming)) : Sound (r.run es).1 coming := by
  rw [run_fst]
  induction es generalizing r with
  | nil => exact hs
  | cons e es ih =>
    rw [arrivals_cons, List.append_assoc] at hs
    exact ih hs.next

theorem sound_of_run (config : Config) {es' : List (Instant × Event)}
    (hfresh : (arrivals (es ++ es')).Nodup) :
    Sound ((empty config).run es).1 (arrivals es') := by
  rw [arrivals_append] at hfresh
  exact (Sound.empty config hfresh).run

/-- A socket that the hub has not let in changes nothing but its own outbox, neither when it is
turned away nor later. -/
theorem refused_next
    (hnamed : ∀ (o : OutboxId) (s : Socket), r.sockets[o]? = some s → s.outbox = o)
    (hactor : e.2.actor? = some o) (hget : (r.next e).sockets[o]? = some s)
    (hnone : s.connection? = none) :
    (r.next e).hub.rooms = r.hub.rooms ∧ (r.next e).hub.index = r.hub.index ∧
      ∀ o', o ≠ o' → (r.next e).hub.outbox o' = r.hub.outbox o' := by
  obtain ⟨now, e⟩ := e
  cases e with
  | start c =>
    cases hactor
    rw [next_start] at hget ⊢
    split at hget
    · rename_i ho
      rw [if_pos ho]
      exact ⟨rfl, rfl, fun _ _ => rfl⟩
    · rename_i ho
      rw [Table.lookup_insert, if_pos rfl, Option.some.injEq] at hget
      subst hget
      rw [if_neg ho]
      dsimp only
      rw [start_of_refused hnone]
      exact ⟨rfl, rfl, fun o' => Hub.outbox_setOutbox_ne _ _⟩
  | move o m =>
    cases hactor
    cases hbefore : r.sockets[o]? with
    | none =>
      rw [next_move_none now m hbefore]
      exact ⟨rfl, rfl, fun _ _ => rfl⟩
    | some t =>
      rw [next_move now m hbefore] at hget ⊢
      rw [Table.lookup_insert, if_pos rfl, Option.some.injEq] at hget
      subst hget
      -- a socket that was turned away has no connection to speak for
      have hd := Socket.transition_step r.hub t now m
      have hrefused := hd.refused (hd.same.1.symm.trans hnone)
      rwa [hnamed o t hbefore] at hrefused
  | evict => cases hactor

/-- Sockets and hub agree on who is connected.  A socket that was not let in never changes rooms
or index, nor any outbox but its own, into which nothing is ever put.  One that was let in and is
running is registered or has a close waiting for it, one that has stopped is not registered, and
whoever is registered has a socket that has not stopped. -/
theorem sockets_agree (config : Config) (es : List (Instant × Event))
    (hfresh : (arrivals es).Nodup) :
    let r := ((empty config).run es).1
    (∀ before e after, es = before ++ e :: after →
      let r₀ := ((empty config).run before).1
      let r₁ := r₀.next e
      ∀ (o : OutboxId) (s : Socket), e.2.actor? = some o → r₁.sockets[o]? = some s → s.id = none →
        r₁.hub.rooms = r₀.hub.rooms ∧ r₁.hub.index = r₀.hub.index ∧
        (∀ o', o ≠ o' → r₁.hub.outbox o' = r₀.hub.outbox o') ∧ (r₁.hub.outbox o).sent = []) ∧
    (∀ (o : OutboxId) (s : Socket) (i : ConnectionId), r.sockets[o]? = some s → s.id = some i →
      (s.phase = .running →
        i ∈ r.hub.index ∨ ∃ reason, .close reason ∈ (r.hub.outbox o).waiting) ∧
      (s.phase = .stopped → i ∉ r.hub.index)) ∧
    ∀ i ∈ r.hub.index, ∃ (o : OutboxId) (s : Socket), r.sockets[o]? = some s ∧ s.id = some i ∧
      s.phase ≠ .stopped := by
  intro r
  have hs : Sound r (arrivals []) := sound_of_run config (by rwa [List.append_nil])
  have hagree : ∀ (o : OutboxId) (s : Socket) (i : ConnectionId), r.sockets[o]? = some s →
      s.id = some i → (s.phase = .running →
        i ∈ r.hub.index ∨ ∃ reason, .close reason ∈ (r.hub.outbox o).waiting) ∧
      (s.phase = .stopped → i ∉ r.hub.index) := by
    intro o s i hget hid
    have haccords := hs.accords o s hget
    have ho := hs.named o s hget
    have hc : s.connection? = some ⟨i, s.principal, o⟩ := connection?_eq_some.2 ⟨hid, rfl, ho⟩
    exact ⟨fun hrunning => (haccords.attached hrunning hc).2,
      fun hstopped => haccords.stopped hstopped _ hc⟩
  refine ⟨?_, hagree, fun i hi => ?_⟩
  · rintro before e after rfl r₀ r₁ o s hactor hget hid
    have hnone := connection?_eq_none.2 hid
    have hs₀ : Sound r₀ (arrivals (e :: after)) := sound_of_run config hfresh
    have hs₁ : Sound r₁ (arrivals after) := Sound.next (arrivals_cons e after ▸ hs₀)
    -- the step leaves all else alone, and `Accords` says that its outbox has stayed empty
    obtain ⟨hrooms, hindex, houtbox⟩ := refused_next hs₀.named hactor hget hnone
    refine ⟨hrooms, hindex, houtbox, ?_⟩
    rw [← hs₁.named o s hget]
    exact (hs₁.accords o s hget).refused hnone
  · obtain ⟨o, s, hget, hid⟩ := hs.socket_of_mem hi
    exact ⟨o, s, hget, hid, fun hstopped => (hagree o s i hget hid).2 hstopped hi⟩

/-- The second of three desktops takes the place of the first one, which is told so and stops.
The third one takes the place of the second one, which has not been told yet, and a mobile finds
no place. -/
theorem sockets_agree_replaced :
    let config : Config := { maxConnections := 1 }
    let es : List (Instant × Event) :=
      [(0, .start ⟨⟨1⟩, .desktop ⟨10⟩ ⟨20⟩ "first", 0⟩),
        (1, .start ⟨⟨2⟩, .desktop ⟨10⟩ ⟨21⟩ "second", 1⟩),
        (2, .move 0 .take), (3, .move 0 .take), (4, .move 0 .finish),
        (5, .start ⟨⟨3⟩, .desktop ⟨10⟩ ⟨22⟩ "third", 2⟩), (6, .start ⟨⟨4⟩, .mobile ⟨10⟩, 3⟩)]
    let r := ((empty config).run es).1
    let seen (o : OutboxId) := (r.sockets[o]?).map fun s => (s.id, s.phase)
    (arrivals es).Nodup ∧ seen 0 = some (some ⟨1⟩, .stopped) ∧
      seen 1 = some (some ⟨2⟩, .running) ∧ seen 3 = some (none, .stopping) ∧
      ⟨1⟩ ∉ r.hub.index ∧ ∃ reason, .close reason ∈ (r.hub.outbox 1).waiting := by
  intro config es r seen
  have hfresh : (arrivals es).Nodup := by decide
  have hfirst : seen 0 = some (some ⟨1⟩, .stopped) := by decide +kernel
  have hsecond : seen 1 = some (some ⟨2⟩, .running) := by decide +kernel
  have hfourth : seen 3 = some (none, .stopping) := by decide +kernel
  have hgone : ⟨2⟩ ∉ r.hub.index := by decide +kernel
  obtain ⟨-, hagree, -⟩ := sockets_agree config es hfresh
  obtain ⟨s, hget, hs⟩ := Option.map_eq_some_iff.1 hfirst
  obtain ⟨t, hgett, ht⟩ := Option.map_eq_some_iff.1 hsecond
  rw [Prod.mk.injEq] at hs ht
  have hstopped := (hagree 0 s ⟨1⟩ hget hs.1).2 hs.2
  have hclose := ((hagree 1 t ⟨2⟩ hgett ht.1).1 ht.2).resolve_left hgone
  exact ⟨hfresh, hfirst, hsecond, hfourth, hstopped, hclose⟩

end Switchboard.Relay
