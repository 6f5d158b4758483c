import Switchboard.Proofs.Hub.Isolation
import Switchboard.Proofs.Relay.Agreement

/-! # Who is in the hub of a relay

Only a client that connects brings somebody into the hub.  When a device is removed its desktop
leaves, and what is another account's stays as it is.

* `Hub.Peopled.of_tables`, `Socket.Transition.peopled`, `Relay.peopled_next` — nobody else comes
  into the hub;
* `Relay.homes`, `Relay.Sound.housed` — accounts have sockets and connections of their own;
* `Hub.desktop_evict`, `Relay.Sound.evict_elsewhere` — what is left once a device is removed.
-/

namespace Switchboard

/-! ## Coming in -/

section Peopled

variable {h g : Hub} {P : AccountId → Connection → Prop}

theorem Hub.Peopled.of_tables (hp : Peopled P h) (hconf : g.config = h.config)
    (hrooms : g.rooms = h.rooms) (hindex : g.index = h.index) : Peopled P g := by
  have hg : Gains (fun _ => False) (fun _ _ _ => False) h g := .of_tables hconf hrooms hindex
  exact hp.gains hg

theorem Socket.Transition.peopled {s s' : Socket} (hd : Transition h s g s')
    (hp : Hub.Peopled P h) :
    Hub.Peopled P g := by
  induction hd with
  | becomes => exact hp
  | passes | leaves => exact hp.next (by simp)
  | takes | heeds | ends => exact hp.of_tables rfl rfl rfl
  | andThen _ _ ih ih' => exact ih' (ih hp)

end Peopled

namespace Relay

variable {r : Relay} {e : Instant × Event} {coming : List ConnectionId}
  {P : AccountId → Connection → Prop}

/-- Whoever is in the hub after an event was there before it, or connects at it. -/
theorem peopled_next (hp : Hub.Peopled P r.hub)
    (hnew : ∀ c, e.2 = .start c → P c.principal.account c) : Hub.Peopled P (r.next e).hub := by
  obtain ⟨now, e⟩ := e
  cases e with
  | start c =>
    have hopened : Hub.Peopled P (Socket.opened r.hub c) := hp.of_tables rfl rfl rfl
    rw [next_start]
    split
    · exact hp
    · dsimp only
      rw [Socket.start_eq]
      cases (Socket.opened r.hub c).refusal? c with
      | some e => exact hopened
      | none =>
        refine hopened.next fun d hd => ?_
        cases hd
        exact hnew c rfl
  | move o m =>
    cases hget : r.sockets[o]? with
    | none =>
      rw [next_move_none now m hget]
      exact hp
    | some s =>
      rw [next_move now m hget]
      exact (Socket.transition_step r.hub s now m).peopled hp
  | evict account device =>
    have hg :
        Hub.Gains (fun _ => False) (fun _ _ _ => False) r.hub (r.hub.evict account device).1 :=
      Hub.gains_evict r.hub account device
    exact hp.gains hg

/-! ## Accounts -/

/-- A registered connection belongs to its account, and an outbox to that of its socket. -/
def homes (r : Relay) : Hub.Homes :=
  ⟨fun c => r.hub.index[c]?, fun o => (r.sockets[o]?).map (·.principal.account)⟩

theorem Sound.housed (hs : Sound r coming) : Hub.Housed r.homes r.hub := by
  -- a member's outbox is that of its socket, which speaks for the same account
  have hbox (account : AccountId) (c : Connection) (haccount : c.principal.account = account)
      (hc : ∃ s : Socket, r.sockets[c.outbox]? = some s ∧ s.connection? = some c) :
      r.homes.outbox c.outbox = some account := by
    obtain ⟨s, hget, hconn⟩ := hc
    have hprincipal := (Socket.connection?_eq_some.1 hconn).2.1
    simp [homes, hget, hprincipal, haccount]
  refine ⟨⟨fun account d hd => ?_, fun account i c hc => ?_⟩, fun c account hc => hc⟩
  · have haccount := ((hs.consistent.wellFormed account).desktop d hd).1
    exact ⟨hs.consistent.index_desktop hd,
      hbox account d haccount (hs.peopled.desktop account d hd)⟩
  · obtain ⟨rfl, haccount, -⟩ := (hs.consistent.wellFormed account).mobile i c hc
    exact ⟨hs.consistent.index_mobile (Table.mem_of_lookup hc),
      hbox account c haccount (hs.peopled.mobile account c.id c hc)⟩

end Relay

/-! ## Removing a device -/

theorem Hub.desktop_evict {h : Hub} {account : AccountId} {device : DeviceId} {d : Connection}
    (hd : ((h.evict account device).1.room account).desktop = some d) :
    d.principal.device ≠ some device := by
  have hcases := evicting h account device
  generalize h.evict account device = out at hcases hd
  cases hcases with
  | absent hnot => exact hnot d hd
  | evicted old =>
    have hgone := (deliver_recedes _ _).desktop account d hd
    rw [room_expel, if_pos rfl, Room.kept_desktop] at hgone
    cases hgone

/-- The room of another account is left as it is, and so are its connections in the index. -/
theorem Relay.Sound.evict_elsewhere {r : Relay} {coming : List ConnectionId}
    (hs : Sound r coming) {account other : AccountId} (hne : other ≠ account) (device : DeviceId) :
    let h := (r.hub.evict account device).1
    h.rooms[other]? = r.hub.rooms[other]? ∧
      ∀ c : ConnectionId, h.index[c]? = some other ↔ r.hub.index[c]? = some other := by
  intro h
  have hsame : Hub.SameFor r.homes other r.hub h := Hub.sameFor_evict (Ne.symm hne) hs.housed device
  have hg : Hub.Gains (fun _ => False) (fun _ _ _ => False) r.hub h :=
    Hub.gains_evict r.hub account device
  -- nothing comes into the index, and what belongs to the other account is left in it
  refine ⟨hsame.rooms, fun c => ⟨fun hc => ?_, fun hc => ?_⟩⟩
  · exact (hg.index c other hc).resolve_right id
  · rw [hsame.index c (.inr hc), hc]

end Switchboard
