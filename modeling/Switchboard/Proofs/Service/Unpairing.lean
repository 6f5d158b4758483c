import Switchboard.Proofs.Identity.Devices
import Switchboard.Proofs.Service.Turns

/-! # Live desktops are paired devices

As long as the two halves of a service are in step, every desktop in the hub runs on a device
that the store knows.  So once a device is removed nobody is connected from it; and as an account
has one desktop at most, at most one of its devices is shown as connected.

* `Attended`, `Sound.attended` — whoever is connected is known;
* `Parts`, `Sound.parts` — a device is removed, and nothing else;
* `online_iff`, `Sound.length_online_le` — which devices are shown as connected.
-/

namespace Switchboard.Service

variable {s : Service} {coming : List Fresh}
  {account : AccountId} {i : DeviceId} {d : Identity.Device}

/-- Whoever is connected is known.  A desktop runs on a device that is paired, under its name and
of its account; a mobile speaks for an account that exists; and these are the connections in the
index. -/
structure Attended (s : Service) : Prop where
  index : ∀ (c : ConnectionId) (account : AccountId),
    s.relay.hub.index[c]? = some account ↔ (s.relay.hub.room account).Holds c
  desktop : ∀ account c, (s.relay.hub.room account).desktop = some c →
    ∃ d : Identity.Device, s.identity.devices[d.id]? = some d ∧ d.account = account ∧
      c.principal = .desktop account d.id d.name
  mobile : ∀ account (i : ConnectionId) (c : Connection),
    (s.relay.hub.room account).mobiles[i]? = some c →
      account ∈ s.identity.users ∧ c.principal = .mobile account

theorem Sound.attended (hs : Sound s coming) : s.Attended where
  index := hs.relay.consistent.index_iff
  desktop := by
    rintro account ⟨i, p, o⟩ hc
    obtain ⟨haccount, hrole⟩ := (hs.relay.consistent.wellFormed account).desktop _ hc
    cases hs.admitted.desktop account _ hc with
    | mobile => cases hrole
    | desktop d hd =>
      cases haccount
      exact ⟨d, hd, rfl, rfl⟩
  mobile := by
    rintro account i ⟨j, p, o⟩ hc
    obtain ⟨-, haccount, hrole⟩ := (hs.relay.consistent.wellFormed account).mobile i _ hc
    cases hs.admitted.mobile account _ _ hc with
    | mobile _ huser =>
      cases haccount
      exact ⟨huser, rfl⟩
    | desktop => cases hrole

/-- A connection is bound to a device only if the device is known. -/
theorem Attended.device (ha : s.Attended) {c : Connection} (hc : s.relay.hub.Member c)
    (hi : c.principal.device = some i) : ∃ d, s.identity.devices[i]? = some d := by
  obtain ⟨account, hc | ⟨k, hc⟩⟩ := hc
  · obtain ⟨d, hd, -, hp⟩ := ha.desktop account c hc
    rw [hp] at hi
    cases hi
    exact ⟨d, hd⟩
  · rw [(ha.mobile account k c hc).2] at hi
    cases hi

/-! ## Removing a device -/

/-- A device of an account is gone, and with it whoever was connected from it.  The records of
other devices are what they were, and so are the rooms of other accounts and their connections in
the index. -/
structure Parts (account : AccountId) (d : Identity.Device) (s g : Service) : Prop where
  device : g.identity.devices[d.id]? = none
  token : g.identity.deviceTokens[d.digest]? = none
  connections : ∀ c, g.relay.hub.Member c → c.principal.device ≠ some d.id
  devices : ∀ j : DeviceId, d.id ≠ j → g.identity.devices[j]? = s.identity.devices[j]?
  rooms : ∀ other : AccountId, other ≠ account →
    g.relay.hub.rooms[other]? = s.relay.hub.rooms[other]?
  index : ∀ other : AccountId, other ≠ account → ∀ c : ConnectionId,
    g.relay.hub.index[c]? = some other ↔ s.relay.hub.index[c]? = some other

theorem Sound.parts (hs : Sound s coming) (clock : Clock)
    (hd : s.identity.devices[d.id]? = some d) :
    Sound (s.unpair clock.steady d.account d.id).1 coming ∧
      Parts d.account d s (s.unpair clock.steady d.account d.id).1 := by
  have hafter := hs.unpair clock hd
  have hremoved : s.identity.next (clock.wall, .unpair d.account d.id) =
      { s.identity with
        devices := s.identity.devices.erase d.id
        deviceTokens := s.identity.deviceTokens.erase d.digest } := by
    rw [Identity.next_unpair, Identity.unpair_of_found hd]
  rw [unpair_of_found clock hd]
  rw [learn_one, hremoved] at hafter ⊢
  have hgone : (s.identity.devices.erase d.id)[d.id]? = none := by
    rw [Table.lookup_erase, if_pos rfl]
  refine ⟨hafter, hgone, ?_, fun c hc hi => ?_, fun j hj => ?_, fun other hne => ?_,
    fun other hne => ?_⟩
  · dsimp only
    rw [Table.lookup_erase, if_pos rfl]
  · -- whoever is connected still runs on a device that is known still
    obtain ⟨d', hd'⟩ := hafter.attended.device hc hi
    rw [hgone] at hd'
    cases hd'
  · dsimp only
    rw [Table.lookup_erase, if_neg hj]
  · exact (hs.relay.evict_elsewhere hne d.id).1
  · exact (hs.relay.evict_elsewhere hne d.id).2

/-! ## What a list shows -/

theorem online_iff {l : Listed} (hl : l ∈ s.devices account) :
    l.online = true ↔ ∃ c, (s.relay.hub.room account).desktop = some c ∧
      c.principal.device = some l.device.id := by
  obtain ⟨d, -, rfl⟩ := List.mem_map.1 hl
  simp [Hub.isOnline, Room.hasDevice, Option.any_eq_true]

/-- An account has one desktop at most, which runs on one device. -/
theorem Sound.eq_of_online (hs : Sound s coming) {l l' : Listed} (hl : l ∈ s.devices account)
    (hl' : l' ∈ s.devices account) (honline : l.online = true) (honline' : l'.online = true) :
    l = l' := by
  obtain ⟨c, hc, hdevice⟩ := (online_iff hl).1 honline
  obtain ⟨c', hc', hdevice'⟩ := (online_iff hl').1 honline'
  rw [hc, Option.some.injEq] at hc'
  subst hc'
  rw [hdevice, Option.some.injEq] at hdevice'
  -- the two have the same id, under which the store has one device
  obtain ⟨d, hd, rfl⟩ := List.mem_map.1 hl
  obtain ⟨d', hd', rfl⟩ := List.mem_map.1 hl'
  have hlookup := ((Identity.mem_devicesOf hs.matched).1 hd).1
  have hlookup' := ((Identity.mem_devicesOf hs.matched).1 hd').1
  dsimp only at hdevice'
  rw [hdevice', hlookup', Option.some.injEq] at hlookup
  rw [hlookup]

theorem Sound.length_online_le (hs : Sound s coming) (account : AccountId) :
    ((s.devices account).filter (·.online)).length ≤ 1 := by
  have honce : (s.devices account).Nodup :=
    (Identity.nodup_devicesOf hs.matched account).map fun d d' heq => congrArg Listed.device heq
  have hfiltered := honce.filter (·.online)
  have hsame : ∀ l ∈ (s.devices account).filter (·.online),
      ∀ l' ∈ (s.devices account).filter (·.online), l = l' := by
    intro l hl l' hl'
    obtain ⟨hmem, honline⟩ := List.mem_filter.1 hl
    obtain ⟨hmem', honline'⟩ := List.mem_filter.1 hl'
    exact hs.eq_of_online hmem hmem' honline honline'
  generalize (s.devices account).filter (·.online) = ls at hsame hfiltered
  match ls with
  | [] | [_] => simp
  | l :: l' :: _ =>
    obtain rfl := hsame l List.mem_cons_self l' (List.mem_cons_of_mem _ List.mem_cons_self)
    exact absurd List.mem_cons_self (List.nodup_cons.1 hfiltered).1

end Switchboard.Service
