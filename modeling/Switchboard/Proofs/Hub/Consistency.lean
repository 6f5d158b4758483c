import Switchboard.Proofs.Hub.Calls

/-! # Rooms and index agree

The hub keeps two tables: the rooms, and the index that tells in which room to look for
a connection.  `Consistent` is what holds between them in every state that the hub can
get into.  Every call changes at most one room and the index entries of that room's
members; `Consistent.update` says once what such a change has to satisfy, and each call
is an instance of it, followed by deliveries, which only detach.

* `Consistent` — the invariant;
* `Consistent.keptByDelivery` — what is delivered keeps it;
* `Consistent.register`, `Consistent.evict`, `Consistent.toDesktop`,
  `Consistent.toMobiles` — so does each call, if a connection that registers brings a
  name that is not in use.
-/

namespace Switchboard.Hub

/-! ## The invariant -/

/-- The index leads to the room that holds a connection, and to no other; everybody is
where they belong; no empty room is stored, and none is over the limit. -/
structure Consistent (h : Hub) : Prop where
  index_iff : ∀ (c : ConnectionId) (account : AccountId),
    h.index[c]? = some account ↔ (h.room account).Holds c
  wellFormed : ∀ account, (h.room account).WellFormed account
  occupied : ∀ (account : AccountId) (r : Room), h.rooms[account]? = some r → r.isEmpty = false
  capped : ∀ account, (h.room account).size ≤ h.config.maxConnections

namespace Consistent

theorem empty (config : Config) : (Hub.empty config).Consistent := by
  have hroom : ∀ account, (Hub.empty config).room account = .empty := by
    intro account
    exact room_of_lookup_none Std.ExtTreeMap.getElem?_empty
  refine ⟨fun c account => ?_, fun account => ?_, fun account r hr => ?_, fun account => ?_⟩
  · rw [hroom]
    constructor
    · intro hc
      simp [Hub.empty] at hc
    · intro hc
      exact absurd hc (Room.not_holds_empty c)
  · rw [hroom]
    exact Room.wellFormed_empty account
  · simp [Hub.empty] at hr
  · rw [hroom]
    exact Nat.zero_le _

variable {h : Hub}

/-- Only the tables matter, not what waits in outboxes. -/
theorem of_tables {h' : Hub} (hc : h.Consistent) (hconf : h'.config = h.config)
    (hrooms : h'.rooms = h.rooms) (hindex : h'.index = h.index) : h'.Consistent := by
  have hroom : ∀ account, h'.room account = h.room account := by
    intro account
    rw [room_eq, hrooms, room_eq]
  refine ⟨fun c account => ?_, fun account => ?_, fun account r hr => ?_, fun account => ?_⟩
  · rw [hindex, hroom]; exact hc.index_iff c account
  · rw [hroom]; exact hc.wellFormed account
  · rw [hrooms] at hr; exact hc.occupied account r hr
  · rw [hroom, hconf]; exact hc.capped account

/-- A room may be replaced by another one that is in order, if the index changes with it. -/
theorem update (hc : h.Consistent) {account : AccountId} {r : Room}
    {index : Table ConnectionId AccountId} (hwf : r.WellFormed account)
    (hcap : r.size ≤ h.config.maxConnections)
    (hindex : ∀ (c : ConnectionId) (a : AccountId),
      index[c]? = some a ↔ if account = a then r.Holds c else (h.room a).Holds c) :
    ({ h with index := index }.setRoom account r).Consistent := by
  have hroom : ∀ a, ({ h with index := index }.setRoom account r).room a
      = if account = a then r.kept else h.room a := fun a => room_setRoom _ account a r
  -- what is kept of the room has the room's members, so an empty one needs no case
  have hkept := r.kept_desktop
  have hkept' := r.kept_mobiles
  refine ⟨fun c a => ?_, fun a => ?_, fun a r' hr' => ?_, fun a => ?_⟩
  · rw [setRoom_index, hroom]
    refine (hindex c a).trans ?_
    split
    · exact (Room.holds_of_members hkept hkept' c).symm
    · exact Iff.rfl
  · rw [hroom]
    split
    · rename_i ha
      exact ha ▸ hwf.of_members hkept hkept'
    · exact hc.wellFormed a
  · rw [lookup_setRoom] at hr'
    split at hr'
    · cases he : r.isEmpty with
      | true => simp [he] at hr'
      | false =>
        simp only [he, Bool.false_eq_true, if_false, Option.some.injEq] at hr'
        rw [← hr', he]
    · exact hc.occupied a r' hr'
  · rw [setRoom_config, hroom]
    split
    · rw [Room.size_of_members hkept hkept']
      exact hcap
    · exact hc.capped a

/-- What is awaited may change without anything else. -/
theorem setRoom_of_members (hc : h.Consistent) {account : AccountId} {r : Room}
    (hd : r.desktop = (h.room account).desktop) (hm : r.mobiles = (h.room account).mobiles) :
    (h.setRoom account r).Consistent := by
  refine hc.update ((hc.wellFormed account).of_members hd hm) ?_ fun c a => ?_
  · rw [Room.size_of_members hd hm]
    exact hc.capped account
  · refine (hc.index_iff c a).trans ?_
    split
    · rename_i ha
      rw [Room.holds_of_members hd hm, ha]
    · exact Iff.rfl

/-- Nobody is in two rooms. -/
theorem eq_of_holds (hc : h.Consistent) {c : ConnectionId} {a a' : AccountId}
    (ha : (h.room a).Holds c) (ha' : (h.room a').Holds c) : a = a' := by
  have hi := (hc.index_iff c a).2 ha
  rw [(hc.index_iff c a').2 ha'] at hi
  exact (Option.some.inj hi).symm

theorem not_holds (hc : h.Consistent) {c : ConnectionId} (hnew : c ∉ h.index) (a : AccountId) :
    ¬ (h.room a).Holds c :=
  fun ha => hnew (Table.mem_of_lookup ((hc.index_iff c a).2 ha))

theorem index_desktop (hc : h.Consistent) {account : AccountId} {d : Connection}
    (hd : (h.room account).desktop = some d) : h.index[d.id]? = some account :=
  (hc.index_iff d.id account).2 (.inl (Room.isDesktop_iff.2 ⟨d, hd, rfl⟩))

theorem index_mobile (hc : h.Consistent) {account : AccountId} {c : ConnectionId}
    (hm : c ∈ (h.room account).mobiles) : h.index[c]? = some account :=
  (hc.index_iff c account).2 (.inr hm)

/-! ## Leaving -/

/-- A connection may be taken out of its room, if it is taken out of the index too. -/
theorem erase (hc : h.Consistent) {c : ConnectionId} {account : AccountId} {r : Room}
    (hi : h.index[c]? = some account) (hwf : r.WellFormed account)
    (hsize : r.size ≤ (h.room account).size)
    (hholds : ∀ c', r.Holds c' ↔ (h.room account).Holds c' ∧ c ≠ c') :
    ({ h with index := h.index.erase c }.setRoom account r).Consistent := by
  refine hc.update hwf (Nat.le_trans hsize (hc.capped account)) fun c' a => ?_
  rw [Table.lookup_erase]
  by_cases hcc : c = c'
  · subst hcc
    simp only [if_true, reduceCtorEq, false_iff]
    split
    · rw [hholds]
      exact fun hh => hh.2 rfl
    · rename_i ha
      -- it was in this room, so it is in no other
      exact fun hh => ha (hc.eq_of_holds ((hc.index_iff c account).1 hi) hh)
  · rw [if_neg hcc]
    refine (hc.index_iff c' a).trans ?_
    split
    · rename_i ha
      rw [hholds, ha]
      exact ⟨fun hh => ⟨hh, hcc⟩, And.left⟩
    · exact Iff.rfl

theorem detach (hc : h.Consistent) (c : ConnectionId) : (h.detach c).1.Consistent := by
  cases hi : h.index[c]? with
  | none =>
    rw [detach_of_not_mem (Table.not_mem_iff_lookup.2 hi)]
    exact hc
  | some account =>
    have hwf := hc.wellFormed account
    rw [detach_eq hi]
    exact hc.erase hi (hwf.remove c) (Room.size_remove_le _ c) (hwf.remove_holds c)

theorem keptByDelivery : KeptByDelivery Consistent where
  push _ _ _ _ hc _ := hc.of_tables rfl rfl rfl
  pushClose _ _ _ hc _ := hc.of_tables rfl rfl rfl
  detach _ c hc := hc.detach c

theorem expel (hc : h.Consistent) {account : AccountId} {d : Connection}
    (hd : (h.room account).desktop = some d) : (h.expel account d).Consistent := by
  have hwf := hc.wellFormed account
  exact keptByDelivery.hubPushClose _ _ (hc.erase (hc.index_desktop hd) hwf.withoutDesktop
    (Room.size_withoutDesktop_le _) (hwf.withoutDesktop_holds hd))

theorem evict (hc : h.Consistent) (account : AccountId) (device : DeviceId) :
    (h.evict account device).1.Consistent := by
  have hcases := evicting h account device
  generalize h.evict account device = out at hcases
  cases hcases with
  | absent => exact hc
  | evicted d hd => exact keptByDelivery.announce _ _ (hc.expel hd)

/-! ## Coming -/

/-- A new connection may be put into a room, if it is put into the index too. -/
theorem insert (hc : h.Consistent) {c : ConnectionId} {account : AccountId} {r : Room}
    (hnew : c ∉ h.index) (hwf : r.WellFormed account) (hcap : r.size ≤ h.config.maxConnections)
    (hholds : ∀ c', r.Holds c' ↔ c = c' ∨ (h.room account).Holds c') :
    ({ h with index := h.index.insert c account }.setRoom account r).Consistent := by
  refine hc.update hwf hcap fun c' a => ?_
  rw [Table.lookup_insert]
  by_cases hcc : c = c'
  · subst hcc
    simp only [if_true, Option.some.injEq]
    split
    · rename_i ha
      exact ⟨fun _ => (hholds c).2 (.inl rfl), fun _ => ha⟩
    · rename_i ha
      exact ⟨fun hh => absurd hh ha, fun hh => absurd hh (hc.not_holds hnew a)⟩
  · rw [if_neg hcc]
    refine (hc.index_iff c' a).trans ?_
    split
    · rename_i ha
      rw [hholds, ha]
      exact ⟨.inr, fun hh => hh.resolve_left hcc⟩
    · exact Iff.rfl

/-- A new desktop may take the place of the one before it, in the room and in the index. -/
theorem replace (hc : h.Consistent) {d old : Connection} (hnew : d.id ∉ h.index)
    (hrole : d.principal.role = .desktop)
    (hold : (h.room d.principal.account).desktop = some old)
    (hcap : (h.room d.principal.account).mobiles.size < h.config.maxConnections) :
    ({ h with
        index := (h.index.insert d.id d.principal.account).erase old.id }.setRoom
      d.principal.account ((h.room d.principal.account).withDesktop d)).Consistent := by
  have hwf := hc.wellFormed d.principal.account
  have hin : (h.room d.principal.account).Holds old.id :=
    .inl (Room.isDesktop_iff.2 ⟨old, hold, rfl⟩)
  -- the old desktop was there and the new one was not, so they have different names
  have hne : d.id ≠ old.id := fun heq => hc.not_holds hnew _ (heq ▸ hin)
  refine hc.update (hwf.withDesktop rfl hrole (hc.not_holds hnew _)) hcap fun c a => ?_
  rw [Table.lookup_erase, Table.lookup_insert]
  by_cases hco : old.id = c
  · subst hco
    simp only [if_true, reduceCtorEq, false_iff]
    split
    · rw [Room.holds_withDesktop]
      rintro (heq | hm)
      · exact hne heq
      · exact hwf.apart old hold hm
    · rename_i ha
      exact fun hh => ha (hc.eq_of_holds hin hh)
  · rw [if_neg hco]
    by_cases hcd : d.id = c
    · subst hcd
      simp only [if_true, Option.some.injEq]
      split
      · rename_i ha
        exact ⟨fun _ => Room.holds_withDesktop.2 (.inl rfl), fun _ => ha⟩
      · rename_i ha
        exact ⟨fun hh => absurd hh ha, fun hh => absurd hh (hc.not_holds hnew a)⟩
    · rw [if_neg hcd]
      refine (hc.index_iff c a).trans ?_
      split
      · rename_i ha
        have hothers := hwf.withoutDesktop_holds hold c
        rw [Room.holds_withoutDesktop] at hothers
        rw [Room.holds_withDesktop, hothers, ← ha]
        exact ⟨fun hh => .inr ⟨hh, hco⟩, fun hh => (hh.resolve_left hcd).1⟩
      · exact Iff.rfl

/-- Before anybody is told of it, a new connection is in its room and in the index, and
the desktop whose place it takes is in neither. -/
theorem letIn (hc : h.Consistent) {c : Connection} (hr : h.refusal? c = none)
    (hnew : c.id ∉ h.index) : (h.letIn c).Consistent := by
  obtain ⟨hmobiles, hsize⟩ := places_of_refusal? hr
  have hg : (h.greet c).Consistent := hc.of_tables (by simp) (by simp) (by simp)
  have hnew' : c.id ∉ (h.greet c).index := by simpa using hnew
  have hwf := hg.wellFormed c.principal.account
  have hvacant := hg.not_holds hnew' c.principal.account
  unfold Hub.letIn
  dsimp only
  cases hk : c.principal.isDesktop with
  | false =>
    have hrole : c.principal.role = .mobile := by
      cases hrole : c.principal.role with
      | mobile => rfl
      | desktop => simp [Principal.isDesktop, hrole] at hk
    have hcap := Nat.le_trans (Room.size_withMobile_le (h.room c.principal.account) c) (hsize hk)
    rw [if_neg (by simp)]
    unfold enter
    simp only [hk, Bool.false_eq_true, if_false]
    exact hg.insert hnew' (hwf.withMobile rfl hrole hvacant) (by simpa using hcap)
      fun c' => Room.holds_withMobile
  | true =>
    have hrole : c.principal.role = .desktop := by simpa [Principal.isDesktop] using hk
    rw [if_pos rfl]
    unfold enter
    simp only [hk, if_true]
    cases hd : (h.room c.principal.account).desktop with
    | none =>
      -- nobody has to make room, so this is like a mobile's coming
      have hcap : ((h.greet c).room c.principal.account).mobiles.size + 1
          ≤ (h.greet c).config.maxConnections := by simpa using Nat.succ_le_of_lt hmobiles
      refine hg.insert hnew' (hwf.withDesktop rfl hrole hvacant) hcap fun c' => ?_
      rw [Room.holds_withDesktop, Room.Holds, Room.isDesktop]
      simp [hd]
    | some old =>
      exact keptByDelivery.hubPushClose _ _
        (hg.replace hnew' hrole (by simpa using hd) (by simpa using hmobiles))

theorem register (hc : h.Consistent) {c : Connection} (hnew : c.id ∉ h.index) :
    (h.register c).1.Consistent := by
  have hcases := registering h c
  generalize h.register c = out at hcases
  cases hcases with
  | refused e hr => exact hc
  | mobile hr hd => exact hc.letIn hr hnew
  | desktop hr hd => exact keptByDelivery.announce _ _ (hc.letIn hr hnew)

/-! ## Passing on -/

theorem forget (hc : h.Consistent) (account : AccountId) (sender : ConnectionId)
    (id : Option String) : (h.forget account sender id).Consistent := by
  unfold Hub.forget
  split
  · rename_i id room hroom
    rw [← room_of_lookup hroom]
    exact hc.setRoom_of_members (Room.forget_desktop _ _ _) (Room.forget_mobiles _ _ _)
  · exact hc

theorem remember (hc : h.Consistent) (account : AccountId) (sender : ConnectionId)
    (m : Message) : (h.remember account sender m).Consistent :=
  hc.setRoom_of_members (Room.await_desktop _ _ _ _) (Room.await_mobiles _ _ _ _)

theorem toDesktop (hc : h.Consistent) (sender : ConnectionId) (m : Message) :
    (h.toDesktop sender m).1.Consistent := by
  have hcases := commanding h sender m
  generalize h.toDesktop sender m = out at hcases
  cases hcases with
  | unknown => exact hc
  | stranger => exact hc
  | offline => exact hc
  | passed account d b => exact (hc.remember account sender m).of_tables rfl rfl rfl
  | busy account d => exact (hc.remember account sender m).forget account sender m.id
  | lost account d g _ _ _ hdel =>
    exact (hdel _ keptByDelivery (hc.remember account sender m)).forget account sender m.id

theorem toMobiles (hc : h.Consistent) (sender : ConnectionId) (m : Message) :
    (h.toMobiles sender m).1.Consistent := by
  have hcases := answering h sender m
  generalize h.toMobiles sender m = out at hcases
  cases hcases with
  | unknown => exact hc
  | stranger => exact hc
  | passed account room targets hi hd ha =>
    obtain ⟨hdesk, hmob⟩ := Room.members_of_answer ha
    exact keptByDelivery.deliver _ (hc.setRoom_of_members hdesk hmob)

end Consistent

end Switchboard.Hub
