import Switchboard.Hub.Basic
import Switchboard.Proofs.Table

/-! # Who is in a room

A room is looked at through its members: `Room.Holds` says that a connection is in a
room, as its desktop or as one of its mobiles, and `Room.WellFormed` that the members
are where they belong.  The hub forgets a room that has become empty; `Room.kept` is
what remains of a room that is put back, so that `Hub.room_setRoom` needs no case split
on whether anybody is left.
-/

namespace Switchboard

namespace Room

/-- A connection is in a room. -/
def Holds (r : Room) (c : ConnectionId) : Prop := r.isDesktop c = true ∨ c ∈ r.mobiles

/-- The members of an account's room are where they belong: each speaks for the account,
the desktop is a desktop, the mobiles are mobiles under their own names, and nobody is
both. -/
structure WellFormed (account : AccountId) (r : Room) : Prop where
  desktop : ∀ d, r.desktop = some d → d.principal.account = account ∧ d.principal.role = .desktop
  mobile : ∀ (c : ConnectionId) (m : Connection), r.mobiles[c]? = some m →
    m.id = c ∧ m.principal.account = account ∧ m.principal.role = .mobile
  apart : ∀ d, r.desktop = some d → d.id ∉ r.mobiles

/-- What the hub keeps of a room: nothing once it is empty. -/
def kept (r : Room) : Room := if r.isEmpty then .empty else r

/-! ## Members -/

theorem isDesktop_iff {r : Room} {c : ConnectionId} :
    r.isDesktop c = true ↔ ∃ d, r.desktop = some d ∧ d.id = c := by
  simp [isDesktop, Option.any_eq_true]

theorem isEmpty_iff {r : Room} : r.isEmpty = true ↔ r.desktop = none ∧ r.mobiles = ∅ := by
  rw [Std.ExtTreeMap.eq_empty_iff_size_eq_zero]
  cases hd : r.desktop with
  | none => simp [isEmpty, size, hd]
  | some d => simp [isEmpty, size, hd]

theorem not_holds_empty (c : ConnectionId) : ¬ Room.empty.Holds c := by
  simp [Holds, isDesktop, empty]

theorem isEmpty_of_holds {r : Room} {c : ConnectionId} (hc : r.Holds c) : r.isEmpty = false := by
  rw [Bool.eq_false_iff]
  intro he
  obtain ⟨hd, hm⟩ := isEmpty_iff.1 he
  simp [Holds, isDesktop, hd, hm] at hc

theorem wellFormed_empty (account : AccountId) : WellFormed account .empty where
  desktop := by simp [empty]
  mobile := by simp [empty]
  apart := by simp [empty]

/-- Where somebody belongs depends on the members only, not on what is awaited. -/
theorem WellFormed.of_members {account : AccountId} {r r' : Room} (hr : r.WellFormed account)
    (hd : r'.desktop = r.desktop) (hm : r'.mobiles = r.mobiles) : r'.WellFormed account where
  desktop := by rw [hd]; exact hr.desktop
  mobile := by rw [hm]; exact hr.mobile
  apart := by rw [hd, hm]; exact hr.apart

theorem holds_of_members {r r' : Room} (hd : r'.desktop = r.desktop)
    (hm : r'.mobiles = r.mobiles) (c : ConnectionId) : r'.Holds c ↔ r.Holds c := by
  simp [Holds, isDesktop, hd, hm]

theorem size_of_members {r r' : Room} (hd : r'.desktop = r.desktop)
    (hm : r'.mobiles = r.mobiles) : r'.size = r.size := by
  simp [size, hd, hm]

/-! ## What is kept -/

@[simp] theorem kept_desktop (r : Room) : r.kept.desktop = r.desktop := by
  unfold kept
  split
  · rename_i he
    rw [(isEmpty_iff.1 he).1]
    rfl
  · rfl

@[simp] theorem kept_mobiles (r : Room) : r.kept.mobiles = r.mobiles := by
  unfold kept
  split
  · rename_i he
    rw [(isEmpty_iff.1 he).2]
    rfl
  · rfl

theorem kept_of_holds {r : Room} {c : ConnectionId} (hc : r.Holds c) : r.kept = r := by
  unfold kept
  rw [isEmpty_of_holds hc]
  rfl

/-- What is kept awaits nothing that was not awaited before. -/
theorem awaiting_of_kept {r : Room} {id : String} {c : ConnectionId}
    (h : r.kept.awaiting[id]? = some c) : r.awaiting[id]? = some c := by
  unfold kept at h
  split at h
  · simp [empty] at h
  · exact h

/-! ## A room without one of its members -/

theorem remove_desktop (r : Room) (c : ConnectionId) :
    (r.remove c).1.desktop = if r.isDesktop c then none else r.desktop := by
  unfold remove
  split
  · rfl
  · split <;> rfl

theorem remove_mobiles (r : Room) (c : ConnectionId) :
    (r.remove c).1.mobiles = if r.isDesktop c then r.mobiles else r.mobiles.erase c := by
  unfold remove
  split
  · rfl
  · split
    · rfl
    · rename_i hc
      exact (Table.erase_of_not_mem hc).symm

/-- The member that is told of: only a desktop's leaving is. -/
theorem remove_departed (r : Room) (c : ConnectionId) :
    (r.remove c).2 = if r.isDesktop c then r.desktop else none := by
  unfold remove
  split
  · rfl
  · split <;> rfl

theorem awaiting_of_remove {r : Room} {c origin : ConnectionId} {id : String}
    (h : (r.remove c).1.awaiting[id]? = some origin) : r.awaiting[id]? = some origin := by
  unfold remove at h
  split at h
  · simp [withoutDesktop] at h
  · split at h
    · exact (Table.lookup_filter_eq_some.1 h).1
    · exact h

theorem WellFormed.remove_holds {account : AccountId} {r : Room} (hr : r.WellFormed account)
    (c c' : ConnectionId) : (r.remove c).1.Holds c' ↔ r.Holds c' ∧ c ≠ c' := by
  unfold Holds
  rw [isDesktop_iff, isDesktop_iff, remove_desktop, remove_mobiles]
  by_cases hc : r.isDesktop c = true
  · -- the desktop goes, and nobody is left but the mobiles
    obtain ⟨d, hd, rfl⟩ := isDesktop_iff.1 hc
    have hapart := hr.apart d hd
    simp only [hc, if_true, hd]
    constructor
    · rintro (⟨_, h, _⟩ | hm)
      · cases h
      · exact ⟨.inr hm, fun heq => hapart (heq ▸ hm)⟩
    · rintro ⟨⟨d', hd', hid⟩ | hm, hne⟩
      · cases hd'
        exact absurd hid hne
      · exact .inr hm
  · -- the desktop stays, and a mobile goes if there is one of that name
    simp only [hc, if_false, Bool.false_eq_true]
    rw [Std.ExtTreeMap.mem_erase]
    constructor
    · rintro (⟨d, hd, rfl⟩ | ⟨hne, hm⟩)
      · exact ⟨.inl ⟨d, hd, rfl⟩, fun heq => hc (isDesktop_iff.2 ⟨d, hd, heq.symm⟩)⟩
      · exact ⟨.inr hm, fun heq => hne (heq ▸ Std.ReflCmp.compare_self)⟩
    · rintro ⟨hd | hm, hne⟩
      · exact .inl hd
      · exact .inr ⟨fun heq => hne (Std.LawfulEqCmp.eq_of_compare heq), hm⟩

theorem WellFormed.remove {account : AccountId} {r : Room} (hr : r.WellFormed account)
    (c : ConnectionId) : (r.remove c).1.WellFormed account where
  desktop d hd := by
    rw [remove_desktop] at hd
    split at hd
    · cases hd
    · exact hr.desktop d hd
  mobile c' m hm := by
    rw [remove_mobiles] at hm
    split at hm
    · exact hr.mobile c' m hm
    · rw [Table.lookup_erase] at hm
      split at hm
      · cases hm
      · exact hr.mobile c' m hm
  apart d hd := by
    rw [remove_desktop] at hd
    split at hd
    · cases hd
    · rename_i hc
      rw [remove_mobiles, if_neg hc, Std.ExtTreeMap.mem_erase]
      exact fun hmem => hr.apart d hd hmem.2

theorem size_remove_le (r : Room) (c : ConnectionId) : (r.remove c).1.size ≤ r.size := by
  unfold size
  rw [remove_desktop, remove_mobiles]
  by_cases hc : r.isDesktop c = true
  · simp only [hc, if_true]
    exact Nat.add_le_add_left (Nat.zero_le _) _
  · simp only [hc, if_false, Bool.false_eq_true]
    exact Nat.add_le_add_right Std.ExtTreeMap.size_erase_le _

/-! ## A room with one more member -/

theorem holds_withoutDesktop {r : Room} {c : ConnectionId} :
    r.withoutDesktop.Holds c ↔ c ∈ r.mobiles := by
  simp [Holds, isDesktop, withoutDesktop]

theorem holds_withDesktop {r : Room} {d : Connection} {c : ConnectionId} :
    (r.withDesktop d).Holds c ↔ d.id = c ∨ c ∈ r.mobiles := by
  simp [Holds, isDesktop, withDesktop]

theorem holds_withMobile {r : Room} {m : Connection} {c : ConnectionId} :
    (r.withMobile m).Holds c ↔ m.id = c ∨ r.Holds c := by
  unfold Holds withMobile
  rw [Std.ExtTreeMap.mem_insert, Std.LawfulEqCmp.compare_eq_iff_eq]
  constructor
  · rintro (hd | hid | hm)
    · exact .inr (.inl hd)
    · exact .inl hid
    · exact .inr (.inr hm)
  · rintro (hid | hd | hm)
    · exact .inr (.inl hid)
    · exact .inl hd
    · exact .inr (.inr hm)

theorem WellFormed.withoutDesktop {account : AccountId} {r : Room} (hr : r.WellFormed account) :
    r.withoutDesktop.WellFormed account where
  desktop _ hd := by cases hd
  mobile := hr.mobile
  apart _ hd := by cases hd

theorem WellFormed.withDesktop {account : AccountId} {r : Room} {d : Connection}
    (hr : r.WellFormed account) (hacc : d.principal.account = account)
    (hrole : d.principal.role = .desktop) (hnew : ¬ r.Holds d.id) :
    (r.withDesktop d).WellFormed account where
  desktop d' hd' := by
    cases hd'
    exact ⟨hacc, hrole⟩
  mobile := hr.mobile
  apart d' hd' := by
    cases hd'
    exact fun hm => hnew (.inr hm)

theorem WellFormed.withMobile {account : AccountId} {r : Room} {m : Connection}
    (hr : r.WellFormed account) (hacc : m.principal.account = account)
    (hrole : m.principal.role = .mobile) (hnew : ¬ r.Holds m.id) :
    (r.withMobile m).WellFormed account where
  desktop := hr.desktop
  mobile c m' hm' := by
    unfold Room.withMobile at hm'
    rw [Table.lookup_insert] at hm'
    split at hm'
    · rename_i hid
      cases hm'
      exact ⟨hid, hacc, hrole⟩
    · exact hr.mobile c m' hm'
  apart d hd hmem := by
    unfold Room.withMobile at hmem
    rw [Std.ExtTreeMap.mem_insert, Std.LawfulEqCmp.compare_eq_iff_eq] at hmem
    obtain hid | hm := hmem
    · exact hnew (.inl (isDesktop_iff.2 ⟨d, hd, hid.symm⟩))
    · exact hr.apart d hd hm

/-- Without its desktop a room holds everybody else. -/
theorem WellFormed.withoutDesktop_holds {account : AccountId} {r : Room} {d : Connection}
    (hr : r.WellFormed account) (hd : r.desktop = some d) (c : ConnectionId) :
    r.withoutDesktop.Holds c ↔ r.Holds c ∧ d.id ≠ c := by
  rw [holds_withoutDesktop]
  constructor
  · intro hm
    exact ⟨.inr hm, fun hid => hr.apart d hd (hid ▸ hm)⟩
  · rintro ⟨hdesk | hm, hne⟩
    · obtain ⟨d', hd', hid⟩ := isDesktop_iff.1 hdesk
      rw [hd] at hd'
      cases hd'
      exact absurd hid hne
    · exact hm

theorem size_withoutDesktop_le (r : Room) : r.withoutDesktop.size ≤ r.size :=
  Nat.add_le_add_left (Nat.zero_le _) _

theorem size_withMobile_le (r : Room) (m : Connection) : (r.withMobile m).size ≤ r.size + 1 := by
  have hm : (r.mobiles.insert m.id m).size ≤ r.mobiles.size + 1 :=
    Std.ExtTreeMap.size_insert_le
  unfold size withMobile
  dsimp only
  omega

/-! ## What is awaited does not touch the members -/

@[simp] theorem await_desktop (r : Room) (routing : Routing) (sender : ConnectionId)
    (m : Message) : (r.await routing sender m).desktop = r.desktop := by
  unfold await
  split
  · split <;> rfl
  · rfl

@[simp] theorem await_mobiles (r : Room) (routing : Routing) (sender : ConnectionId)
    (m : Message) : (r.await routing sender m).mobiles = r.mobiles := by
  unfold await
  split
  · split <;> rfl
  · rfl

@[simp] theorem forget_desktop (r : Room) (sender : ConnectionId) (id : String) :
    (r.forget sender id).desktop = r.desktop := by
  unfold forget
  split <;> rfl

@[simp] theorem forget_mobiles (r : Room) (sender : ConnectionId) (id : String) :
    (r.forget sender id).mobiles = r.mobiles := by
  unfold forget
  split <;> rfl

theorem members_of_answer {r r' : Room} {routing : Routing} {m : Message}
    {targets : List Connection} (h : r.answer routing m = (r', targets)) :
    r'.desktop = r.desktop ∧ r'.mobiles = r.mobiles := by
  unfold answer at h
  dsimp only at h
  split at h
  · split at h
    · split at h <;> cases h <;> exact ⟨rfl, rfl⟩
    · cases h
      exact ⟨rfl, rfl⟩
  · cases h
    exact ⟨rfl, rfl⟩

/-- Only mobiles of the room are answered. -/
theorem lookup_of_answer {r : Room} {routing : Routing} {m : Message} {t : Connection}
    (h : t ∈ (r.answer routing m).2) : ∃ c : ConnectionId, r.mobiles[c]? = some t := by
  unfold answer at h
  dsimp only at h
  split at h
  · split at h
    · split at h
      · rename_i mobile hone
        obtain ⟨origin, -, hm⟩ := Option.bind_eq_some_iff.1 hone
        rw [List.mem_singleton.1 h]
        exact ⟨origin, hm⟩
      · exact Table.mem_values.1 h
    · exact Table.mem_values.1 h
  · exact Table.mem_values.1 h

/-! ## Where awaited ids come from -/

theorem awaiting_of_await {r : Room} {routing : Routing} {sender c : ConnectionId} {m : Message}
    {id : String} (h : (r.await routing sender m).awaiting[id]? = some c) :
    r.awaiting[id]? = some c ∨
      c = sender ∧ m.id = some id ∧ m.family = .command ∧ routing = .originator := by
  unfold await at h
  split at h
  · rename_i i hid
    split at h
    · rename_i hawait
      rw [Table.lookup_insert] at h
      split at h
      · rename_i hi
        cases h
        exact .inr ⟨rfl, hi ▸ hid, hawait.2.1, hawait.1⟩
      · exact .inl h
    · exact .inl h
  · exact .inl h

/-- What is forgotten is not awaited for the sender any more. -/
theorem awaiting_of_forget {r : Room} {sender c : ConnectionId} {id id' : String}
    (h : (r.forget sender id).awaiting[id']? = some c) :
    r.awaiting[id']? = some c ∧ ¬ (c = sender ∧ id = id') := by
  unfold forget at h
  split at h
  · rw [Table.lookup_erase] at h
    split at h
    · cases h
    · rename_i hne
      exact ⟨h, fun hh => hne hh.2⟩
  · rename_i hne
    refine ⟨h, ?_⟩
    rintro ⟨rfl, rfl⟩
    exact hne h

theorem awaiting_of_answer {r r' : Room} {routing : Routing} {m : Message}
    {targets : List Connection} (ha : r.answer routing m = (r', targets)) {id : String}
    {c : ConnectionId} (h : r'.awaiting[id]? = some c) : r.awaiting[id]? = some c := by
  unfold answer at ha
  dsimp only at ha
  split at ha
  · rename_i i hi
    split at ha
    · have hr' : r' = { r with awaiting := r.awaiting.erase i } := by
        split at ha <;> cases ha <;> rfl
      rw [hr', Table.lookup_erase] at h
      split at h
      · cases h
      · exact h
    · cases ha
      exact h
  · cases ha
    exact h

end Room

namespace Hub

/-! ## Rooms of a hub -/

theorem room_eq (h : Hub) (account : AccountId) :
    h.room account = (h.rooms[account]?).getD .empty := by
  unfold room
  rw [Std.ExtTreeMap.getD_eq_getD_getElem?]

theorem room_of_lookup {h : Hub} {account : AccountId} {r : Room}
    (hr : h.rooms[account]? = some r) : h.room account = r := by
  rw [room_eq, hr]
  rfl

theorem room_of_lookup_none {h : Hub} {account : AccountId} (hr : h.rooms[account]? = none) :
    h.room account = .empty := by
  rw [room_eq, hr]
  rfl

/-- Whoever is in an account's room is in a room that the hub has stored. -/
theorem lookup_room_of_holds {h : Hub} {account : AccountId} {c : ConnectionId}
    (hc : (h.room account).Holds c) : h.rooms[account]? = some (h.room account) := by
  cases hr : h.rooms[account]? with
  | none =>
    rw [room_of_lookup_none hr] at hc
    exact absurd hc (Room.not_holds_empty c)
  | some r => rw [room_of_lookup hr]

theorem lookup_setRoom (h : Hub) (account other : AccountId) (r : Room) :
    (h.setRoom account r).rooms[other]? =
      if account = other then (if r.isEmpty then none else some r) else h.rooms[other]? := by
  unfold setRoom
  cases he : r.isEmpty with
  | true => simp only [if_true, Table.lookup_erase]
  | false => simp only [Bool.false_eq_true, if_false, Table.lookup_insert]

theorem room_setRoom (h : Hub) (account other : AccountId) (r : Room) :
    (h.setRoom account r).room other = if account = other then r.kept else h.room other := by
  rw [room_eq, lookup_setRoom]
  by_cases ha : account = other
  · simp only [ha, if_true, Room.kept]
    cases r.isEmpty <;> rfl
  · simp only [ha, if_false]
    rw [room_eq]

@[simp] theorem room_setRoom_self (h : Hub) (account : AccountId) (r : Room) :
    (h.setRoom account r).room account = r.kept := by
  rw [room_setRoom, if_pos rfl]

/-- A room that is put back as it was, by someone in it, leaves the hub as it was. -/
theorem setRoom_room {h : Hub} {account : AccountId} {c : ConnectionId}
    (hc : (h.room account).Holds c) : h.setRoom account (h.room account) = h := by
  unfold setRoom
  rw [Room.isEmpty_of_holds hc, Table.insert_of_lookup (lookup_room_of_holds hc)]
  rfl

/-- Of two rooms that are put in the same place the second stays, if nobody clears the
place in between. -/
theorem setRoom_setRoom {h : Hub} {account : AccountId} {r r' : Room} (he : r.isEmpty = false)
    (he' : r'.isEmpty = false) :
    (h.setRoom account r).setRoom account r' = h.setRoom account r' := by
  unfold setRoom
  rw [he, he']
  simp only [Bool.false_eq_true, if_false, Table.insert_insert]

@[simp] theorem setRoom_config (h : Hub) (account : AccountId) (r : Room) :
    (h.setRoom account r).config = h.config := rfl

@[simp] theorem setRoom_index (h : Hub) (account : AccountId) (r : Room) :
    (h.setRoom account r).index = h.index := rfl

@[simp] theorem setOutbox_room (h : Hub) (o : OutboxId) (b : Outbox) (account : AccountId) :
    (h.setOutbox o b).room account = h.room account := rfl

end Hub

end Switchboard
