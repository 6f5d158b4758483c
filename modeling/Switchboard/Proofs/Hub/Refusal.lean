import Switchboard.Proofs.Hub.Runs

/-! # Commands that are refused

The hub remembers who sent a command before it knows whether the desktop takes it, and
forgets it again if the desktop does not.  What it forgets is whatever the id is awaited
for by then, not what it has just remembered: a command that was passed on earlier under
the same id is forgotten too.

* `Room.forget_await` — remembering and forgetting again, in one room;
* `Untracks` — an earlier command is in the way;
* `refused_unchanged_iff` — a refusal leaves the hub as it was unless one is.
-/

namespace Switchboard

/-! ## Remembering and forgetting again -/

/-- Whether forgetting a command, after it was remembered, takes away what was awaited
under its id before. -/
def Room.Overwrites (r : Room) (routing : Routing) (sender : ConnectionId) (m : Message)
    (id : String) : Prop :=
  routing = .originator ∧ m.family = .command ∧ id ∈ r.awaiting ∨ r.awaiting[id]? = some sender

namespace Room

variable {r : Room} {routing : Routing} {sender : ConnectionId} {m : Message} {id : String}

theorem Overwrites.mem (ho : r.Overwrites routing sender m id) : id ∈ r.awaiting := by
  obtain ⟨-, -, hmem⟩ | hsame := ho
  · exact hmem
  · exact Table.mem_of_lookup hsame

theorem forget_await_of_overwrites (hid : m.id = some id)
    (ho : r.Overwrites routing sender m id) :
    (r.await routing sender m).forget sender id
      = { r with awaiting := r.awaiting.erase id } := by
  unfold await
  rw [hid]
  dsimp only
  by_cases hawait : routing = .originator ∧ m.family = .command
  · -- the id was awaited, so there is room for it whatever else is awaited
    rw [if_pos ⟨hawait.1, hawait.2, .inr ho.mem⟩]
    unfold forget
    rw [if_pos (by rw [Table.lookup_insert, if_pos rfl])]
    rw [Table.erase_insert]
  · rw [if_neg fun hh => hawait ⟨hh.1, hh.2.1⟩]
    obtain ⟨hr, hf, -⟩ | hsame := ho
    · exact absurd ⟨hr, hf⟩ hawait
    · unfold forget
      rw [if_pos hsame]

theorem forget_await (hid : m.id = some id) (ho : ¬ r.Overwrites routing sender m id) :
    (r.await routing sender m).forget sender id = r := by
  unfold await
  rw [hid]
  dsimp only
  split
  · -- the entry is new, and is forgotten again
    rename_i hawait
    have hnew : id ∉ r.awaiting := fun hmem => ho (.inl ⟨hawait.1, hawait.2.1, hmem⟩)
    unfold forget
    rw [if_pos (by rw [Table.lookup_insert, if_pos rfl])]
    rw [Table.erase_insert, Table.erase_of_not_mem hnew]
  · unfold forget
    rw [if_neg fun hsame => ho (.inr hsame)]

theorem await_of_id_none (hid : m.id = none) : r.await routing sender m = r := by
  unfold await
  rw [hid]

end Room

namespace Hub

variable {h : Hub} {account : AccountId} {sender : ConnectionId} {m : Message} {id : String}

/-- An earlier command of a mobile's account is awaited under an id, in a way that it is
forgotten together with the mobile's new one. -/
def Untracks (h : Hub) (sender : ConnectionId) (m : Message) (account : AccountId)
    (id : String) : Prop :=
  h.index[sender]? = some account ∧ m.id = some id ∧
    (h.room account).Overwrites h.config.routing sender m id

/-- Remembering a command and forgetting it again changes one room only. -/
theorem forget_remember (hm : sender ∈ (h.room account).mobiles) (hid : m.id = some id) :
    (h.remember account sender m).forget account sender m.id
      = h.setRoom account
        (((h.room account).await h.config.routing sender m).forget sender id) := by
  have hwaits : ((h.room account).await h.config.routing sender m).isEmpty = false :=
    Room.isEmpty_of_holds (.inr (by rw [Room.await_mobiles]; exact hm))
  have hforgets :
      (((h.room account).await h.config.routing sender m).forget sender id).isEmpty = false :=
    Room.isEmpty_of_holds (.inr (by rw [Room.forget_mobiles, Room.await_mobiles]; exact hm))
  have hroom : (h.remember account sender m).rooms[account]?
      = some ((h.room account).await h.config.routing sender m) := by
    unfold remember
    rw [lookup_setRoom, if_pos rfl, hwaits]
    rfl
  unfold forget
  rw [hid, hroom]
  dsimp only
  exact setRoom_setRoom hwaits hforgets

/-- Without an earlier command in the way, remembering and forgetting cancel out. -/
theorem forget_remember_eq_self (hi : h.index[sender]? = some account)
    (hm : sender ∈ (h.room account).mobiles)
    (hu : ∀ id, ¬ h.Untracks sender m account id) :
    (h.remember account sender m).forget account sender m.id = h := by
  cases hid : m.id with
  | none =>
    rw [forget_none, remember, Room.await_of_id_none hid]
    exact setRoom_room (.inr hm)
  | some id =>
    have hfresh : ¬ (h.room account).Overwrites h.config.routing sender m id :=
      fun ho => hu id ⟨hi, hid, ho⟩
    rw [← hid, forget_remember hm hid, Room.forget_await hid hfresh]
    exact setRoom_room (.inr hm)

/-- An earlier command is awaited before and not after, so the hub is not as it was. -/
theorem setRoom_erase_ne (hm : sender ∈ (h.room account).mobiles)
    (hid : id ∈ (h.room account).awaiting) :
    h.setRoom account
      { h.room account with awaiting := (h.room account).awaiting.erase id } ≠ h := by
  intro heq
  have hkept : Room.kept { h.room account with awaiting := (h.room account).awaiting.erase id }
      = { h.room account with awaiting := (h.room account).awaiting.erase id } :=
    Room.kept_of_holds (.inr hm)
  have hroom := room_setRoom_self h account
    { h.room account with awaiting := (h.room account).awaiting.erase id }
  rw [heq, hkept] at hroom
  have hgone : id ∉ (h.room account).awaiting := by
    rw [hroom]
    exact Table.not_mem_iff_lookup.2 (by rw [Table.lookup_erase, if_pos rfl])
  exact hgone hid

/-! ## Refusals -/

/-- A refused command, after which the desktop is still registered, leaves the hub as it
was, unless the desktop was busy and an earlier command is awaited under the same id; in
that case the earlier command is forgotten, and nothing else is different. -/
theorem refused_unchanged_iff {h : Hub} {sender : ConnectionId} {m : Message} {e : Refusal}
    (hr : (h.toDesktop sender m).2 = .error e)
    (hstay : ∀ (account : AccountId) (d : Connection), h.index[sender]? = some account →
      (h.room account).desktop = some d → d.id ∈ (h.toDesktop sender m).1.index) :
    ((h.toDesktop sender m).1 = h ↔
      ¬ (e = .desktopBusy ∧ ∃ account id, h.Untracks sender m account id)) ∧
    ∀ account id, e = .desktopBusy → h.Untracks sender m account id →
      (h.toDesktop sender m).1 = h.setRoom account
        { h.room account with awaiting := (h.room account).awaiting.erase id } := by
  have hcases := commanding h sender m
  generalize h.toDesktop sender m = out at hcases hr hstay
  cases hcases with
  | unknown => cases hr; simp
  | stranger => cases hr; simp
  | offline => cases hr; simp
  | passed => cases hr
  | busy account d hi hm hd =>
    cases hr
    have huntracked : ∀ account' id, h.Untracks sender m account' id →
        (h.remember account sender m).forget account sender m.id = h.setRoom account'
          { h.room account' with awaiting := (h.room account').awaiting.erase id } := by
      rintro account' id ⟨hi', hid, ho⟩
      rw [hi] at hi'
      cases hi'
      rw [forget_remember hm hid, Room.forget_await_of_overwrites hid ho]
    refine ⟨⟨?_, ?_⟩, fun account' id _ hu => huntracked account' id hu⟩
    · rintro heq ⟨-, account', id, hu⟩
      have hm' : sender ∈ (h.room account').mobiles := by
        have hi' := hu.1
        rw [hi] at hi'
        cases hi'
        exact hm
      rw [huntracked account' id hu] at heq
      exact setRoom_erase_ne hm' hu.2.2.mem heq
    · intro hnone
      exact forget_remember_eq_self hi hm fun id hu => hnone ⟨rfl, account, id, hu⟩
  | lost account d g hi hm hd _ hgone =>
    -- the desktop is gone, so there is nothing to compare
    have hin := hstay account d hi hd
    rw [forget_index] at hin
    exact absurd hin hgone

/-- A command that a mobile may send twice. -/
def retried : Message := ⟨.listJobs, some "1", "list jobs"⟩

/-- What leads to a desktop that has no room left, behind its greeting and a command of
the one mobile. -/
def crowding : List Action :=
  [.attach 1 16, .attach 2 2, .register ⟨⟨1⟩, .mobile ⟨10⟩, 1⟩,
    .register ⟨⟨2⟩, .desktop ⟨10⟩ ⟨20⟩ "desk", 2⟩,
    .toDesktop ⟨1⟩ retried]

/-- The hub with that desktop. -/
def crowded : Hub :=
  ((empty { routing := .originator, overflow := .dropNewest }).run crowding).1

theorem crowded_index : crowded.index[(⟨1⟩ : ConnectionId)]? = some ⟨10⟩ := by rfl

theorem crowded_desktop :
    (crowded.room ⟨10⟩).desktop = some ⟨⟨2⟩, .desktop ⟨10⟩ ⟨20⟩ "desk", 2⟩ := by rfl

theorem crowded_toDesktop (m : Message) :
    crowded.toDesktop ⟨1⟩ m
      = ((crowded.remember ⟨10⟩ ⟨1⟩ m).forget ⟨10⟩ ⟨1⟩ m.id, .error .desktopBusy) :=
  toDesktop_busy crowded_index (by decide +kernel) crowded_desktop
    (Outbox.pushText_eq_full.2 (by decide +kernel)) rfl

/-- A command with an id of its own is refused, and nothing is different. -/
theorem refused_unchanged_other_id :
    (crowded.toDesktop ⟨1⟩ ⟨.runJob, some "2", "run a job"⟩).2 = .error .desktopBusy ∧
      (crowded.toDesktop ⟨1⟩ ⟨.runJob, some "2", "run a job"⟩).1 = crowded := by
  have hr : (crowded.toDesktop ⟨1⟩ ⟨.runJob, some "2", "run a job"⟩).2
      = .error .desktopBusy := by
    rw [crowded_toDesktop]
  refine ⟨hr, (refused_unchanged_iff hr ?_).1.2 ?_⟩
  · intro account d hi hd
    rw [crowded_index] at hi
    cases hi
    rw [crowded_desktop] at hd
    cases hd
    rw [crowded_toDesktop, forget_index]
    decide +kernel
  · rintro ⟨-, account, id, hi, hid, ho⟩
    rw [crowded_index] at hi
    cases hi
    cases hid
    have hnew : "2" ∉ (crowded.room ⟨10⟩).awaiting := by decide +kernel
    exact hnew ho.mem

/-- A command that is sent again while the first one waits is refused, and the answer to
the first one is not awaited any more. -/
theorem refused_retry_forgets_first :
    (arrivals crowding).Nodup ∧ (crowded.toDesktop ⟨1⟩ retried).2 = .error .desktopBusy ∧
      ⟨2⟩ ∈ (crowded.toDesktop ⟨1⟩ retried).1.index ∧
      (crowded.room ⟨10⟩).awaiting["1"]? = some ⟨1⟩ ∧
      ((crowded.toDesktop ⟨1⟩ retried).1.room ⟨10⟩).awaiting["1"]? = none ∧
      (crowded.toDesktop ⟨1⟩ retried).1 ≠ crowded := by
  have hbefore : (crowded.room ⟨10⟩).awaiting["1"]? = some ⟨1⟩ := by rfl
  have hafter : ((crowded.toDesktop ⟨1⟩ retried).1.room ⟨10⟩).awaiting["1"]? = none := by
    rw [crowded_toDesktop]
    rfl
  refine ⟨by decide, by rw [crowded_toDesktop], ?_, hbefore, hafter, fun heq => ?_⟩
  · rw [crowded_toDesktop, forget_index]
    decide +kernel
  · rw [heq, hbefore] at hafter
    cases hafter

end Hub

end Switchboard
