import Switchboard.Proofs.Hub.Calls

/-! # Where what is in the tables comes from

A call adds little to what a hub knows: a connection that registers, and the id of a
command that reaches the desktop.  `Gains` says of two hubs that the second knows nothing
more than the first apart from such additions; deliveries add nothing at all.

* `Gains` — the relation, with what is new and what was asked as parameters;
* `gains_register`, `gains_evict`, `gains_toDesktop`, `gains_toMobiles` — what each call
  adds;
* `Peopled` — a property of all members, which newcomers have to bring along.
-/

namespace Switchboard.Hub

/-! ## The relation -/

/-- A hub that knows nothing that another one did not know, apart from new connections
and from ids that were asked with. -/
structure Gains (new : ConnectionId → Prop) (asked : AccountId → String → ConnectionId → Prop)
    (h h' : Hub) : Prop where
  config : h'.config = h.config
  index : ∀ (c : ConnectionId) (account : AccountId),
    h'.index[c]? = some account → h.index[c]? = some account ∨ new c
  desktop : ∀ account d, (h'.room account).desktop = some d →
    (h.room account).desktop = some d ∨ new d.id
  mobile : ∀ account (c : ConnectionId) (m : Connection),
    (h'.room account).mobiles[c]? = some m → (h.room account).mobiles[c]? = some m ∨ new c
  awaiting : ∀ account (id : String) (c : ConnectionId),
    (h'.room account).awaiting[id]? = some c →
      (h.room account).awaiting[id]? = some c ∨ asked account id c

variable {new : ConnectionId → Prop} {asked : AccountId → String → ConnectionId → Prop}

theorem Recedes.gains {h h' : Hub} (r : h.Recedes h') : Gains new asked h h' where
  config := r.config
  index c account hc := .inl (r.index c account hc)
  desktop account d hd := .inl (r.desktop account d hd)
  mobile account c m hm := .inl (r.mobile account c m hm)
  awaiting account id c hw := .inl (r.awaiting account id c hw)

theorem Gains.trans {h h' h'' : Hub} (g : Gains new asked h h') (g' : Gains new asked h' h'') :
    Gains new asked h h'' where
  config := g'.config.trans g.config
  index c account hc := (g'.index c account hc).elim (g.index c account) .inr
  desktop account d hd := (g'.desktop account d hd).elim (g.desktop account d) .inr
  mobile account c m hm := (g'.mobile account c m hm).elim (g.mobile account c m) .inr
  awaiting account id c hw := (g'.awaiting account id c hw).elim (g.awaiting account id c) .inr

theorem Gains.imp {new' : ConnectionId → Prop}
    {asked' : AccountId → String → ConnectionId → Prop} {h h' : Hub}
    (g : Gains new asked h h') (hnew : ∀ c, new c → new' c)
    (hasked : ∀ account id c, asked account id c → asked' account id c) :
    Gains new' asked' h h' where
  config := g.config
  index c account hc := (g.index c account hc).imp_right (hnew c)
  desktop account d hd := (g.desktop account d hd).imp_right (hnew d.id)
  mobile account c m hm := (g.mobile account c m hm).imp_right (hnew c)
  awaiting account id c hw := (g.awaiting account id c hw).imp_right (hasked account id c)

/-- A change of the outboxes brings nothing into the tables. -/
theorem Gains.of_tables {h h' : Hub} (hconf : h'.config = h.config) (hrooms : h'.rooms = h.rooms)
    (hindex : h'.index = h.index) : Gains new asked h h' := by
  have hroom : ∀ account, h'.room account = h.room account := by
    intro account
    rw [room_eq, hrooms, room_eq]
  refine ⟨hconf, fun c account hc => ?_, fun account d hd => ?_, fun account c m hm => ?_,
    fun account id c hw => ?_⟩
  · exact .inl (hindex ▸ hc)
  · exact .inl (hroom account ▸ hd)
  · exact .inl (hroom account ▸ hm)
  · exact .inl (hroom account ▸ hw)

/-- A room that is replaced brings in what it holds more than before. -/
theorem Gains.setRoom {h : Hub} {account : AccountId} {r : Room}
    {index : Table ConnectionId AccountId}
    (hindex : ∀ (c : ConnectionId) (a : AccountId),
      index[c]? = some a → h.index[c]? = some a ∨ new c)
    (hdesk : ∀ d, r.desktop = some d → (h.room account).desktop = some d ∨ new d.id)
    (hmob : ∀ (c : ConnectionId) (m : Connection),
      r.mobiles[c]? = some m → (h.room account).mobiles[c]? = some m ∨ new c)
    (hwait : ∀ (id : String) (c : ConnectionId), r.awaiting[id]? = some c →
      (h.room account).awaiting[id]? = some c ∨ asked account id c) :
    Gains new asked h ({ h with index := index }.setRoom account r) := by
  have hroom : ∀ a, ({ h with index := index }.setRoom account r).room a
      = if account = a then r.kept else h.room a := fun a => room_setRoom _ account a r
  refine ⟨rfl, hindex, fun a d hd => ?_, fun a c m hm => ?_, fun a id c hw => ?_⟩
  · rw [hroom] at hd
    split at hd
    · rename_i ha
      rw [← ha]
      exact hdesk d (r.kept_desktop ▸ hd)
    · exact .inl hd
  · rw [hroom] at hm
    split at hm
    · rename_i ha
      rw [← ha]
      exact hmob c m (r.kept_mobiles ▸ hm)
    · exact .inl hm
  · rw [hroom] at hw
    split at hw
    · rename_i ha
      rw [← ha]
      exact hwait id c (Room.awaiting_of_kept hw)
    · exact .inl hw

/-! ## Coming and going -/

theorem gains_enter (h : Hub) (c : Connection) : Gains (c.id = ·) asked h (h.enter c) := by
  have hindex : ∀ (c' : ConnectionId) (a : AccountId),
      (h.index.insert c.id c.principal.account)[c']? = some a →
        h.index[c']? = some a ∨ c.id = c' := by
    intro c' a hc'
    rw [Table.lookup_insert] at hc'
    split at hc'
    · rename_i hid
      exact .inr hid
    · exact .inl hc'
  unfold enter
  dsimp only
  split
  · refine Gains.setRoom (r := (h.room c.principal.account).withDesktop c) hindex
      (fun d hd => ?_) (fun _ _ hm => .inl hm) fun id c' hw => ?_
    · cases hd
      exact .inr rfl
    · simp [Room.withDesktop] at hw
  · refine Gains.setRoom (r := (h.room c.principal.account).withMobile c) hindex
      (fun d hd => .inl hd) (fun c' m hm => ?_) fun _ _ hw => .inl hw
    unfold Room.withMobile at hm
    rw [Table.lookup_insert] at hm
    split at hm
    · rename_i hid
      exact .inr hid
    · exact .inl hm

theorem gains_eraseIndex (h : Hub) (c : ConnectionId) :
    Gains new asked h { h with index := h.index.erase c } := by
  refine ⟨rfl, fun c' a hc' => ?_, fun _ _ hd => .inl hd, fun _ _ _ hm => .inl hm,
    fun _ _ _ hw => .inl hw⟩
  rw [Table.lookup_erase] at hc'
  split at hc'
  · cases hc'
  · exact .inl hc'

theorem gains_letIn (h : Hub) (c : Connection) : Gains (c.id = ·) asked h (h.letIn c) := by
  have hgreet : Gains (c.id = ·) asked h (h.greet c) :=
    .of_tables (greet_config h c) (greet_rooms h c) (greet_index h c)
  have henter := hgreet.trans (gains_enter (h.greet c) c)
  unfold letIn
  dsimp only
  split
  · cases (h.room c.principal.account).desktop with
    | none => exact henter
    | some old =>
      exact (henter.trans (gains_eraseIndex _ old.id)).trans (pushClose_recedes _ _ _).gains
  · exact henter

theorem gains_register (h : Hub) (c : Connection) :
    Gains (c.id = ·) asked h (h.register c).1 := by
  have hcases := registering h c
  generalize h.register c = out at hcases
  cases hcases with
  | refused => exact (Recedes.refl h).gains
  | mobile => exact gains_letIn h c
  | desktop => exact (gains_letIn h c).trans (deliver_recedes _ _).gains

theorem gains_expel (h : Hub) (account : AccountId) (d : Connection) :
    Gains new asked h (h.expel account d) := by
  have herase : Gains new asked h { h with index := h.index.erase d.id } :=
    gains_eraseIndex h d.id
  refine Gains.trans (Gains.setRoom (r := (h.room account).withoutDesktop) herase.index
    (fun d' hd' => ?_) (fun _ _ hm => .inl hm) fun id c hw => ?_) (pushClose_recedes _ _ _).gains
  · cases hd'
  · simp [Room.withoutDesktop] at hw

theorem gains_evict (h : Hub) (account : AccountId) (device : DeviceId) :
    Gains new asked h (h.evict account device).1 := by
  have hcases := evicting h account device
  generalize h.evict account device = out at hcases
  cases hcases with
  | absent => exact (Recedes.refl h).gains
  | evicted d => exact (gains_expel h account d).trans (deliver_recedes _ _).gains

/-! ## Passing on -/

theorem gains_remember (h : Hub) (account : AccountId) (sender : ConnectionId) (m : Message) :
    Gains new (fun account' id c => account = account' ∧ c = sender ∧ m.id = some id ∧
      m.family = .command) h (h.remember account sender m) := by
  refine Gains.setRoom (fun _ _ => .inl) (fun d hd => ?_) (fun c m' hm => ?_) fun id c hw => ?_
  · rw [Room.await_desktop] at hd
    exact .inl hd
  · rw [Room.await_mobiles] at hm
    exact .inl hm
  · obtain hold | ⟨hc, hid, hfam, -⟩ := Room.awaiting_of_await hw
    · exact .inl hold
    · exact .inr ⟨rfl, hc, hid, hfam⟩

theorem gains_forget (h : Hub) (account : AccountId) (sender : ConnectionId)
    (id : Option String) : Gains new asked h (h.forget account sender id) := by
  unfold forget
  split
  · rename_i i room hr
    rw [← room_of_lookup hr]
    refine Gains.setRoom (fun _ _ => .inl) (fun d hd => ?_) (fun c m hm => ?_) fun id c hw => ?_
    · rw [Room.forget_desktop] at hd
      exact .inl hd
    · rw [Room.forget_mobiles] at hm
      exact .inl hm
    · exact .inl (Room.awaiting_of_forget hw).1
  · exact (Recedes.refl h).gains

/-- A command that was remembered and is forgotten again has left nothing behind. -/
theorem gains_undone {h g : Hub} {account : AccountId} {sender : ConnectionId} {m : Message}
    (hr : (h.remember account sender m).Recedes g) :
    Gains new asked h (g.forget account sender m.id) := by
  have hrem : Gains new _ h (g.forget account sender m.id) :=
    (gains_remember h account sender m).trans
      (hr.gains.trans (gains_forget g account sender m.id))
  refine ⟨hrem.config, hrem.index, hrem.desktop, hrem.mobile, fun a id c hw => ?_⟩
  -- the one entry that could be new is the sender's, and that is forgotten
  obtain hold | ⟨rfl, rfl, hid, -⟩ := hrem.awaiting a id c hw
  · exact .inl hold
  · rw [hid, room_forget, if_pos rfl] at hw
    exact absurd ⟨rfl, rfl⟩ (Room.awaiting_of_forget (Room.awaiting_of_kept hw)).2

theorem gains_toDesktop (h : Hub) (sender : ConnectionId) (m : Message) :
    Gains new (fun account id c => h.index[sender]? = some account ∧ c = sender ∧
      (h.toDesktop sender m).2 = .ok () ∧ m.id = some id ∧ m.family = .command)
      h (h.toDesktop sender m).1 := by
  have hcases := commanding h sender m
  generalize h.toDesktop sender m = out at hcases ⊢
  cases hcases with
  | unknown => exact (Recedes.refl h).gains
  | stranger => exact (Recedes.refl h).gains
  | offline => exact (Recedes.refl h).gains
  | passed account d b hi =>
    refine ((gains_remember h account sender m).imp (fun _ => id) ?_).trans (.of_tables rfl rfl rfl)
    rintro a id c ⟨rfl, hc, hid, hfam⟩
    exact ⟨hi, hc, rfl, hid, hfam⟩
  | busy account d => exact gains_undone (.refl _)
  | lost account d g _ _ _ hdel => exact gains_undone hdel.recedes

theorem gains_answer {h : Hub} {account : AccountId} {routing : Routing} {m : Message}
    {room : Room} {targets : List Connection}
    (ha : (h.room account).answer routing m = (room, targets)) :
    Gains new asked h (h.setRoom account room) := by
  obtain ⟨hdesk, hmob⟩ := Room.members_of_answer ha
  refine Gains.setRoom (fun _ _ => .inl) (fun d hd => ?_) (fun c m' hm => ?_) fun id c hw => ?_
  · exact .inl (hdesk ▸ hd)
  · exact .inl (hmob ▸ hm)
  · exact .inl (Room.awaiting_of_answer ha hw)

theorem gains_toMobiles (h : Hub) (sender : ConnectionId) (m : Message) :
    Gains new asked h (h.toMobiles sender m).1 := by
  have hcases := answering h sender m
  generalize h.toMobiles sender m = out at hcases
  cases hcases with
  | unknown => exact (Recedes.refl h).gains
  | stranger => exact (Recedes.refl h).gains
  | passed account room targets hi hd ha =>
    exact (gains_answer ha).trans (deliver_recedes _ _).gains

/-! ## Members with a property -/

/-- All members of all rooms have a property, which may depend on the account. -/
structure Peopled (P : AccountId → Connection → Prop) (h : Hub) : Prop where
  desktop : ∀ account d, (h.room account).desktop = some d → P account d
  mobile : ∀ account (c : ConnectionId) (m : Connection),
    (h.room account).mobiles[c]? = some m → P account m

namespace Peopled

variable {P : AccountId → Connection → Prop} {h g : Hub}

theorem empty (config : Config) : Peopled P (Hub.empty config) := by
  constructor <;> simp [Hub.empty, room_eq, Room.empty]

theorem imp {Q : AccountId → Connection → Prop} (hp : Peopled P h)
    (hq : ∀ account c, P account c → Q account c) : Peopled Q h where
  desktop account d hd := hq account d (hp.desktop account d hd)
  mobile account c m hm := hq account m (hp.mobile account c m hm)

theorem recedes (hp : Peopled P h) (hr : h.Recedes g) : Peopled P g where
  desktop account d hd := hp.desktop account d (hr.desktop account d hd)
  mobile account c m hm := hp.mobile account c m (hr.mobile account c m hm)

/-- Without newcomers everybody who is there was there before. -/
theorem gains (hp : Peopled P h) (hg : Gains (fun _ => False) asked h g) : Peopled P g where
  desktop account d hd := hp.desktop account d ((hg.desktop account d hd).resolve_right id)
  mobile account c m hm := hp.mobile account c m ((hg.mobile account c m hm).resolve_right id)

theorem letIn (hp : Peopled P h) {c : Connection} (hc : P c.principal.account c) :
    Peopled P (h.letIn c) := by
  constructor
  · intro account d hd
    rw [room_letIn] at hd
    split at hd
    · rename_i ha
      split at hd
      · cases hd
        exact ha ▸ hc
      · exact hp.desktop account d hd
    · exact hp.desktop account d hd
  · intro account k m hm
    rw [room_letIn] at hm
    split at hm
    · rename_i ha
      split at hm
      · exact hp.mobile account k m hm
      · simp only [Room.withMobile, Table.lookup_insert] at hm
        split at hm
        · cases hm
          exact ha ▸ hc
        · exact hp.mobile account k m hm
    · exact hp.mobile account k m hm

theorem register (hp : Peopled P h) {c : Connection} (hc : P c.principal.account c) :
    Peopled P (h.register c).1 := by
  have hcases := registering h c
  generalize h.register c = out at hcases
  cases hcases with
  | refused => exact hp
  | mobile => exact hp.letIn hc
  | desktop => exact (hp.letIn hc).recedes (deliver_recedes _ _)

end Peopled

end Switchboard.Hub
