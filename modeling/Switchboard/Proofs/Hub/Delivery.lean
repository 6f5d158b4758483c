import Switchboard.Hub.Membership
import Switchboard.Proofs.Hub.Rooms

/-! # What delivering can do

Whatever the hub tells its connections, it does so by three things only: it puts a text
into an outbox, it puts a close into one, and it detaches a connection.  So what each of
the three keeps is kept by every delivery, however deep the telling nests.

* `push_eq_ok`, `pushClose_eq`, `detach_eq` — the three, one at a time;
* `KeptByDelivery` — what the three keep, and with them `deliverAll`, `deliverTo`,
  `deliver`, `deregister` and `announce`;
* `Outbox.Grows`, `Recedes` — outboxes only grow by delivering, and everything else that
  the hub knows only becomes less.
-/

namespace Switchboard

/-! ## Outboxes only grow -/

/-- The texts among some items; only these take up room. -/
def Outbox.texts (items : List Outbox.Item) : Nat :=
  items.countP fun
    | .text _ => true
    | .close _ => false

/-- An outbox after more has been put in. -/
structure Outbox.Grows (b b' : Outbox) : Prop where
  capacity : b'.capacity = b.capacity
  live : b'.live = b.live
  taken : b'.taken = b.taken
  sent : ∃ items, b'.sent = b.sent ++ items ∧ b'.depth = b.depth + Outbox.texts items

namespace Outbox

theorem Grows.refl (b : Outbox) : b.Grows b :=
  ⟨rfl, rfl, rfl, [], by simp, rfl⟩

theorem Grows.trans {b b' b'' : Outbox} (h : b.Grows b') (h' : b'.Grows b'') : b.Grows b'' := by
  obtain ⟨items, hs, hd⟩ := h.sent
  obtain ⟨items', hs', hd'⟩ := h'.sent
  refine ⟨h'.capacity.trans h.capacity, h'.live.trans h.live, h'.taken.trans h.taken,
    items ++ items', ?_, ?_⟩
  · rw [hs', hs, List.append_assoc]
  · rw [hd', hd, texts, texts, texts, List.countP_append, Nat.add_assoc]

theorem pushText_eq_ok {b b' : Outbox} {text : String} :
    b.pushText text = .ok b' ↔ b.live = true ∧ b.depth < b.capacity ∧
      b' = { b with depth := b.depth + 1, sent := b.sent ++ [.text text] } := by
  unfold pushText
  cases hl : b.live with
  | false => simp
  | true =>
    by_cases hc : b.capacity ≤ b.depth
    · simp [hc, Nat.not_lt.2 hc]
    · simp [hc, Nat.not_le.1 hc, eq_comm]

theorem pushText_eq_full {b : Outbox} {text : String} :
    b.pushText text = .error .full ↔ b.live = true ∧ b.capacity ≤ b.depth := by
  unfold pushText
  cases hl : b.live with
  | false => simp
  | true => by_cases hc : b.capacity ≤ b.depth <;> simp [hc]

theorem grows_pushText {b b' : Outbox} {text : String} (h : b.pushText text = .ok b') :
    b.Grows b' := by
  obtain ⟨_, _, rfl⟩ := pushText_eq_ok.1 h
  exact ⟨rfl, rfl, rfl, [.text text], rfl, rfl⟩

theorem grows_pushClose (b : Outbox) (reason : String) : b.Grows (b.pushClose reason) := by
  unfold pushClose
  split
  · exact ⟨rfl, rfl, rfl, [.close reason], rfl, rfl⟩
  · exact .refl b

end Outbox

namespace Hub

/-! ## One outbox -/

theorem outbox_setOutbox (h : Hub) (o o' : OutboxId) (b : Outbox) :
    (h.setOutbox o b).outbox o' = if o = o' then b else h.outbox o' := by
  unfold setOutbox outbox
  rw [Std.ExtTreeMap.getD_eq_getD_getElem?, Table.lookup_insert]
  by_cases ho : o = o'
  · simp [ho]
  · simp only [ho, if_false]
    rw [Std.ExtTreeMap.getD_eq_getD_getElem?]

@[simp] theorem outbox_setOutbox_self (h : Hub) (o : OutboxId) (b : Outbox) :
    (h.setOutbox o b).outbox o = b := by
  rw [outbox_setOutbox, if_pos rfl]

theorem outbox_setOutbox_ne {o o' : OutboxId} (h : Hub) (b : Outbox) (ho : o ≠ o') :
    (h.setOutbox o b).outbox o' = h.outbox o' := by
  rw [outbox_setOutbox, if_neg ho]

theorem push_eq_ok {h h' : Hub} {o : OutboxId} {text : String} :
    h.push o text = .ok h' ↔
      ∃ b, (h.outbox o).pushText text = .ok b ∧ h' = h.setOutbox o b := by
  unfold push
  cases (h.outbox o).pushText text with
  | ok b => simp [eq_comm]
  | error e => simp

theorem push_eq_error {h : Hub} {o : OutboxId} {text : String} {e : Outbox.Refusal} :
    h.push o text = .error e ↔ (h.outbox o).pushText text = .error e := by
  unfold push
  cases (h.outbox o).pushText text with
  | ok b => simp
  | error e => simp

/-- A close changes the outbox of a live connection and nothing else. -/
theorem pushClose_eq (h : Hub) (o : OutboxId) (reason : String) :
    h.pushClose o reason = h ∨ (h.outbox o).live = true ∧
      h.pushClose o reason = h.setOutbox o ((h.outbox o).pushClose reason) := by
  unfold pushClose
  cases hl : (h.outbox o).live with
  | true => exact .inr ⟨rfl, by simp⟩
  | false => exact .inl (by simp)

@[simp] theorem pushClose_config (h : Hub) (o : OutboxId) (reason : String) :
    (h.pushClose o reason).config = h.config := by
  obtain he | ⟨-, he⟩ := pushClose_eq h o reason <;> rw [he]; rfl

@[simp] theorem pushClose_rooms (h : Hub) (o : OutboxId) (reason : String) :
    (h.pushClose o reason).rooms = h.rooms := by
  obtain he | ⟨-, he⟩ := pushClose_eq h o reason <;> rw [he]; rfl

@[simp] theorem pushClose_room (h : Hub) (o : OutboxId) (reason : String)
    (account : AccountId) : (h.pushClose o reason).room account = h.room account := by
  rw [room_eq, pushClose_rooms, room_eq]

/-- A greeting changes the outbox of the connection that is greeted and nothing else. -/
theorem greet_eq (h : Hub) (c : Connection) :
    h.greet c = h ∨ ∃ b, (h.outbox c.outbox).pushText (Notice.greeting c.id).render = .ok b ∧
      h.greet c = h.setOutbox c.outbox b := by
  unfold greet
  split
  · rename_i h' hp
    obtain ⟨b, hb, rfl⟩ := push_eq_ok.1 hp
    exact .inr ⟨b, hb, rfl⟩
  · exact .inl rfl

@[simp] theorem greet_config (h : Hub) (c : Connection) : (h.greet c).config = h.config := by
  obtain he | ⟨b, -, he⟩ := greet_eq h c <;> rw [he]; rfl

@[simp] theorem greet_rooms (h : Hub) (c : Connection) : (h.greet c).rooms = h.rooms := by
  obtain he | ⟨b, -, he⟩ := greet_eq h c <;> rw [he]; rfl

@[simp] theorem greet_index (h : Hub) (c : Connection) : (h.greet c).index = h.index := by
  obtain he | ⟨b, -, he⟩ := greet_eq h c <;> rw [he]; rfl

@[simp] theorem greet_room (h : Hub) (c : Connection) (account : AccountId) :
    (h.greet c).room account = h.room account := by
  rw [room_eq, greet_rooms, room_eq]

/-! ## One connection -/

/-- Who is told what when a connection leaves its room. -/
def farewell (room : Room) (c : ConnectionId) : List Parcel :=
  match (room.remove c).2 with
  | some desktop => parcels room.mobiles.values (presence false desktop.principal).render
  | none => []

/-- Detaching a connection that is in the index takes it out of the room where the index
looks for it. -/
theorem detach_eq {h : Hub} {c : ConnectionId} {account : AccountId}
    (hc : h.index[c]? = some account) :
    h.detach c = ({ h with index := h.index.erase c }.setRoom account
      ((h.room account).remove c).1, farewell (h.room account) c) := by
  unfold detach
  rw [hc]
  dsimp only
  cases hr : h.rooms[account]? with
  | none =>
    -- the index leads to a room that is not stored: taking it out again changes nothing
    rw [room_of_lookup_none hr]
    have hnot : account ∉ h.rooms := Table.not_mem_iff_lookup.2 hr
    simp only [farewell, Room.remove, Room.empty, Room.isDesktop, Option.any_none,
      Bool.false_eq_true, if_false, Std.ExtTreeMap.not_mem_empty, setRoom, Room.isEmpty,
      Room.size, Std.ExtTreeMap.size_empty, Option.isSome_none, decide_true, if_true,
      Table.erase_of_not_mem hnot]
  | some r =>
    rw [room_of_lookup hr]
    dsimp only
    unfold farewell
    rw [Room.remove_departed]
    cases hd : r.isDesktop c with
    | true =>
      obtain ⟨d, hdesk, -⟩ := Room.isDesktop_iff.1 hd
      simp [Room.remove, hd, hdesk, Room.withoutDesktop]
    | false =>
      by_cases hm : c ∈ r.mobiles
      · simp [Room.remove, hd, hm]
      · simp [Room.remove, hd, hm]

@[simp] theorem detach_config (h : Hub) (c : ConnectionId) :
    (h.detach c).1.config = h.config := by
  cases hc : h.index[c]? with
  | none => rw [detach_of_not_mem (Table.not_mem_iff_lookup.2 hc)]
  | some account => rw [detach_eq hc]; rfl

@[simp] theorem detach_outboxes (h : Hub) (c : ConnectionId) :
    (h.detach c).1.outboxes = h.outboxes := by
  cases hc : h.index[c]? with
  | none => rw [detach_of_not_mem (Table.not_mem_iff_lookup.2 hc)]
  | some account => rw [detach_eq hc]; rfl

@[simp] theorem detach_outbox (h : Hub) (c : ConnectionId) (o : OutboxId) :
    (h.detach c).1.outbox o = h.outbox o := by
  unfold outbox
  rw [detach_outboxes]

theorem detach_room {h : Hub} {c : ConnectionId} {account : AccountId}
    (hc : h.index[c]? = some account) (other : AccountId) :
    (h.detach c).1.room other =
      if account = other then ((h.room account).remove c).1.kept else h.room other := by
  rw [detach_eq hc, room_setRoom]
  rfl

/-! ## Whatever is delivered -/

/-- What is kept by putting texts and closes into outboxes and by detaching connections. -/
structure KeptByDelivery (P : Hub → Prop) : Prop where
  push : ∀ h o text b, P h → (h.outbox o).pushText text = .ok b → P (h.setOutbox o b)
  pushClose : ∀ h o reason, P h → (h.outbox o).live = true →
    P (h.setOutbox o ((h.outbox o).pushClose reason))
  detach : ∀ h c, P h → P (h.detach c).1

/-- A hub that is reached from another one by deliveries. -/
def Delivered (h g : Hub) : Prop := ∀ P, KeptByDelivery P → P h → P g

namespace KeptByDelivery

variable {P : Hub → Prop}

theorem hubPush (kept : KeptByDelivery P) {h h' : Hub} {o : OutboxId} {text : String}
    (hP : P h) (hp : h.push o text = .ok h') : P h' := by
  obtain ⟨b, hb, rfl⟩ := push_eq_ok.1 hp
  exact kept.push h o text b hP hb

theorem hubPushClose (kept : KeptByDelivery P) {h : Hub} (o : OutboxId) (reason : String)
    (hP : P h) : P (h.pushClose o reason) := by
  obtain he | ⟨hl, he⟩ := pushClose_eq h o reason
  · rw [he]; exact hP
  · rw [he]; exact kept.pushClose h o reason hP hl

theorem undelivered (kept : KeptByDelivery P) {h : Hub} (p : Parcel) (e : Outbox.Refusal)
    (hP : P h) : P (h.undelivered p e).1 := by
  unfold Hub.undelivered
  split
  · exact kept.detach h p.id hP
  · exact kept.detach _ p.id (kept.hubPushClose p.outbox overflowReason hP)
  · exact hP

theorem deliverAll (kept : KeptByDelivery P) {h : Hub} (ps : List Parcel) (hP : P h) :
    P (h.deliverAll ps) := by
  -- along the telling: a text is put in, or whatever comes up goes in front of the rest
  fun_induction Hub.deliverAll h ps with
  | case1 h => exact hP
  | case2 h p ps h' hp ih => exact ih (kept.hubPush hP hp)
  | case3 h p ps e hp h' more hu ih =>
    have hnext := kept.undelivered p e hP
    rw [hu] at hnext
    exact ih hnext

theorem deliverTo (kept : KeptByDelivery P) {h : Hub} (p : Parcel) (hP : P h) :
    P (h.deliverTo p).1 := by
  unfold Hub.deliverTo
  split
  · rename_i h' hp
    exact kept.hubPush hP hp
  · rename_i e hp
    exact kept.deliverAll _ (kept.undelivered p e hP)

theorem deliver (kept : KeptByDelivery P) {h : Hub} (ps : List Parcel) (hP : P h) :
    P (h.deliver ps).1 := by
  induction ps generalizing h with
  | nil => exact hP
  | cons p ps ih =>
    have hnext := kept.deliverTo p hP
    unfold Hub.deliver
    split
    · rename_i h' u hp
      rw [hp] at hnext
      exact ih hnext
    · rename_i h' e hp
      rw [hp] at hnext
      exact ih hnext

theorem deregister (kept : KeptByDelivery P) {h : Hub} (c : ConnectionId) (hP : P h) :
    P (h.deregister c).1 := by
  unfold Hub.deregister
  split
  · exact kept.deliverAll _ (kept.detach h c hP)
  · exact hP

theorem announce (kept : KeptByDelivery P) {h : Hub} (account : AccountId) (n : Notice)
    (hP : P h) : P (h.announce account n).1 :=
  kept.deliver _ hP

end KeptByDelivery

/-! ## Everything else only becomes less -/

/-- A hub after something was delivered: outboxes have grown, and whatever else is left
was there before. -/
structure Recedes (h h' : Hub) : Prop where
  config : h'.config = h.config
  index : ∀ (c : ConnectionId) (account : AccountId),
    h'.index[c]? = some account → h.index[c]? = some account
  desktop : ∀ account d, (h'.room account).desktop = some d → (h.room account).desktop = some d
  mobile : ∀ account (c : ConnectionId) (m : Connection),
    (h'.room account).mobiles[c]? = some m → (h.room account).mobiles[c]? = some m
  awaiting : ∀ account (id : String) (c : ConnectionId),
    (h'.room account).awaiting[id]? = some c → (h.room account).awaiting[id]? = some c
  outbox : ∀ o, (h.outbox o).Grows (h'.outbox o)

namespace Recedes

theorem refl (h : Hub) : h.Recedes h :=
  ⟨rfl, fun _ _ => id, fun _ _ => id, fun _ _ _ => id, fun _ _ _ => id, fun _ => .refl _⟩

theorem trans {h h' h'' : Hub} (r : h.Recedes h') (r' : h'.Recedes h'') : h.Recedes h'' where
  config := r'.config.trans r.config
  index c account hc := r.index c account (r'.index c account hc)
  desktop account d hd := r.desktop account d (r'.desktop account d hd)
  mobile account c m hm := r.mobile account c m (r'.mobile account c m hm)
  awaiting account id c ha := r.awaiting account id c (r'.awaiting account id c ha)
  outbox o := (r.outbox o).trans (r'.outbox o)

theorem setOutbox (h : Hub) {o : OutboxId} {b : Outbox} (hb : (h.outbox o).Grows b) :
    h.Recedes (h.setOutbox o b) := by
  refine ⟨rfl, fun _ _ => id, fun _ _ => id, fun _ _ _ => id, fun _ _ _ => id, fun o' => ?_⟩
  rw [outbox_setOutbox]
  by_cases ho : o = o'
  · rw [if_pos ho, ← ho]; exact hb
  · rw [if_neg ho]; exact .refl _

theorem detach (h : Hub) (c : ConnectionId) : h.Recedes (h.detach c).1 := by
  cases hc : h.index[c]? with
  | none =>
    rw [detach_of_not_mem (Table.not_mem_iff_lookup.2 hc)]
    exact .refl h
  | some account =>
    -- index, desktops, mobiles, entries, outboxes: in each what is left was there before
    refine ⟨detach_config h c, ?_, ?_, ?_, ?_, fun o => ?_⟩
    · intro c' account' hc'
      rw [detach_index, Table.lookup_erase] at hc'
      split at hc'
      · cases hc'
      · exact hc'
    · intro other d hd
      rw [detach_room hc] at hd
      split at hd
      · rename_i ha
        rw [Room.kept_desktop, Room.remove_desktop] at hd
        split at hd
        · cases hd
        · rw [← ha]; exact hd
      · exact hd
    · intro other c' m hm
      rw [detach_room hc] at hm
      split at hm
      · rename_i ha
        rw [Room.kept_mobiles, Room.remove_mobiles] at hm
        rw [← ha]
        split at hm
        · exact hm
        · rw [Table.lookup_erase] at hm
          split at hm
          · cases hm
          · exact hm
      · exact hm
    · intro other id origin hw
      rw [detach_room hc] at hw
      split at hw
      · rename_i ha
        rw [← ha]
        exact Room.awaiting_of_remove (Room.awaiting_of_kept hw)
      · exact hw
    · rw [detach_outbox]; exact .refl _

/-- Delivering leads from a hub to one that recedes from it. -/
theorem keptByDelivery (h : Hub) : KeptByDelivery h.Recedes where
  push _ _ _ _ hr hb := hr.trans (.setOutbox _ (Outbox.grows_pushText hb))
  pushClose _ _ _ hr _ := hr.trans (.setOutbox _ (Outbox.grows_pushClose _ _))
  detach _ c hr := hr.trans (.detach _ c)

end Recedes

theorem Delivered.recedes {h g : Hub} (hd : h.Delivered g) : h.Recedes g :=
  hd _ (Recedes.keptByDelivery h) (.refl h)

theorem deliverAll_recedes (h : Hub) (ps : List Parcel) : h.Recedes (h.deliverAll ps) :=
  (Recedes.keptByDelivery h).deliverAll ps (.refl h)

theorem deliverTo_recedes (h : Hub) (p : Parcel) : h.Recedes (h.deliverTo p).1 :=
  (Recedes.keptByDelivery h).deliverTo p (.refl h)

theorem deliver_recedes (h : Hub) (ps : List Parcel) : h.Recedes (h.deliver ps).1 :=
  (Recedes.keptByDelivery h).deliver ps (.refl h)

theorem pushClose_recedes (h : Hub) (o : OutboxId) (reason : String) :
    h.Recedes (h.pushClose o reason) :=
  (Recedes.keptByDelivery h).hubPushClose o reason (.refl h)

theorem Recedes.not_mem {h h' : Hub} (r : h.Recedes h') {c : ConnectionId} (hc : c ∉ h.index) :
    c ∉ h'.index := by
  intro hmem
  obtain ⟨account, ha⟩ := Table.mem_iff_lookup.1 hmem
  exact hc (Table.mem_of_lookup (r.index c account ha))

theorem not_mem_detach (h : Hub) (c : ConnectionId) : c ∉ (h.detach c).1.index := by
  rw [detach_index]
  simp

end Hub

end Switchboard
