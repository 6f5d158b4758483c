import Mathlib.Data.List.Nodup
import Switchboard.Proofs.Hub.Fanout
import Switchboard.Proofs.Hub.Provenance

/-! # The texts of an outbox

Of all that is put into an outbox only the texts matter here, in their order.  An outbox
is offered a text, and takes it if there is room.  Where everybody has an outbox of their
own, telling all mobiles of a room the same offers the text once to the outbox of each,
and nothing to anybody else.

* `Outbox.told`, `Outbox.offered` — the texts of an outbox, and with one more;
* `Separate` — everybody has an outbox of their own;
* `Room.listens`, `tell` — telling all mobiles of a room;
* `told_parcels`, `told_tell` — what outboxes hold afterwards;
* `desktop_tell` — no desktop leaves by it.
-/

namespace Switchboard

/-! ## The texts of an outbox -/

namespace Outbox

/-- The text of an item, if it is one. -/
def Item.text? : Item → Option String
  | .text t => some t
  | .close _ => none

/-- The texts that have been put into an outbox. -/
def told (b : Outbox) : List String := b.sent.filterMap Item.text?

/-- An outbox takes a text while its connection is there and there is room. -/
def Takes (b : Outbox) : Prop := b.live = true ∧ b.depth < b.capacity

instance (b : Outbox) : Decidable b.Takes := inferInstanceAs (Decidable (_ ∧ _))

/-- The texts of an outbox once it was offered another one, if it was. -/
def offered (b : Outbox) (text : Option String) : List String :=
  if b.Takes then b.told ++ text.toList else b.told

@[simp] theorem offered_none (b : Outbox) : b.offered none = b.told := by
  simp [offered]

theorem offered_of_takes {b : Outbox} (h : b.Takes) (text : String) :
    b.offered (some text) = b.told ++ [text] := by
  simp [offered, h]

theorem offered_of_not_takes {b : Outbox} (h : ¬ b.Takes) (text : Option String) :
    b.offered text = b.told := by
  simp [offered, h]

theorem takes_of_pushText {b b' : Outbox} {text : String} (h : b.pushText text = .ok b') :
    b.Takes :=
  ⟨(pushText_eq_ok.1 h).1, (pushText_eq_ok.1 h).2.1⟩

theorem not_takes_of_pushText {b : Outbox} {text : String} {e : Refusal}
    (h : b.pushText text = .error e) : ¬ b.Takes := by
  rintro ⟨hl, hc⟩
  rw [pushText_eq_ok.2 ⟨hl, hc, rfl⟩] at h
  cases h

@[simp] theorem told_pushText {b b' : Outbox} {text : String} (h : b.pushText text = .ok b') :
    b'.told = b.told ++ [text] := by
  obtain ⟨-, -, rfl⟩ := pushText_eq_ok.1 h
  simp [told, Item.text?]

@[simp] theorem told_pushClose (b : Outbox) (reason : String) :
    (b.pushClose reason).told = b.told := by
  have hclose : [Item.close reason].filterMap Item.text? = [] := rfl
  unfold pushClose
  split
  · simp [told, hclose]
  · rfl

@[simp] theorem takes_pushClose (b : Outbox) (reason : String) :
    (b.pushClose reason).Takes ↔ b.Takes := by
  unfold pushClose
  split <;> rfl

/-- A close takes up no room. -/
@[simp] theorem offered_pushClose (b : Outbox) (reason : String) (text : Option String) :
    (b.pushClose reason).offered text = b.offered text := by
  simp [offered]

theorem sent_take {b b' : Outbox} {item : Item} (h : b.take? = some (item, b')) :
    b'.sent = b.sent := by
  unfold take? at h
  split at h
  · cases h
  · cases h
    rfl

theorem sent_handle {b b' : Outbox} {release : Bool} {item : Item}
    (h : b.handle? release = some (item, b')) : b'.sent = b.sent := by
  obtain ⟨⟨first, c⟩, hc, heq⟩ := Option.map_eq_some_iff.1 h
  cases heq
  have hsent : c.sent = b.sent := sent_take hc
  cases item with
  | text text => cases release <;> exact hsent
  | close reason => exact hsent

theorem told_handle {b b' : Outbox} {release : Bool} {item : Item}
    (h : b.handle? release = some (item, b')) : b'.told = b.told := by
  simp only [told, sent_handle h]

end Outbox

/-- A mobile of a room has an outbox. -/
def Room.listens (r : Room) (o : OutboxId) : Bool := r.mobiles.values.any (·.outbox = o)

theorem Room.listens_iff {r : Room} {o : OutboxId} :
    r.listens o = true ↔ ∃ (c : ConnectionId) (m : Connection),
      r.mobiles[c]? = some m ∧ m.outbox = o := by
  simp only [listens, List.any_eq_true, Table.mem_values, decide_eq_true_eq]
  constructor
  · rintro ⟨m, ⟨c, hm⟩, ho⟩
    exact ⟨c, m, hm, ho⟩
  · rintro ⟨c, m, hm, ho⟩
    exact ⟨m, ⟨c, hm⟩, ho⟩

theorem Room.listens_of_members {r r' : Room} (hm : r'.mobiles = r.mobiles) (o : OutboxId) :
    r'.listens o = r.listens o := by
  simp [listens, hm]

namespace Hub

/-! ## Closing -/

@[simp] theorem offered_pushClose (h : Hub) (o o' : OutboxId) (reason : String)
    (text : Option String) :
    ((h.pushClose o reason).outbox o').offered text = (h.outbox o').offered text := by
  obtain heq | ⟨-, heq⟩ := pushClose_eq h o reason
  · rw [heq]
  · rw [heq, outbox_setOutbox]
    split
    · rename_i ho
      rw [Outbox.offered_pushClose, ho]
    · rfl

theorem told_pushClose (h : Hub) (o o' : OutboxId) (reason : String) :
    ((h.pushClose o reason).outbox o').told = (h.outbox o').told := by
  simpa using offered_pushClose h o o' reason none

/-! ## Telling a list of mobiles -/

section List

variable {h : Hub} {ps : List Parcel}

theorem told_undelivered (h : Hub) (p : Parcel) (e : Outbox.Refusal) (o : OutboxId) :
    ((h.undelivered p e).1.outbox o).told = (h.outbox o).told := by
  unfold undelivered
  split
  · rw [detach_outbox]
  · rw [detach_outbox, told_pushClose]
  · rfl

theorem outbox_deliverAll_ne (hq : ∀ p ∈ ps, h.Quiet p.id) {o : OutboxId}
    (ho : ∀ p ∈ ps, p.outbox ≠ o) : (h.deliverAll ps).outbox o = h.outbox o := by
  induction ps generalizing h with
  | nil => rw [deliverAll]
  | cons p ps ih =>
    obtain ⟨hqp, hq⟩ := List.forall_mem_cons.1 hq
    obtain ⟨hop, ho⟩ := List.forall_mem_cons.1 ho
    have hrec := deliverTo_recedes h p
    rw [← deliver_fst, deliver_cons, deliver_fst,
      ih (fun p hp => hrec.quiet (hq p hp)) ho, outbox_deliverTo_ne hqp hop]

theorem told_deliverAll (hq : ∀ p ∈ ps, h.Quiet p.id) (hown : (ps.map (·.outbox)).Nodup)
    {p : Parcel} (hp : p ∈ ps) :
    ((h.deliverAll ps).outbox p.outbox).told = (h.outbox p.outbox).offered (some p.text) := by
  induction ps generalizing h with
  | nil => cases hp
  | cons q ps ih =>
    obtain ⟨hqq, hq⟩ := List.forall_mem_cons.1 hq
    rw [List.map_cons, List.nodup_cons] at hown
    have hrec := deliverTo_recedes h q
    have hq' : ∀ p ∈ ps, (h.deliverTo q).1.Quiet p.id := fun p hp => hrec.quiet (hq p hp)
    rw [← deliver_fst, deliver_cons, deliver_fst]
    obtain rfl | hp := List.mem_cons.1 hp
    · -- the text is offered now, and nobody behind has the outbox
      have hlast : ∀ p' ∈ ps, p'.outbox ≠ p.outbox := by
        intro p' hp' heq
        exact hown.1 (List.mem_map.2 ⟨p', hp', heq⟩)
      rw [outbox_deliverAll_ne hq' hlast]
      cases hb : (h.outbox p.outbox).pushText p.text with
      | ok b =>
        rw [deliverTo_ok hb, outbox_setOutbox_self, Outbox.told_pushText hb,
          Outbox.offered_of_takes (Outbox.takes_of_pushText hb)]
      | error e =>
        rw [deliverTo_error hb, undelivered_quiet e hqq, deliverAll, told_undelivered,
          Outbox.offered_of_not_takes (Outbox.not_takes_of_pushText hb)]
    · -- the text comes later, and the one before it goes elsewhere
      have hne : q.outbox ≠ p.outbox := fun heq => hown.1 (List.mem_map.2 ⟨p, hp, heq.symm⟩)
      rw [ih hq' hown.2 hp, outbox_deliverTo_ne hqq hne]

theorem desktop_detach {c : ConnectionId} (hq : h.Quiet c) (account : AccountId) :
    ((h.detach c).1.room account).desktop = (h.room account).desktop := by
  cases hi : h.index[c]? with
  | none => rw [detach_of_not_mem (Table.not_mem_iff_lookup.2 hi)]
  | some a =>
    rw [detach_room hi]
    split
    · rename_i ha
      rw [Room.kept_desktop, Room.remove_desktop, hq a, ha]
      rfl
    · rfl

theorem desktop_undelivered {p : Parcel} {e : Outbox.Refusal} (hq : h.Quiet p.id)
    (account : AccountId) :
    ((h.undelivered p e).1.room account).desktop = (h.room account).desktop := by
  unfold undelivered
  split
  · exact desktop_detach hq account
  · rw [desktop_detach ((pushClose_recedes h _ _).quiet hq), pushClose_room]
  · rfl

/-- Only mobiles can leave by it, so every desktop stays. -/
theorem desktop_deliverAll (hq : ∀ p ∈ ps, h.Quiet p.id) (account : AccountId) :
    ((h.deliverAll ps).room account).desktop = (h.room account).desktop := by
  induction ps generalizing h with
  | nil => rw [deliverAll]
  | cons p ps ih =>
    obtain ⟨hqp, hq⟩ := List.forall_mem_cons.1 hq
    have hrec := deliverTo_recedes h p
    rw [← deliver_fst, deliver_cons, deliver_fst, ih fun p hp => hrec.quiet (hq p hp)]
    cases hb : (h.outbox p.outbox).pushText p.text with
    | ok b =>
      rw [deliverTo_ok hb]
      rfl
    | error e =>
      rw [deliverTo_error hb, undelivered_quiet e hqp, deliverAll, desktop_undelivered hqp]

end List

/-! ## Outboxes of one's own -/

/-- A connection is somewhere in a room. -/
def Member (h : Hub) (c : Connection) : Prop :=
  ∃ account, (h.room account).desktop = some c ∨
    ∃ k : ConnectionId, (h.room account).mobiles[k]? = some c

/-- Nobody shares an outbox with anybody else. -/
def Separate (h : Hub) : Prop :=
  ∀ c c', h.Member c → h.Member c' → c.outbox = c'.outbox → c = c'

theorem Peopled.member {P : AccountId → Connection → Prop} {h : Hub} (hp : Peopled P h)
    {c : Connection} (hc : h.Member c) : ∃ account, P account c := by
  obtain ⟨account, hd | ⟨k, hm⟩⟩ := hc
  · exact ⟨account, hp.desktop account c hd⟩
  · exact ⟨account, hp.mobile account k c hm⟩

theorem Peopled.separate {cs : List Connection} {h : Hub} (hp : Peopled (fun _ c => c ∈ cs) h)
    (hown : (cs.map (·.outbox)).Nodup) : h.Separate := by
  intro c c' hc hc' ho
  obtain ⟨-, hc⟩ := hp.member hc
  obtain ⟨-, hc'⟩ := hp.member hc'
  exact List.inj_on_of_nodup_map hown hc hc' ho

theorem Recedes.member {h g : Hub} (hr : h.Recedes g) {c : Connection} (hc : g.Member c) :
    h.Member c := by
  obtain ⟨account, hd | ⟨k, hm⟩⟩ := hc
  · exact ⟨account, .inl (hr.desktop account c hd)⟩
  · exact ⟨account, .inr ⟨k, hr.mobile account k c hm⟩⟩

theorem Separate.recedes {h g : Hub} (hs : h.Separate) (hr : h.Recedes g) : g.Separate :=
  fun c c' hc hc' ho => hs c c' (hr.member hc) (hr.member hc') ho

theorem Separate.nodup_values {h : Hub} (hs : h.Separate) (hc : h.Consistent)
    (account : AccountId) : ((h.room account).mobiles.values.map (·.outbox)).Nodup := by
  have honce : (h.room account).mobiles.values.Nodup :=
    Table.nodup_values fun k m hm => ((hc.wellFormed account).mobile k m hm).1
  refine honce.map_on fun m hm m' hm' ho => ?_
  obtain ⟨k, hk⟩ := Table.mem_values.1 hm
  obtain ⟨k', hk'⟩ := Table.mem_values.1 hm'
  exact hs m m' ⟨account, .inr ⟨k, hk⟩⟩ ⟨account, .inr ⟨k', hk'⟩⟩ ho

/-! ## Telling all mobiles of a room -/

/-- Tells all mobiles of a room the same. -/
def tell (h : Hub) (account : AccountId) (text : String) : Hub :=
  h.deliverAll (parcels (h.room account).mobiles.values text)

theorem announce_fst (h : Hub) (account : AccountId) (n : Notice) :
    (h.announce account n).1 = h.tell account n.render := deliver_fst _ _

theorem Consistent.quiet_parcels {h : Hub} (hc : h.Consistent) {account : AccountId}
    {targets : List Connection}
    (ht : ∀ t ∈ targets, ∃ k : ConnectionId, (h.room account).mobiles[k]? = some t)
    (text : String) : ∀ p ∈ parcels targets text, h.Quiet p.id := by
  intro p hp
  obtain ⟨t, htm, rfl⟩ := List.mem_map.1 hp
  obtain ⟨k, hk⟩ := ht t htm
  obtain ⟨rfl, -⟩ := (hc.wellFormed account).mobile k t hk
  exact hc.quiet (Table.mem_of_lookup hk)

/-- Some mobiles of a room are offered a text, and nobody else is. -/
theorem told_parcels {h : Hub} (hc : h.Consistent) {account : AccountId}
    {targets : List Connection}
    (ht : ∀ t ∈ targets, ∃ k : ConnectionId, (h.room account).mobiles[k]? = some t)
    (hown : (targets.map (·.outbox)).Nodup) (text : String) (o : OutboxId) :
    ((h.deliverAll (parcels targets text)).outbox o).told
      = (h.outbox o).offered (if targets.any (·.outbox = o) then some text else none) := by
  have hq := hc.quiet_parcels ht text
  have hmap : (parcels targets text).map (·.outbox) = targets.map (·.outbox) := by
    simp [parcels]
  by_cases hmem : targets.any (·.outbox = o) = true
  · rw [if_pos hmem]
    obtain ⟨t, htm, hto⟩ := List.any_eq_true.1 hmem
    obtain rfl : t.outbox = o := by simpa using hto
    exact told_deliverAll hq (hmap ▸ hown) (p := ⟨t.id, t.outbox, text⟩)
      (List.mem_map.2 ⟨t, htm, rfl⟩)
  · rw [if_neg hmem, Outbox.offered_none, outbox_deliverAll_ne hq]
    intro p hp ho
    obtain ⟨t, htm, rfl⟩ := List.mem_map.1 hp
    exact hmem (List.any_eq_true.2 ⟨t, htm, by simpa using ho⟩)

theorem lookup_of_mem_values {h : Hub} {account : AccountId} :
    ∀ t ∈ (h.room account).mobiles.values,
      ∃ k : ConnectionId, (h.room account).mobiles[k]? = some t :=
  fun _ ht => Table.mem_values.1 ht

theorem told_tell {h : Hub} (hc : h.Consistent) (hs : h.Separate) (account : AccountId)
    (text : String) (o : OutboxId) :
    ((h.tell account text).outbox o).told
      = (h.outbox o).offered (if (h.room account).listens o then some text else none) :=
  told_parcels hc lookup_of_mem_values (hs.nodup_values hc account) text o

theorem desktop_tell {h : Hub} (hc : h.Consistent) (account other : AccountId) (text : String) :
    ((h.tell account text).room other).desktop = (h.room other).desktop :=
  desktop_deliverAll (hc.quiet_parcels lookup_of_mem_values text) other

end Hub

end Switchboard
