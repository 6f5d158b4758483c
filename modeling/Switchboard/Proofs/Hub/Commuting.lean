import Mathlib.Data.List.Nodup
import Switchboard.Proofs.Hub.HasEffect

/-! # Telling in another order

Two mobiles that are told something do not get in each other's way: each text is for an outbox
of its own, and each connection that leaves takes its own entries along.  So the two may be told
in either order, and several in any order.

* `setOutbox_comm`, `detach_setOutbox`, `detach_comm` — what a hub does, in either order;
* `offer`, `deliverTo_eq` — a text for a mobile as an offer to its outbox, and perhaps its leave;
* `deliverTo_comm` — two texts;
* `Apart` — texts for several mobiles, each with a name and an outbox of its own;
* `Apart.deliverAll_perm`, `Apart.deliver_snd` — the hub after them, and how many arrived.
-/

namespace Switchboard

namespace Table

variable {κ α : Type} [Ord κ] [Std.TransOrd κ] [Std.LawfulEqOrd κ] [DecidableEq κ]

theorem insert_comm {t : Table κ α} {k k' : κ} {v v' : α} (hne : k ≠ k') :
    (t.insert k v).insert k' v' = (t.insert k' v').insert k v := by
  apply Std.ExtTreeMap.ext_getElem?
  intro i
  simp only [lookup_insert]
  by_cases hk : k = i
  · rw [if_pos hk, if_pos hk, if_neg fun hk' => hne (hk.trans hk'.symm)]
  · rw [if_neg hk, if_neg hk]

theorem erase_comm (t : Table κ α) (k k' : κ) :
    (t.erase k).erase k' = (t.erase k').erase k := by
  apply Std.ExtTreeMap.ext_getElem?
  intro i
  simp only [lookup_erase]
  by_cases hk : k = i <;> by_cases hk' : k' = i <;> simp [hk, hk']

omit [DecidableEq κ] in
theorem filter_comm (t : Table κ α) (f g : κ → α → Bool) :
    (t.filter f).filter g = (t.filter g).filter f := by
  apply Std.ExtTreeMap.ext_getElem?
  intro i
  simp only [lookup_filter, Option.filter_filter, Bool.and_comm]

end Table

namespace Room

variable {r : Room} {c c' : ConnectionId}

/-- What the hub stores of a room: nothing once it is empty. -/
def stored (r : Room) : Option Room := if r.isEmpty then none else some r

theorem remove_mobile (hc : r.isDesktop c = false) :
    (r.remove c).1 = if c ∈ r.mobiles then r.withoutMobile c else r := by
  unfold remove
  rw [hc, if_neg Bool.false_ne_true]
  split <;> rfl

/-- Two mobiles may leave a room in either order. -/
theorem remove_comm (hc : r.isDesktop c = false) (hc' : r.isDesktop c' = false) (hne : c ≠ c') :
    ((r.remove c).1.remove c').1 = ((r.remove c').1.remove c).1 := by
  have hkept : (r.remove c').1.isDesktop c = false := by
    rw [isDesktop, remove_desktop, if_neg (by simp [hc'])]
    exact hc
  have hkept' : (r.remove c).1.isDesktop c' = false := by
    rw [isDesktop, remove_desktop, if_neg (by simp [hc])]
    exact hc'
  rw [remove_mobile hkept, remove_mobile hkept', remove_mobile hc, remove_mobile hc']
  by_cases hm : c ∈ r.mobiles <;> by_cases hm' : c' ∈ r.mobiles <;>
    simp [hm, hm', withoutMobile, Table.erase_comm r.mobiles c c', hne, Ne.symm hne,
      Std.LawfulEqCmp.compare_eq_iff_eq, Table.filter_comm]

theorem stored_remove_of_isEmpty (hr : r.isEmpty = true) (c : ConnectionId) :
    (r.remove c).1.stored = none := by
  have hsize := size_remove_le r c
  unfold stored
  rw [if_pos]
  simp only [isEmpty, decide_eq_true_eq] at hr ⊢
  omega

theorem stored_remove_kept (r : Room) (c : ConnectionId) :
    (r.kept.remove c).1.stored = (r.remove c).1.stored := by
  unfold kept
  split
  · next hempty =>
    rw [stored_remove_of_isEmpty hempty, stored_remove_of_isEmpty (by decide +kernel)]
  · rfl

end Room

namespace Hub

variable {h : Hub} {p q : Parcel} {ps qs : List Parcel} {c c' : ConnectionId} {o o' : OutboxId}

theorem ext_fields {g k : Hub} (hconf : g.config = k.config) (hrooms : g.rooms = k.rooms)
    (hindex : g.index = k.index) (hout : g.outboxes = k.outboxes) : g = k := by
  cases g
  cases k
  simp_all

/-! ## One step before or after another -/

theorem setOutbox_comm (h : Hub) {b b' : Outbox} (ho : o ≠ o') :
    (h.setOutbox o b).setOutbox o' b' = (h.setOutbox o' b').setOutbox o b := by
  unfold setOutbox
  dsimp only
  rw [Table.insert_comm ho]

theorem detach_setOutbox (h : Hub) (o : OutboxId) (b : Outbox) (c : ConnectionId) :
    ((h.setOutbox o b).detach c).1 = (h.detach c).1.setOutbox o b := by
  cases hi : h.index[c]? with
  | none =>
    have hi' : (h.setOutbox o b).index[c]? = none := hi
    rw [detach_of_not_mem (Table.not_mem_iff_lookup.2 hi),
      detach_of_not_mem (Table.not_mem_iff_lookup.2 hi')]
  | some account =>
    have hi' : (h.setOutbox o b).index[c]? = some account := hi
    rw [detach_eq hi, detach_eq hi']
    rfl

theorem lookup_detach {account : AccountId} (hi : h.index[c]? = some account) (other : AccountId) :
    (h.detach c).1.rooms[other]? =
      if account = other then ((h.room account).remove c).1.stored else h.rooms[other]? := by
  rw [detach_eq hi]
  exact lookup_setRoom _ account other _

theorem lookup_detach_detach {account account' : AccountId} (hi : h.index[c]? = some account)
    (hi' : h.index[c']? = some account') (hne : c ≠ c') (other : AccountId) :
    ((h.detach c).1.detach c').1.rooms[other]? =
      if account' = other then
        if account = account' then (((h.room account).remove c).1.remove c').1.stored
        else ((h.room account').remove c').1.stored
      else if account = other then ((h.room account).remove c).1.stored
      else h.rooms[other]? := by
  have hi'' : (h.detach c).1.index[c']? = some account' := by
    rw [detach_index, Table.lookup_erase, if_neg hne, hi']
  rw [lookup_detach hi'', lookup_detach hi, detach_room hi]
  by_cases ha : account = account'
  · subst ha
    rw [if_pos rfl, if_pos rfl, Room.stored_remove_kept]
  · rw [if_neg ha, if_neg ha]

/-- Two connections that are nobody's desktop may leave in either order. -/
theorem detach_comm (hq : h.Quiet c) (hq' : h.Quiet c') (hne : c ≠ c') :
    ((h.detach c).1.detach c').1 = ((h.detach c').1.detach c).1 := by
  cases hi : h.index[c]? with
  | none =>
    have hout : c ∉ h.index := Table.not_mem_iff_lookup.2 hi
    rw [detach_of_not_mem hout, detach_of_not_mem ((Recedes.detach h c').not_mem hout)]
  | some account =>
    cases hi' : h.index[c']? with
    | none =>
      have hout : c' ∉ h.index := Table.not_mem_iff_lookup.2 hi'
      rw [detach_of_not_mem hout, detach_of_not_mem ((Recedes.detach h c).not_mem hout)]
    | some account' =>
      refine ext_fields (by simp) ?_ ?_ (by simp)
      · apply Std.ExtTreeMap.ext_getElem?
        intro other
        rw [lookup_detach_detach hi hi' hne, lookup_detach_detach hi' hi (Ne.symm hne)]
        by_cases ha : account = account'
        · subst ha
          by_cases hother : account = other
          · simp only [hother, if_true]
            rw [Room.remove_comm (hq other) (hq' other) hne]
          · simp only [hother, if_false]
        · -- two rooms are concerned, each by one of the two
          rw [if_neg ha, if_neg (Ne.symm ha)]
          by_cases hother : account = other
          · have hother' : account' ≠ other := fun heq => ha (hother.trans heq.symm)
            rw [if_neg hother', if_pos hother, if_pos hother]
          · rw [if_neg hother, if_neg hother]
      · simp only [detach_index, Table.erase_comm h.index c c']

/-! ## One text -/

theorem setOutbox_outbox (hlive : (h.outbox o).live = true) : h.setOutbox o (h.outbox o) = h := by
  have hlookup : h.outboxes[o]? = some (h.outbox o) := by
    unfold outbox at hlive ⊢
    rw [Std.ExtTreeMap.getD_eq_getD_getElem?] at hlive ⊢
    cases hb : h.outboxes[o]? with
    | some b => rfl
    | none =>
      rw [hb] at hlive
      cases hlive
  unfold setOutbox
  rw [Table.insert_of_lookup hlookup]

/-- The hub once a text was offered to the outbox that it is for. -/
def offer (h : Hub) (p : Parcel) : Hub :=
  if (h.outbox p.outbox).live then
    h.setOutbox p.outbox ((h.outbox p.outbox).receive h.config.overflow p.text)
  else h

@[simp] theorem offer_config (h : Hub) (p : Parcel) : (h.offer p).config = h.config := by
  unfold offer
  split <;> rfl

theorem offer_room (h : Hub) (p : Parcel) (account : AccountId) :
    (h.offer p).room account = h.room account := by
  unfold offer
  split <;> rfl

theorem outbox_offer_ne (h : Hub) (ho : p.outbox ≠ o) : (h.offer p).outbox o = h.outbox o := by
  unfold offer
  split
  · exact outbox_setOutbox_ne h _ ho
  · rfl

theorem offer_comm (h : Hub) (ho : p.outbox ≠ q.outbox) :
    (h.offer p).offer q = (h.offer q).offer p := by
  have hp : (h.offer q).outbox p.outbox = h.outbox p.outbox := outbox_offer_ne h (Ne.symm ho)
  have hq : (h.offer p).outbox q.outbox = h.outbox q.outbox := outbox_offer_ne h ho
  rw [offer, hq, offer_config, offer.eq_def (h.offer q), hp, offer_config]
  unfold offer
  split <;> split <;> first | rfl | exact setOutbox_comm h ho

theorem detach_offer (h : Hub) (p : Parcel) (c : ConnectionId) :
    ((h.offer p).detach c).1 = (h.detach c).1.offer p := by
  unfold offer
  rw [detach_outbox, detach_config]
  split
  · exact detach_setOutbox h _ _ c
  · rfl

theorem Quiet.offer (hq : h.Quiet c) (p : Parcel) : (h.offer p).Quiet c := by
  intro account
  rw [offer_room]
  exact hq account

/-- A text for somebody who is nobody's desktop: it is offered, and whoever does not bear it
leaves. -/
theorem deliverTo_eq (hq : h.Quiet p.id) :
    (h.deliverTo p).1 =
      if (h.outbox p.outbox).Bears h.config.overflow then h.offer p
      else ((h.offer p).detach p.id).1 := by
  have hleave : ∀ k : Hub, k.Quiet p.id → (k.deregister p.id).1 = (k.detach p.id).1 := by
    intro k hk
    rw [deregister_fst, detach_quiet hk, deliverAll]
  rw [deliverTo_fst]
  cases hpush : (h.outbox p.outbox).pushText p.text with
  | ok b =>
    have hlive := (Outbox.pushText_eq_ok.1 hpush).1
    rw [if_pos (Outbox.bears_of_pushText hpush), offer, if_pos hlive, Outbox.receive_ok hpush]
  | error e =>
    cases e with
    | closed =>
      have hdead := Outbox.not_live_of_closed hpush
      rw [if_neg (Outbox.not_bears_of_closed hpush), offer, if_neg (by simp [hdead])]
      exact hleave h hq
    | full =>
      have hlive := (Outbox.pushText_eq_full.1 hpush).1
      cases hover : h.config.overflow with
      | close =>
        have hclosed : h.offer p = h.pushClose p.outbox overflowReason := by
          simp [offer, pushClose, hlive, Outbox.receive, hpush, hover]
        rw [if_neg (Outbox.not_bears_of_full hpush), ← hclosed]
        exact hleave _ (hq.offer p)
      | dropNewest =>
        have hsame : h.offer p = h := by
          simp [offer, hlive, Outbox.receive, hpush, hover, setOutbox_outbox hlive]
        rw [if_pos (Outbox.bears_of_drop hpush), hsame]

/-! ## Two texts -/

/-- Two texts for different people come to the same in either order. -/
theorem deliverTo_comm (hp : h.Quiet p.id) (hq : h.Quiet q.id) (hid : p.id ≠ q.id)
    (ho : p.outbox ≠ q.outbox) :
    ((h.deliverTo p).1.deliverTo q).1 = ((h.deliverTo q).1.deliverTo p).1 := by
  have hp' := (deliverTo_recedes h q).quiet hp
  have hq' := (deliverTo_recedes h p).quiet hq
  have hleave := detach_comm ((hp.offer p).offer q) ((hq.offer p).offer q) hid
  rw [deliverTo_eq hp', deliverTo_eq hq', outbox_deliverTo_ne hp ho,
    outbox_deliverTo_ne hq (Ne.symm ho), (deliverTo_recedes h p).config,
    (deliverTo_recedes h q).config, deliverTo_eq hp, deliverTo_eq hq]
  split <;> split <;>
    simp only [← detach_offer, offer_comm h (Ne.symm ho), hleave]

/-! ## Several texts -/

/-- Texts for several people who are nobody's desktop, each with a name and an outbox of its
own. -/
structure Apart (h : Hub) (ps : List Parcel) : Prop where
  quiet : ∀ p ∈ ps, h.Quiet p.id
  names : (ps.map (·.id)).Nodup
  outboxes : (ps.map (·.outbox)).Nodup

theorem deliverAll_cons (h : Hub) (p : Parcel) (ps : List Parcel) :
    h.deliverAll (p :: ps) = (h.deliverTo p).1.deliverAll ps := by
  rw [← deliver_fst, deliver_cons, deliver_fst]

namespace Apart

theorem tail (ha : h.Apart (p :: ps)) : (h.deliverTo p).1.Apart ps where
  quiet q hq := (deliverTo_recedes h p).quiet (ha.quiet q (List.mem_cons_of_mem _ hq))
  names := (List.nodup_cons.1 ha.names).2
  outboxes := (List.nodup_cons.1 ha.outboxes).2

theorem perm (ha : h.Apart ps) (hperm : ps.Perm qs) : h.Apart qs where
  quiet q hq := ha.quiet q (hperm.mem_iff.2 hq)
  names := (hperm.map _).nodup_iff.1 ha.names
  outboxes := (hperm.map _).nodup_iff.1 ha.outboxes

/-- Several people may be told in any order. -/
theorem deliverAll_perm (ha : h.Apart ps) (hperm : ps.Perm qs) :
    h.deliverAll ps = h.deliverAll qs := by
  induction hperm generalizing h with
  | nil => rfl
  | cons p _ ih =>
    rw [deliverAll_cons, deliverAll_cons]
    exact ih ha.tail
  | swap p q ps =>
    have hids := ha.names
    have hos := ha.outboxes
    simp only [List.map_cons, List.nodup_cons, List.mem_cons, not_or] at hids hos
    rw [deliverAll_cons, deliverAll_cons, deliverAll_cons, deliverAll_cons,
      deliverTo_comm (ha.quiet q List.mem_cons_self)
        (ha.quiet p (List.mem_cons_of_mem _ List.mem_cons_self)) hids.1.1 hos.1.1]
  | trans hperm _ ih ih' => exact (ih ha).trans (ih' (ha.perm hperm))

/-- As many texts arrive as there are outboxes that take them. -/
theorem deliver_snd (ha : h.Apart ps) :
    (h.deliver ps).2 = ps.countP fun p => decide (h.outbox p.outbox).Takes := by
  induction ps generalizing h with
  | nil => rfl
  | cons p ps ih =>
    have hsame : ∀ q ∈ ps, (h.deliverTo p).1.outbox q.outbox = h.outbox q.outbox := by
      intro q hq
      refine outbox_deliverTo_ne (ha.quiet p List.mem_cons_self) fun ho => ?_
      exact (List.nodup_cons.1 ha.outboxes).1 (List.mem_map.2 ⟨q, hq, ho.symm⟩)
    have hrest : ((h.deliverTo p).1.deliver ps).2
        = ps.countP fun q => decide (h.outbox q.outbox).Takes := by
      rw [ih ha.tail]
      exact List.countP_congr fun q hq => by rw [hsame q hq]
    rw [List.countP_cons, ← hrest]
    cases hpush : (h.outbox p.outbox).pushText p.text with
    | ok b =>
      rw [deliver, deliverTo_ok hpush]
      simp [Outbox.takes_of_pushText hpush]
    | error e =>
      rw [deliver, deliverTo_error hpush]
      simp [Outbox.not_takes_of_pushText hpush]

end Apart

/-- Texts for mobiles of one room are for different people. -/
theorem Consistent.apart_parcels (hc : h.Consistent) (hs : h.Separate) {account : AccountId}
    {targets : List Connection}
    (ht : ∀ t ∈ targets, ∃ k : ConnectionId, (h.room account).mobiles[k]? = some t)
    (hnodup : targets.Nodup) (text : String) : h.Apart (parcels targets text) where
  quiet := hc.quiet_parcels ht text
  names := by
    rw [parcels, List.map_map]
    refine hnodup.map_on fun t htm t' htm' hid => ?_
    exact hc.member_unique ⟨account, .inr (ht t htm)⟩ ⟨account, .inr (ht t' htm')⟩ hid
  outboxes := by
    rw [parcels, List.map_map]
    refine hnodup.map_on fun t htm t' htm' ho => ?_
    exact hs t t' ⟨account, .inr (ht t htm)⟩ ⟨account, .inr (ht t' htm')⟩ ho

end Hub

end Switchboard
