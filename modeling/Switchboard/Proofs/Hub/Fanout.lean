import Switchboard.Proofs.Hub.Consistency

/-! # Telling the mobiles

Only a desktop's leaving has to be told, so nothing comes up on the way while mobiles are
told something: a text for a mobile changes the outbox of that mobile and no other, and
the mobiles behind it in the list are told whatever becomes of it.

* `Quiet` — a connection that leaves without anybody being told;
* `outbox_deliverTo_ne` — the outboxes that one text leaves alone;
* `sent_deliver` — an outbox with room gets the text that several connections are told.
-/

namespace Switchboard.Hub

/-! ## Leaving quietly -/

/-- A connection that is nobody's desktop. -/
def Quiet (h : Hub) (c : ConnectionId) : Prop := ∀ account, (h.room account).isDesktop c = false

theorem Recedes.quiet {h h' : Hub} (r : h.Recedes h') {c : ConnectionId} (hq : h.Quiet c) :
    h'.Quiet c := by
  intro account
  rw [Bool.eq_false_iff]
  intro hd
  obtain ⟨d, hdesk, rfl⟩ := Room.isDesktop_iff.1 hd
  have hbefore : (h.room account).isDesktop d.id = true :=
    Room.isDesktop_iff.2 ⟨d, r.desktop account d hdesk, rfl⟩
  rw [hq account] at hbefore
  cases hbefore

theorem Consistent.quiet {h : Hub} (hc : h.Consistent) {account : AccountId} {c : ConnectionId}
    (hm : c ∈ (h.room account).mobiles) : h.Quiet c := by
  intro other
  rw [Bool.eq_false_iff]
  intro hd
  have ha : account = other := hc.eq_of_holds (.inr hm) (.inl hd)
  obtain ⟨d, hdesk, rfl⟩ := Room.isDesktop_iff.1 hd
  exact (hc.wellFormed other).apart d hdesk (ha ▸ hm)

theorem detach_quiet {h : Hub} {c : ConnectionId} (hq : h.Quiet c) : (h.detach c).2 = [] := by
  cases hi : h.index[c]? with
  | none => rw [detach_of_not_mem (Table.not_mem_iff_lookup.2 hi)]
  | some account =>
    rw [detach_eq hi]
    unfold farewell
    rw [Room.remove_departed, hq account]
    rfl

theorem undelivered_quiet {h : Hub} {p : Parcel} (e : Outbox.Refusal) (hq : h.Quiet p.id) :
    (h.undelivered p e).2 = [] := by
  unfold undelivered
  split
  · exact detach_quiet hq
  · refine detach_quiet ?_
    exact (pushClose_recedes h p.outbox overflowReason).quiet hq
  · rfl

/-! ## The outboxes that are left alone -/

theorem outbox_pushClose_ne (h : Hub) {o o' : OutboxId} (reason : String) (ho : o ≠ o') :
    (h.pushClose o reason).outbox o' = h.outbox o' := by
  obtain he | ⟨-, he⟩ := pushClose_eq h o reason
  · rw [he]
  · rw [he, outbox_setOutbox_ne h _ ho]

theorem outbox_undelivered_ne (h : Hub) (p : Parcel) (e : Outbox.Refusal) {o : OutboxId}
    (ho : p.outbox ≠ o) : (h.undelivered p e).1.outbox o = h.outbox o := by
  unfold undelivered
  split
  · rw [detach_outbox]
  · rw [detach_outbox, outbox_pushClose_ne h _ ho]
  · rfl

theorem outbox_deliverTo_ne {h : Hub} {p : Parcel} (hq : h.Quiet p.id) {o : OutboxId}
    (ho : p.outbox ≠ o) : (h.deliverTo p).1.outbox o = h.outbox o := by
  cases hb : (h.outbox p.outbox).pushText p.text with
  | ok b => rw [deliverTo_ok hb, outbox_setOutbox_ne h b ho]
  | error e =>
    rw [deliverTo_error hb, undelivered_quiet e hq, deliverAll]
    exact outbox_undelivered_ne h p e ho

/-! ## Telling several -/

theorem deliver_cons (h : Hub) (p : Parcel) (ps : List Parcel) :
    (h.deliver (p :: ps)).1 = ((h.deliverTo p).1.deliver ps).1 := by
  rw [deliver]
  generalize h.deliverTo p = out
  obtain ⟨g, r⟩ := out
  cases r <;> rfl

/-- An outbox with room for a text gets it, if it is among those of several quiet
connections that are told the same, and possibly more behind it. -/
theorem sent_deliver {h : Hub} {ps : List Parcel} {text : String} {o : OutboxId}
    (hq : ∀ p ∈ ps, h.Quiet p.id) (htext : ∀ p ∈ ps, p.text = text)
    (hmem : ∃ p ∈ ps, p.outbox = o) (hlive : (h.outbox o).live = true)
    (hroom : (h.outbox o).depth < (h.outbox o).capacity) :
    ∃ more, ((h.deliver ps).1.outbox o).sent = (h.outbox o).sent ++ .text text :: more := by
  induction ps generalizing h with
  | nil =>
    obtain ⟨p, hp, -⟩ := hmem
    cases hp
  | cons p ps ih =>
    rw [deliver_cons]
    by_cases ho : p.outbox = o
    · subst ho
      rw [deliverTo_ok (Outbox.pushText_eq_ok.2 ⟨hlive, hroom, rfl⟩)]
      obtain ⟨items, hsent, -⟩ :=
        ((deliver_recedes (h.setOutbox p.outbox _) ps).outbox p.outbox).sent
      refine ⟨items, ?_⟩
      rw [hsent, outbox_setOutbox_self, htext p List.mem_cons_self]
      exact List.append_assoc _ _ _
    · -- the outbox is that of a connection behind the first, which leaves it alone
      have hsame := outbox_deliverTo_ne (hq p List.mem_cons_self) ho
      have hmem' : ∃ p' ∈ ps, p'.outbox = o := by
        obtain ⟨p', hp', ho'⟩ := hmem
        obtain rfl | htail := List.mem_cons.1 hp'
        · exact absurd ho' ho
        · exact ⟨p', htail, ho'⟩
      have hrec := deliverTo_recedes h p
      obtain ⟨more, hmore⟩ := ih (fun p' hp' => hrec.quiet (hq p' (List.mem_cons_of_mem _ hp')))
        (fun p' hp' => htext p' (List.mem_cons_of_mem _ hp')) hmem' (by rw [hsame]; exact hlive)
        (by rw [hsame]; exact hroom)
      rw [hsame] at hmore
      exact ⟨more, hmore⟩

end Switchboard.Hub
