import Switchboard.Proofs.Hub.Offers
import Switchboard.Proofs.Notice

/-! # What a sender is told

The hub answers a frame with an error or not at all.  An error names the frame by the id that the
frame has as a text, wherever on its way it was refused: before it was a message, as a message that
may not go that way, or as a command that the desktop did not get.

Whoever else may hear of it does so because a desktop has left, and is told just that.  Errors are
never put into an outbox.

* `Replying` — the answers, with what has become of the hub;
* `AddsOnly` — nothing but certain texts have been put into outboxes;
* `addsOnly_route` — a frame adds itself, and that desktops have left.
-/

namespace Switchboard

/-- A message has the id that its text has. -/
theorem Message.id_of_read {text : String} {m : Message} (h : Message.read text = .ok m) :
    m.id = Message.peekId text := by
  unfold read at h
  unfold peekId
  cases hparse : Json.parse text with
  | error e =>
    rw [hparse] at h
    cases h
  | ok v =>
    rw [hparse] at h
    dsimp only at h ⊢
    split at h
    · cases h
    unfold classify at h
    split at h
    · cases h
    split at h
    · cases h
    dsimp only at h
    split at h
    · cases h
    · cases h
      rfl

namespace Hub

variable {h g k : Hub} {P : String → Prop} {sender : ConnectionId} {role : Role} {text : String}
  {m : Message}

/-! ## The answer -/

/-- What can come of a frame: no answer, an error in the frame itself, which leaves the hub as it
was, or the error that the desktop did not get it. -/
inductive Replying (h : Hub) (text : String) : Hub × Option Notice → Prop
  | silent (g : Hub) : Replying h text (g, none)
  | rejected (message : String) :
      Replying h text (h, some (.error (Message.peekId text) Notice.invalidMessage message))
  | missed (g : Hub) (code message : String) : code = desktopOffline ∨ code = desktopBusy →
      Replying h text (g, some (.error (Message.peekId text) code message))

theorem replying_command (g : Hub) (e : Refusal) :
    Replying h text (g, commandReply (Message.peekId text) e) := by
  cases e with
  | desktopOffline => exact .missed g _ _ (.inl rfl)
  | desktopBusy => exact .missed g _ _ (.inr rfl)
  | _ => exact .silent g

theorem replying (h : Hub) (sender : ConnectionId) (role : Role) (text : String) :
    Replying h text (h.route sender role text) := by
  unfold route
  cases hread : Message.read text with
  | error fault => exact .rejected fault.message
  | ok m =>
    have hid := Message.id_of_read hread
    unfold pass
    dsimp only
    split
    · -- a mobile's command
      generalize h.toDesktop sender m = out
      obtain ⟨g, ⟨e⟩ | ⟨⟩⟩ := out
      · dsimp only
        rw [hid]
        exact replying_command g e
      · exact .silent g
    · split
      · exact .silent _
      · rw [directionReply, hid]
        exact .rejected _

/-! ## Who else hears of it -/

/-- Nothing but certain texts has been put into outboxes. -/
def AddsOnly (P : String → Prop) (h g : Hub) : Prop :=
  ∀ o, ∃ more, (g.outbox o).told = (h.outbox o).told ++ more ∧ ∀ t ∈ more, P t

namespace AddsOnly

theorem of_told (htold : ∀ o, (g.outbox o).told = (h.outbox o).told) : AddsOnly P h g :=
  fun o => ⟨[], by rw [htold, List.append_nil], by simp⟩

theorem refl (h : Hub) : AddsOnly P h h := of_told fun _ => rfl

theorem trans (hg : AddsOnly P h g) (hk : AddsOnly P g k) : AddsOnly P h k := by
  intro o
  obtain ⟨more, htold, hmore⟩ := hg o
  obtain ⟨further, htold', hfurther⟩ := hk o
  refine ⟨more ++ further, by rw [htold', htold, List.append_assoc], fun t ht => ?_⟩
  obtain ht | ht := List.mem_append.1 ht
  · exact hmore t ht
  · exact hfurther t ht

theorem setOutbox {o : OutboxId} {b : Outbox} {t : String} (ht : P t)
    (hb : (h.outbox o).pushText t = .ok b) : AddsOnly P h (h.setOutbox o b) := by
  intro o'
  rw [outbox_setOutbox]
  by_cases ho : o = o'
  · subst ho
    exact ⟨[t], by rw [if_pos rfl, Outbox.told_pushText hb], by simpa using ht⟩
  · exact ⟨[], by simp [ho], by simp⟩

end AddsOnly

theorem mem_detach {i : ConnectionId} {p : Parcel} (hp : p ∈ (h.detach i).2) :
    ∃ gone : Principal, p.text = (presence false gone).render := by
  cases hi : h.index[i]? with
  | none =>
    rw [detach_of_not_mem (Table.not_mem_iff_lookup.2 hi)] at hp
    cases hp
  | some account =>
    rw [detach_eq hi] at hp
    dsimp only [farewell] at hp
    split at hp
    · rename_i desktop _
      obtain ⟨c, -, rfl⟩ := List.mem_map.1 hp
      exact ⟨desktop.principal, rfl⟩
    · cases hp

/-- A text that could not be put into an outbox is put nowhere else, and nothing comes up but that
a desktop has left. -/
theorem undelivered_quietly (h : Hub) (p : Parcel) (e : Outbox.Refusal) :
    (∀ o, ((h.undelivered p e).1.outbox o).told = (h.outbox o).told) ∧
      ∀ q ∈ (h.undelivered p e).2, ∃ gone : Principal, q.text = (presence false gone).render := by
  unfold undelivered
  split
  · exact ⟨fun o => by rw [detach_outbox], fun q => mem_detach⟩
  · refine ⟨fun o => ?_, fun q => mem_detach⟩
    rw [detach_outbox]
    simpa using offered_pushClose h p.outbox o overflowReason none
  · exact ⟨fun _ => rfl, by simp⟩

section

variable (hgone : ∀ gone : Principal, P (presence false gone).render)

include hgone

theorem addsOnly_deliverAll {ps : List Parcel} (hps : ∀ p ∈ ps, P p.text) :
    AddsOnly P h (h.deliverAll ps) := by
  fun_induction Hub.deliverAll h ps with
  | case1 h => exact .refl h
  | case2 h p ps h' hp ih =>
    obtain ⟨b, hb, rfl⟩ := push_eq_ok.1 hp
    have hrest : ∀ q ∈ ps, P q.text := fun q hq => hps q (List.mem_cons_of_mem _ hq)
    exact (AddsOnly.setOutbox (hps p List.mem_cons_self) hb).trans (ih hrest)
  | case3 h p ps e hp h' more hu ih =>
    have hquiet := undelivered_quietly h p e
    rw [hu] at hquiet
    refine (AddsOnly.of_told hquiet.1).trans (ih fun q hq => ?_)
    obtain hq | hq := List.mem_append.1 hq
    · obtain ⟨gone, heq⟩ := hquiet.2 q hq
      rw [heq]
      exact hgone gone
    · exact hps q (List.mem_cons_of_mem _ hq)

theorem addsOnly_deregister (h : Hub) (i : ConnectionId) : AddsOnly P h (h.deregister i).1 := by
  rw [deregister_fst]
  have hdetached : AddsOnly P h (h.detach i).1 := .of_told fun o => by rw [detach_outbox]
  refine hdetached.trans (addsOnly_deliverAll hgone fun p hp => ?_)
  obtain ⟨gone, heq⟩ := mem_detach hp
  rw [heq]
  exact hgone gone

theorem addsOnly_toDesktop (hm : P m.raw) : AddsOnly P h (h.toDesktop sender m).1 := by
  have hremember (account : AccountId) : AddsOnly P h (h.remember account sender m) :=
    .of_told fun _ => rfl
  have hforget (g : Hub) (account : AccountId) : AddsOnly P g (g.forget account sender m.id) :=
    .of_told fun o => by rw [outbox_forget]
  have hcases := commanding h sender m
  generalize h.toDesktop sender m = out at hcases
  cases hcases with
  | unknown | stranger | offline => exact .refl h
  | passed account d b _ _ _ hb => exact (hremember account).trans (.setOutbox hm hb)
  | busy account => exact (hremember account).trans (hforget _ account)
  | lost account d k _ _ _ _ _ hk =>
    have hclosed : AddsOnly P h k := by
      refine (hremember account).trans (.of_told fun o => ?_)
      obtain rfl | rfl := hk
      · rfl
      · simpa using offered_pushClose (h.remember account sender m) d.outbox o overflowReason none
    exact (hclosed.trans (addsOnly_deregister hgone k d.id)).trans (hforget _ account)

theorem addsOnly_toMobiles (hm : P m.raw) : AddsOnly P h (h.toMobiles sender m).1 := by
  have hcases := answering h sender m
  generalize h.toMobiles sender m = out at hcases
  cases hcases with
  | unknown | stranger => exact .refl h
  | passed account room targets =>
    have hroom : AddsOnly P h (h.setRoom account room) := .of_told fun _ => rfl
    rw [deliver_fst]
    refine hroom.trans (addsOnly_deliverAll hgone fun p hp => ?_)
    obtain ⟨c, -, rfl⟩ := List.mem_map.1 hp
    exact hm

/-- What a frame leads to is told in the frame's own words if it is a message that may be passed
on, and otherwise it is that desktops have left. -/
theorem addsOnly_route (h : Hub) (sender : ConnectionId) (role : Role)
    (hpassed : ∀ m, Message.read text = .ok m →
      m.family.toDesktop = true ∨ m.family.toMobiles = true → P text) :
    AddsOnly P h (h.route sender role text).1 := by
  unfold route
  cases hread : Message.read text with
  | error fault => exact .refl h
  | ok m =>
    have hraw : m.raw = text := Message.raw_of_read hread
    dsimp only
    by_cases hd : role = .mobile ∧ m.family.toDesktop = true
    · rw [pass_toDesktop hd]
      refine addsOnly_toDesktop hgone ?_
      rw [hraw]
      exact hpassed m hread (.inl hd.2)
    · by_cases hm : role = .desktop ∧ m.family.toMobiles = true
      · rw [pass_toMobiles hm]
        refine addsOnly_toMobiles hgone ?_
        rw [hraw]
        exact hpassed m hread (.inr hm.2)
      · unfold pass
        rw [if_neg hd, if_neg hm]
        exact .refl h

end

end Hub

end Switchboard
