import Switchboard.Proofs.Hub.Outstanding
import Switchboard.Proofs.Hub.Texts

/-! # What becomes of whoever is told something

A text for a connection ends in one of four ways: it is put in, it is dropped, or it costs
the connection its place, with a close in its outbox or without one.  Which of them it is, is
settled by the connection's own outbox.

* `Outbox.receive`, `Outbox.Bears` — an outbox that is offered a text, and whether its
  connection keeps its place;
* `deliverTo_fst`, `deliverTo_quiet` — one text;
* `deliverAll_quiet` — a text for each of several mobiles;
* `outbox_deliverAll_unowned` — an outbox that nobody in the hub has is left alone, whatever
  comes up on the way;
* `Own`, `Consistent.member_unique` — the members of a hub, their names and their outboxes.
-/

namespace Switchboard

namespace Outbox

/-- An outbox once it was offered a text. -/
def receive (b : Outbox) (overflow : Overflow) (text : String) : Outbox :=
  match b.pushText text with
  | .ok b' => b'
  | .error .closed => b
  | .error .full => if overflow = .close then b.pushClose Hub.overflowReason else b

/-- Whoever has this outbox keeps its place when it is told something. -/
def Bears (b : Outbox) (overflow : Overflow) : Prop :=
  b.live = true ∧ (b.depth < b.capacity ∨ overflow = .dropNewest)

instance (b : Outbox) (overflow : Overflow) : Decidable (b.Bears overflow) :=
  inferInstanceAs (Decidable (_ ∧ _))

variable {b b' : Outbox} {overflow : Overflow} {text : String}

theorem receive_ok (h : b.pushText text = .ok b') : b.receive overflow text = b' := by
  simp only [receive, h]

theorem receive_closed (h : b.pushText text = .error .closed) :
    b.receive overflow text = b := by
  simp only [receive, h]

theorem bears_of_pushText (h : b.pushText text = .ok b') : b.Bears overflow :=
  ⟨(pushText_eq_ok.1 h).1, .inl (pushText_eq_ok.1 h).2.1⟩

theorem sent_receive (h : b.Takes) :
    (b.receive overflow text).sent = b.sent ++ [.text text] := by
  rw [receive_ok (pushText_eq_ok.2 ⟨h.1, h.2, rfl⟩)]

/-- Whoever does not take a text is told nothing. -/
theorem told_receive (h : ¬ b.Takes) : (b.receive overflow text).told = b.told := by
  cases hpush : b.pushText text with
  | ok b' => exact absurd (takes_of_pushText hpush) h
  | error e =>
    cases e with
    | closed => rw [receive_closed hpush]
    | full => cases overflow <;> simp [receive, hpush]

theorem not_live_of_closed (h : b.pushText text = .error .closed) : b.live = false := by
  unfold pushText at h
  split at h
  · assumption
  · split at h <;> cases h

theorem not_bears_of_closed (h : b.pushText text = .error .closed) : ¬ b.Bears overflow := by
  rintro ⟨hlive, -⟩
  rw [not_live_of_closed h] at hlive
  cases hlive

theorem bears_of_drop (h : b.pushText text = .error .full) : b.Bears .dropNewest :=
  ⟨(pushText_eq_full.1 h).1, .inr rfl⟩

theorem not_bears_of_full (h : b.pushText text = .error .full) : ¬ b.Bears .close := by
  rintro ⟨-, hroom | hdrop⟩
  · have hfull := (pushText_eq_full.1 h).2
    omega
  · cases hdrop

end Outbox

namespace Hub

variable {h k : Hub} {p : Parcel} {ps : List Parcel} {c : Connection} {account : AccountId}

/-! ## One text -/

theorem deliverTo_fst (h : Hub) (p : Parcel) :
    (h.deliverTo p).1 =
      match (h.outbox p.outbox).pushText p.text, h.config.overflow with
      | .ok b, _ => h.setOutbox p.outbox b
      | .error .closed, _ => (h.deregister p.id).1
      | .error .full, .close => ((h.pushClose p.outbox overflowReason).deregister p.id).1
      | .error .full, .dropNewest => h := by
  cases hpush : (h.outbox p.outbox).pushText p.text with
  | ok b => rw [deliverTo_ok hpush]
  | error e =>
    rw [deliverTo_error hpush]
    cases e with
    | closed => simp only [undelivered, deregister_fst]
    | full =>
      cases hover : h.config.overflow with
      | close => simp only [undelivered, hover, deregister_fst]
      | dropNewest => simp only [undelivered, hover, deliverAll]

theorem index_deregister_quiet (hq : h.Quiet p.id) :
    (h.deregister p.id).1.index = h.index.erase p.id := by
  rw [deregister_fst, detach_quiet hq, deliverAll, detach_index]

theorem outbox_deregister_quiet (hq : h.Quiet p.id) (o : OutboxId) :
    (h.deregister p.id).1.outbox o = h.outbox o := by
  rw [deregister_fst, detach_quiet hq, deliverAll, detach_outbox]

/-- Nothing comes up when somebody leaves who is nobody's desktop, so one text does this. -/
theorem deliverTo_quiet (hq : h.Quiet p.id) :
    (h.deliverTo p).1.outbox p.outbox = (h.outbox p.outbox).receive h.config.overflow p.text ∧
      (h.deliverTo p).1.index =
        if (h.outbox p.outbox).Bears h.config.overflow then h.index else h.index.erase p.id := by
  rw [deliverTo_fst]
  cases hpush : (h.outbox p.outbox).pushText p.text with
  | ok b =>
    rw [if_pos (Outbox.bears_of_pushText hpush), Outbox.receive_ok hpush]
    exact ⟨outbox_setOutbox_self h _ b, rfl⟩
  | error e =>
    cases e with
    | closed =>
      rw [if_neg (Outbox.not_bears_of_closed hpush), Outbox.receive_closed hpush]
      exact ⟨outbox_deregister_quiet hq _, index_deregister_quiet hq⟩
    | full =>
      have hlive := (Outbox.pushText_eq_full.1 hpush).1
      cases hover : h.config.overflow with
      | close =>
        have hleaves := Outbox.not_bears_of_full hpush
        have hq' := (pushClose_recedes h p.outbox overflowReason).quiet hq
        simp only [if_neg hleaves, Outbox.receive, hpush, if_true]
        refine ⟨?_, ?_⟩
        · rw [outbox_deregister_quiet hq', pushClose, if_pos hlive, outbox_setOutbox_self]
        · rw [index_deregister_quiet hq', pushClose_index]
      | dropNewest =>
        simp [Outbox.bears_of_drop hpush, Outbox.receive, hpush]

/-! ## Several texts -/

theorem mem_index_deliverAll_ne (hq : ∀ p ∈ ps, h.Quiet p.id) {i : ConnectionId}
    (hi : ∀ p ∈ ps, p.id ≠ i) : i ∈ (h.deliverAll ps).index ↔ i ∈ h.index := by
  induction ps generalizing h with
  | nil => rw [deliverAll]
  | cons p ps ih =>
    obtain ⟨hqp, hq⟩ := List.forall_mem_cons.1 hq
    obtain ⟨hip, hi⟩ := List.forall_mem_cons.1 hi
    have hrec := deliverTo_recedes h p
    rw [← deliver_fst, deliver_cons, deliver_fst, ih (fun p hp => hrec.quiet (hq p hp)) hi,
      (deliverTo_quiet hqp).2]
    split
    · rfl
    · simp [Std.LawfulEqCmp.compare_eq_iff_eq, hip]

/-- Of several mobiles that are told something each fares as its own outbox has it. -/
theorem deliverAll_quiet (hq : ∀ p ∈ ps, h.Quiet p.id) (hp : p ∈ ps)
    (hown : ∀ q ∈ ps, q.outbox = p.outbox ∨ q.id = p.id → q = p) (hnodup : ps.Nodup) :
    (h.deliverAll ps).outbox p.outbox = (h.outbox p.outbox).receive h.config.overflow p.text ∧
      (p.id ∈ (h.deliverAll ps).index ↔
        p.id ∈ h.index ∧ (h.outbox p.outbox).Bears h.config.overflow) := by
  induction ps generalizing h with
  | nil => cases hp
  | cons q ps ih =>
    obtain ⟨hqq, hq⟩ := List.forall_mem_cons.1 hq
    obtain ⟨hfirst, hnodup⟩ := List.nodup_cons.1 hnodup
    have hrec := deliverTo_recedes h q
    have hq' : ∀ p ∈ ps, (h.deliverTo q).1.Quiet p.id := fun p hp => hrec.quiet (hq p hp)
    rw [← deliver_fst, deliver_cons, deliver_fst]
    by_cases heq : q = p
    · subst heq
      -- it is told now, and nobody behind has its name or its outbox
      obtain ⟨houtbox, hindex⟩ := deliverTo_quiet hqq
      have hne : ∀ r ∈ ps, ¬ (r.outbox = q.outbox ∨ r.id = q.id) := by
        intro r hr hsame
        exact hfirst (hown r (List.mem_cons_of_mem _ hr) hsame ▸ hr)
      rw [outbox_deliverAll_ne hq' fun r hr ho => hne r hr (.inl ho),
        mem_index_deliverAll_ne hq' fun r hr hi => hne r hr (.inr hi), houtbox, hindex]
      refine ⟨rfl, ?_⟩
      split <;> simp_all
    · -- it is told later, and the one before it has another name and another outbox
      have hne : ¬ (q.outbox = p.outbox ∨ q.id = p.id) :=
        fun hsame => heq (hown q List.mem_cons_self hsame)
      rw [not_or] at hne
      have hmem : p ∈ ps := (List.mem_cons.1 hp).resolve_left (Ne.symm heq)
      have hkept : p.id ∈ (h.deliverTo q).1.index ↔ p.id ∈ h.index := by
        rw [(deliverTo_quiet hqq).2]
        split
        · rfl
        · simp [Std.LawfulEqCmp.compare_eq_iff_eq, hne.2]
      have hlater := ih hq' hmem (fun r hr => hown r (List.mem_cons_of_mem _ hr)) hnodup
      rw [outbox_deliverTo_ne hqq hne.1, hrec.config, hkept] at hlater
      exact hlater

/-! ## An outbox that nobody has -/

/-- Whoever has to be told that somebody left is in the hub. -/
theorem detach_members {i : ConnectionId} (hp : p ∈ (h.detach i).2) :
    ∃ c, h.Member c ∧ p.outbox = c.outbox := by
  cases hi : h.index[i]? with
  | none =>
    rw [detach_of_not_mem (Table.not_mem_iff_lookup.2 hi)] at hp
    cases hp
  | some account =>
    rw [detach_eq hi] at hp
    unfold farewell at hp
    split at hp
    · obtain ⟨c, hc, rfl⟩ := List.mem_map.1 hp
      obtain ⟨key, hkey⟩ := Table.mem_values.1 hc
      exact ⟨c, ⟨account, .inr ⟨key, hkey⟩⟩, rfl⟩
    · cases hp

theorem undelivered_members {q : Parcel} {e : Outbox.Refusal} (hq : q ∈ (h.undelivered p e).2) :
    ∃ c, h.Member c ∧ q.outbox = c.outbox := by
  unfold undelivered at hq
  split at hq
  · exact detach_members hq
  · obtain ⟨c, hc, ho⟩ := detach_members hq
    exact ⟨c, (pushClose_recedes h _ _).member hc, ho⟩
  · cases hq

/-- Texts for others, and whatever comes up because of them, do not concern an outbox that
nobody in the hub has. -/
theorem outbox_deliverAll_unowned {o : OutboxId} (hno : Peopled (fun _ c => c.outbox ≠ o) h)
    (hps : ∀ p ∈ ps, p.outbox ≠ o) : (h.deliverAll ps).outbox o = h.outbox o := by
  -- along the telling: what comes up is for members of the hub
  fun_induction deliverAll h ps with
  | case1 h => rfl
  | case2 h p ps h' hp ih =>
    obtain ⟨hpo, hps⟩ := List.forall_mem_cons.1 hps
    rw [ih (hno.recedes ((Recedes.keptByDelivery h).hubPush (.refl h) hp)) hps]
    obtain ⟨b, -, rfl⟩ := push_eq_ok.1 hp
    rw [outbox_setOutbox_ne h b hpo]
  | case3 h p ps e hp h' more hu ih =>
    obtain ⟨hpo, hps⟩ := List.forall_mem_cons.1 hps
    have hh' : (h.undelivered p e).1 = h' := congrArg Prod.fst hu
    have hmore : (h.undelivered p e).2 = more := congrArg Prod.snd hu
    have hrec : h.Recedes h' :=
      hh' ▸ (Recedes.keptByDelivery h).undelivered p e (.refl h)
    rw [ih (hno.recedes hrec) ?_, ← hh', outbox_undelivered_ne h p e hpo]
    intro q hq
    obtain hq | hlater := List.mem_append.1 hq
    · obtain ⟨c, hc, hqc⟩ := undelivered_members (hmore ▸ hq)
      obtain ⟨-, hco⟩ := hno.member hc
      rwa [hqc]
    · exact hps q hlater

/-! ## Members -/

/-- Nobody else in the hub has a connection's outbox. -/
def Own (h : Hub) (c : Connection) : Prop := Peopled (fun _ c' => c'.outbox = c.outbox → c' = c) h

theorem Own.eq (ho : h.Own c) {c' : Connection} (hc' : h.Member c') (heq : c'.outbox = c.outbox) :
    c' = c := by
  obtain ⟨-, hown⟩ := ho.member hc'
  exact hown heq

theorem Consistent.member_desktop (hc : h.Consistent) (hm : h.Member c)
    (hrole : c.principal.role = .desktop) : (h.room c.principal.account).desktop = some c := by
  obtain ⟨account, hd | ⟨key, hk⟩⟩ := hm
  · obtain ⟨rfl, -⟩ := (hc.wellFormed account).desktop c hd
    exact hd
  · obtain ⟨-, -, hmobile⟩ := (hc.wellFormed account).mobile key c hk
    rw [hrole] at hmobile
    cases hmobile

theorem Consistent.member_mobile (hc : h.Consistent) (hm : h.Member c)
    (hrole : c.principal.role = .mobile) :
    (h.room c.principal.account).mobiles[c.id]? = some c := by
  obtain ⟨account, hd | ⟨key, hk⟩⟩ := hm
  · obtain ⟨-, hdesktop⟩ := (hc.wellFormed account).desktop c hd
    rw [hrole] at hdesktop
    cases hdesktop
  · obtain ⟨rfl, rfl, -⟩ := (hc.wellFormed account).mobile key c hk
    exact hk

theorem Consistent.index_member (hc : h.Consistent) (hm : h.Member c) :
    h.index[c.id]? = some c.principal.account := by
  cases hrole : c.principal.role with
  | desktop => exact hc.index_desktop (hc.member_desktop hm hrole)
  | mobile => exact hc.index_mobile (Table.mem_of_lookup (hc.member_mobile hm hrole))

theorem Consistent.member_unique (hc : h.Consistent) {c' : Connection} (hm : h.Member c)
    (hm' : h.Member c') (hid : c.id = c'.id) : c = c' := by
  have haccount := hc.index_member hm
  rw [hid, hc.index_member hm', Option.some.injEq] at haccount
  cases hrole : c.principal.role with
  | desktop =>
    have hdesktop := hc.member_desktop hm hrole
    cases hrole' : c'.principal.role with
    | desktop =>
      have hdesktop' := hc.member_desktop hm' hrole'
      rw [haccount, hdesktop] at hdesktop'
      exact Option.some.inj hdesktop'
    | mobile =>
      have hmobile' := hc.member_mobile hm' hrole'
      rw [haccount, ← hid] at hmobile'
      exact absurd (Table.mem_of_lookup hmobile') ((hc.wellFormed _).apart c hdesktop)
  | mobile =>
    have hmobile := hc.member_mobile hm hrole
    cases hrole' : c'.principal.role with
    | desktop =>
      have hdesktop' := hc.member_desktop hm' hrole'
      rw [← haccount, hid] at hmobile
      exact absurd (Table.mem_of_lookup hmobile) ((hc.wellFormed _).apart c' hdesktop')
    | mobile =>
      have hmobile' := hc.member_mobile hm' hrole'
      rw [haccount, ← hid, hmobile] at hmobile'
      exact Option.some.inj hmobile'

theorem Consistent.nodup_values (hc : h.Consistent) (account : AccountId) :
    (h.room account).mobiles.values.Nodup :=
  Table.nodup_values fun k m hm => ((hc.wellFormed account).mobile k m hm).1

theorem Consistent.nodup_answer (hc : h.Consistent) (account : AccountId) (m : Message) :
    ((h.room account).answer h.config.routing m).2.Nodup := by
  obtain hall | ⟨id, origin, t, -, -, hone, -⟩ :=
    (h.room account).answer_targets h.config.routing m
  · rw [hall]
    exact hc.nodup_values account
  · rw [hone]
    exact List.nodup_singleton t

end Hub

end Switchboard
