import Switchboard.Proofs.Hub.Following

/-! # Leaving once, and hearing nothing afterwards

Four things take a connection out of the hub: another desktop takes its place, its device is
unpaired, it does not keep up, or somebody takes it out from outside.  The first three put a
close into its outbox, unless the connection has ended already, and it is out when they return;
after any of the four the hub has no part of its outbox any more.

* `SendsAway`, `Overflows`, `Dismisses` — the three ways of being dismissed, and the reasons;
* `effectOn_eq_dismissal`, `deregister_of_removal` — what sends a connection away, and what takes it
  out;
* `Follows.close_mem_puts`, `Follows.dismissed`, `Follows.left` — closes and departures in a step;
* `dismissals` — the closes that the hub puts into an outbox in a run;
* `leaves_once` — a connection leaves once, and hears nothing afterwards.
-/

namespace Switchboard

/-- The reason of an item, if it is a close. -/
def Outbox.Item.reason? : Outbox.Item → Option String
  | .text _ => none
  | .close reason => some reason

namespace Hub

variable {h : Hub} {c : Connection} {a : Action} {as : List Action} {reason : String}

/-! ## Being sent away -/

/-- The hub sends a connection away: another desktop takes its place, or its device is
unpaired. -/
inductive SendsAway (h : Hub) (c : Connection) : Action → String → Prop
  | replaced (d : Connection) : h.refusal? d = none → d.principal.isDesktop = true →
      (h.room d.principal.account).desktop = some c →
      SendsAway h c (.register d) replacedReason
  | evicted (account : AccountId) (device : DeviceId) :
      (h.room account).desktop = some c → c.principal.device = some device →
      SendsAway h c (.evict account device) unpairedReason

/-- A connection is to be told something for which there is no room, and such connections are
closed. -/
def Overflows (h : Hub) (c : Connection) (a : Action) : Prop :=
  (∃ text, h.effectOn c a = .text text) ∧ h.config.overflow = .close ∧
    (h.outbox c.outbox).capacity ≤ (h.outbox c.outbox).depth

/-- The hub removes a connection for a reason that it tells the connection. -/
def Dismisses (h : Hub) (c : Connection) (a : Action) (reason : String) : Prop :=
  SendsAway h c a reason ∨ Overflows h c a ∧ reason = overflowReason

theorem SendsAway.effectOn (hs : SendsAway h c a reason) : h.effectOn c a = .dismissal reason := by
  cases hs with
  | replaced d hr hdesk hold =>
    simp [Hub.effectOn, Action.ask?, Action.tell?, arrivalEffect, hr, hdesk, hold]
  | evicted account device hd hdevice =>
    simp [Hub.effectOn, Action.ask?, Action.tell?, evictionEffect, hd, hdevice]

theorem effectOn_eq_dismissal : h.effectOn c a = .dismissal reason ↔ SendsAway h c a reason := by
  refine ⟨fun heffect => ?_, SendsAway.effectOn⟩
  have hcauses := causes_effectOn h c a
  rw [heffect] at hcauses
  cases hcauses with
  | replaced d ha hr hdesk hold =>
    subst ha
    exact .replaced d hr hdesk hold
  | evicted account device ha hd hdevice =>
    subst ha
    exact .evicted account device hd hdevice

theorem deregister_of_removal (heffect : h.effectOn c a = .removal) : a = .deregister c.id := by
  have hcauses := causes_effectOn h c a
  rw [heffect] at hcauses
  cases hcauses
  assumption

/-! ## One action -/

theorem Effect.close_mem_puts {overflow : Overflow} {b : Outbox} {e : Effect} :
    .close reason ∈ e.puts overflow b ↔
      b.live = true ∧ (e = .dismissal reason ∨
        (∃ t, e = .text t) ∧ overflow = .close ∧ b.capacity ≤ b.depth ∧
          reason = overflowReason) := by
  cases e with
  | nothing | removal => simp [Effect.puts]
  | dismissal r =>
    simp only [Effect.puts]
    cases b.live <;> simp [eq_comm]
  | text t =>
    simp only [Effect.puts]
    cases b.live with
    | false => simp
    | true =>
      by_cases hroom : b.depth < b.capacity
      · have hfull : ¬ b.capacity ≤ b.depth := Nat.not_le.2 hroom
        simp [hroom, hfull]
      · have hfull : b.capacity ≤ b.depth := Nat.not_lt.1 hroom
        cases overflow <;> simp [hroom, hfull]

namespace Follows

/-- The hub closes the connection just if it dismisses it. -/
theorem close_mem_puts (hf : Follows c h (a :: as)) :
    .close reason ∈ h.puts a c.outbox ↔
      c.id ∈ h.index ∧ (h.outbox c.outbox).live = true ∧ h.Dismisses c a reason := by
  by_cases hin : c.id ∈ h.index
  · rw [hf.puts_eq_effectOn hin, Effect.close_mem_puts, effectOn_eq_dismissal]
    simp only [hin, true_and, Dismisses, Overflows, and_assoc]
  · simp only [hin, false_and, iff_false]
    obtain hnil | ⟨-, hgreeting⟩ := hf.puts_eq_nil hin
    · simp [hnil]
    · simp [hgreeting]

/-- Whoever is dismissed is out when the action returns. -/
theorem dismissed (hf : Follows c h (a :: as)) (hin : c.id ∈ h.index)
    (hd : h.Dismisses c a reason) : c.id ∉ (h.next a).index := by
  rw [mem_index_next (hf.seated hin) (hf.others hin)]
  obtain haway | ⟨⟨⟨text, heffect⟩, hclose, hfull⟩, -⟩ := hd
  · rw [haway.effectOn]
    exact id
  · rw [heffect]
    rintro ⟨-, hroom | hdrop⟩
    · omega
    · rw [hclose] at hdrop
      cases hdrop

/-- There are no other ways out than being dismissed, being taken out from outside, and having
ended. -/
theorem left (hf : Follows c h (a :: as)) (hin : c.id ∈ h.index)
    (hout : c.id ∉ (h.next a).index) :
    (∃ reason, .close reason ∈ h.puts a c.outbox) ∨ a = .deregister c.id ∨
      (h.outbox c.outbox).live = false := by
  rw [mem_index_next (hf.seated hin) (hf.others hin)] at hout
  cases hlive : (h.outbox c.outbox).live with
  | false => exact .inr (.inr rfl)
  | true =>
    cases heffect : h.effectOn c a with
    | nothing =>
      rw [heffect] at hout
      exact absurd trivial hout
    | removal => exact .inr (.inl (deregister_of_removal heffect))
    | dismissal reason =>
      exact .inl ⟨reason, hf.close_mem_puts.2 ⟨hin, hlive, .inl (effectOn_eq_dismissal.1 heffect)⟩⟩
    | text t =>
      -- the connection does not bear another text, so it has been closed for that
      rw [heffect] at hout
      have hfull : ¬ ((h.outbox c.outbox).depth < (h.outbox c.outbox).capacity ∨
          h.config.overflow = .dropNewest) := fun hbears => hout ⟨hlive, hbears⟩
      rw [not_or, Nat.not_lt] at hfull
      have hclose : h.config.overflow = .close := by
        cases hover : h.config.overflow with
        | close => rfl
        | dropNewest => exact absurd hover hfull.2
      exact .inl
        ⟨_, hf.close_mem_puts.2 ⟨hin, hlive, .inr ⟨⟨⟨t, heffect⟩, hclose, hfull.1⟩, rfl⟩⟩⟩

end Follows

/-! ## A whole run -/

/-- The reasons of the closes that the hub puts into an outbox in a run. -/
def dismissals (o : OutboxId) (h : Hub) : List Action → List String
  | [] => []
  | a :: as => (h.puts a o).filterMap Outbox.Item.reason? ++ dismissals o (h.next a) as

theorem Effect.length_puts (overflow : Overflow) (b : Outbox) (e : Effect) :
    (e.puts overflow b).length ≤ 1 := by
  cases e <;> simp only [Effect.puts] <;> repeat' split
  all_goals simp

namespace Follows

theorem dismissals_gone (hf : Follows c h as) (hout : c.id ∉ h.index)
    (hnew : .register c ∉ as) : dismissals c.outbox h as = [] := by
  induction as generalizing h with
  | nil => rfl
  | cons a as ih =>
    have ha : a ≠ .register c := fun heq => hnew (heq ▸ List.mem_cons_self)
    have hlater := ih hf.next (hf.not_mem_index hout ha) fun hmem =>
      hnew (List.mem_cons_of_mem _ hmem)
    obtain hnil | ⟨heq, -⟩ := hf.puts_eq_nil hout
    · rw [dismissals, hnil, hlater]
      rfl
    · exact absurd heq ha

/-- After a close nothing more comes, since the connection is out and does not come back. -/
theorem length_dismissals (hf : Follows c h as) : (dismissals c.outbox h as).length ≤ 1 := by
  induction as generalizing h with
  | nil => exact Nat.zero_le _
  | cons a as ih =>
    rw [dismissals]
    cases hfirst : (h.puts a c.outbox).filterMap Outbox.Item.reason? with
    | nil => exact ih hf.next
    | cons reason rest =>
      have hmem : reason ∈ (h.puts a c.outbox).filterMap Outbox.Item.reason? := by
        rw [hfirst]
        exact List.mem_cons_self
      obtain ⟨item, hitem, hreason⟩ := List.mem_filterMap.1 hmem
      have hclose : .close reason ∈ h.puts a c.outbox := by
        cases item <;> cases hreason
        exact hitem
      obtain ⟨hin, -, hd⟩ := hf.close_mem_puts.1 hclose
      have hgone : .register c ∉ as := fun hmem =>
        hf.new c.id (mem_arrivals_of_register (List.mem_cons_of_mem _ hmem)) hin
      have hone : (reason :: rest).length ≤ 1 := by
        rw [← hfirst, hf.puts_eq_effectOn hin]
        exact Nat.le_trans (List.length_filterMap_le _ _) (Effect.length_puts _ _ _)
      rw [hf.next.dismissals_gone (hf.dismissed hin hd) hgone, List.append_nil]
      exact hone

end Follows

/-- A connection leaves once and hears nothing afterwards.  Of a run in which names come once
and nobody shares the connection's outbox, this says at every step: the hub only adds to what
is in the outbox; once the connection was registered and is so no longer, nothing is added, it
does not come back, and taking it out again does nothing; it gets a close just when it is
dismissed, with the reason for that, and it is out then; and if it leaves without one, it was
taken out from outside or had ended.  It gets one close at most in the whole run. -/
theorem leaves_once {config : Config} {as : List Action} {c : Connection}
    (hfresh : (arrivals as).Nodup) (hc : c ∈ newcomers as)
    (hown : ∀ c' ∈ newcomers as, c'.outbox = c.outbox → c' = c) :
    (∀ before a after, as = before ++ a :: after →
      let h := ((empty config).run before).1
      let g := h.next a
      (¬ a.Writes c.outbox →
        (g.outbox c.outbox).sent = (h.outbox c.outbox).sent ++ h.puts a c.outbox) ∧
      ((∃ earlier, earlier <+: before ∧ c.id ∈ ((empty config).run earlier).1.index) →
        c.id ∉ h.index →
        h.puts a c.outbox = [] ∧ c.id ∉ g.index ∧ h.deregister c.id = (h, false)) ∧
      (∀ reason, .close reason ∈ h.puts a c.outbox ↔
        c.id ∈ h.index ∧ (h.outbox c.outbox).live = true ∧ h.Dismisses c a reason) ∧
      (∀ reason, .close reason ∈ h.puts a c.outbox → c.id ∉ g.index) ∧
      (c.id ∈ h.index → c.id ∉ g.index →
        (∃ reason, .close reason ∈ h.puts a c.outbox) ∨ a = .deregister c.id ∨
          (h.outbox c.outbox).live = false)) ∧
    (dismissals c.outbox (empty config) as).length ≤ 1 := by
  have hf := follows config hfresh hc hown
  refine ⟨fun before a after has => ?_, hf.length_dismissals⟩
  intro h g
  have hstep : Follows c h (a :: after) := Follows.run (has ▸ hf)
  refine ⟨hstep.sent_eq, ?_, fun _ => hstep.close_mem_puts, fun reason hclose => ?_, hstep.left⟩
  · rintro ⟨earlier, ⟨later, hbefore⟩, hwas⟩ hout
    -- the connection came earlier, so it is not what comes now
    have hcame : c.id ∈ arrivals earlier := by
      by_contra hnot
      simpa [empty] using mem_index_of_run hwas hnot
    have ha : a ≠ .register c := by
      rintro rfl
      rw [has, ← hbefore, List.append_assoc, arrivals_append] at hfresh
      refine (List.nodup_append.1 hfresh).2.2 c.id hcame c.id ?_ rfl
      exact mem_arrivals_of_register (List.mem_append_right _ List.mem_cons_self)
    refine ⟨?_, hstep.not_mem_index hout ha, if_neg hout⟩
    exact (hstep.puts_eq_nil hout).resolve_right fun hcoming => ha hcoming.1
  · obtain ⟨hin, -, hd⟩ := hstep.close_mem_puts.1 hclose
    exact hstep.dismissed hin hd

/-- A desktop is replaced and then taken out once more: it gets one close, and nothing after it
although a mobile is told of the new desktop. -/
theorem leaves_once_replaced :
    let c : Connection := ⟨⟨2⟩, .desktop ⟨10⟩ ⟨20⟩ "old", 1⟩
    let earlier : List Action :=
      [.attach 0 4, .attach 1 4, .attach 2 4, .register ⟨⟨1⟩, .mobile ⟨10⟩, 0⟩, .register c]
    let before := earlier ++ [.register ⟨⟨3⟩, .desktop ⟨10⟩ ⟨21⟩ "new", 2⟩]
    let as := before ++ [.deregister c.id]
    let h := ((empty {}).run before).1
    (arrivals as).Nodup ∧ c ∈ newcomers as ∧
      (∀ c' ∈ newcomers as, c'.outbox = c.outbox → c' = c) ∧
      c.id ∈ ((empty {}).run earlier).1.index ∧ c.id ∉ h.index ∧
      (h.outbox c.outbox).sent
        = [.text (Notice.greeting c.id).render, .close replacedReason] ∧
      h.puts (.deregister c.id) c.outbox = [] ∧ h.deregister c.id = (h, false) ∧
      (dismissals c.outbox (empty {}) as).length ≤ 1 := by
  intro c earlier before as h
  have hfresh : (arrivals as).Nodup := by decide
  have hc : c ∈ newcomers as := by decide
  have hown : ∀ c' ∈ newcomers as, c'.outbox = c.outbox → c' = c := by decide
  have hwas : c.id ∈ ((empty {}).run earlier).1.index := by decide +kernel
  have hgone : c.id ∉ h.index := by decide +kernel
  have hleaves := @leaves_once {} as c hfresh hc hown
  obtain ⟨-, hafter, -⟩ := hleaves.1 before (.deregister c.id) [] rfl
  obtain ⟨hputs, -, hagain⟩ := hafter ⟨earlier, ⟨_, rfl⟩, hwas⟩ hgone
  exact ⟨hfresh, hc, hown, hwas, hgone, by decide +kernel, hputs, hagain, hleaves.2⟩

end Hub

end Switchboard
