import Switchboard.Proofs.Hub.Effect
import Switchboard.Proofs.Hub.Offers

/-! # What becomes of a connection

An action has the effect `effectOn` on a registered connection with an outbox of its own:
`hasEffect_next` says that the outbox of the connection and its place in the index are afterwards
what that effect makes of them, whatever else the action does to others.

* `Seated` — a registered connection in a hub in good order;
* `HasEffect` — between two hubs, an effect was had on a connection;
* `hasEffect_tell`, `hasEffect_gone` — all mobiles of a room are told the same;
* `hasEffect_deregister`, `hasEffect_evict`, `hasEffect_register`, `hasEffect_toDesktop`,
  `hasEffect_toMobiles` — each call;
* `hasEffect_next`, `mem_index_next` — every action.
-/

namespace Switchboard.Hub

variable {h g k : Hub} {c d : Connection} {account : AccountId} {e : Effect}

/-! ## Registered connections -/

/-- A connection that is in a hub in which rooms and index agree, with an outbox of its own. -/
structure Seated (h : Hub) (c : Connection) : Prop where
  consistent : h.Consistent
  member : h.Member c
  own : h.Own c

theorem Consistent.exists_member (hc : h.Consistent) {i : ConnectionId} (hi : i ∈ h.index) :
    ∃ c, h.Member c ∧ c.id = i := by
  obtain ⟨account, hi⟩ := Table.mem_iff_lookup.1 hi
  obtain hd | hm := (hc.index_iff i account).1 hi
  · obtain ⟨d, hd, hid⟩ := Room.isDesktop_iff.1 hd
    exact ⟨d, ⟨account, .inl hd⟩, hid⟩
  · obtain ⟨m, hm⟩ := Table.mem_iff_lookup.1 hm
    exact ⟨m, ⟨account, .inr ⟨i, hm⟩⟩, ((hc.wellFormed account).mobile i m hm).1⟩

theorem Gains.member {new : ConnectionId → Prop}
    {asked : AccountId → String → ConnectionId → Prop} (hg : Gains new asked h g)
    (hc : g.Consistent) (hmember : g.Member c) (hnew : ¬ new c.id) : h.Member c := by
  obtain ⟨account, hd | ⟨key, hm⟩⟩ := hmember
  · exact ⟨account, .inl ((hg.desktop account c hd).resolve_right hnew)⟩
  · obtain ⟨rfl, -⟩ := (hc.wellFormed account).mobile key c hm
    exact ⟨account, .inr ⟨_, (hg.mobile account c.id c hm).resolve_right hnew⟩⟩

namespace Seated

theorem lookup (hh : h.Seated c) : h.index[c.id]? = some c.principal.account :=
  hh.consistent.index_member hh.member

theorem mem_index (hh : h.Seated c) : c.id ∈ h.index := Table.mem_of_lookup hh.lookup

theorem desktop_iff (hh : h.Seated c) (account : AccountId) :
    (h.room account).desktop = some c ↔
      c.principal.account = account ∧ c.principal.role = .desktop := by
  constructor
  · intro hd
    obtain ⟨haccount, hrole⟩ := (hh.consistent.wellFormed account).desktop c hd
    exact ⟨haccount, hrole⟩
  · rintro ⟨rfl, hrole⟩
    exact hh.consistent.member_desktop hh.member hrole

theorem mobile_iff (hh : h.Seated c) (account : AccountId) :
    c ∈ (h.room account).mobiles.values ↔
      c.principal.account = account ∧ c.principal.role = .mobile := by
  constructor
  · intro hm
    obtain ⟨key, hm⟩ := Table.mem_values.1 hm
    obtain ⟨-, haccount, hrole⟩ := (hh.consistent.wellFormed account).mobile key c hm
    exact ⟨haccount, hrole⟩
  · rintro ⟨rfl, hrole⟩
    exact Table.mem_values.2 ⟨c.id, hh.consistent.member_mobile hh.member hrole⟩

/-- A desktop's outbox is not that of anybody else who is registered. -/
theorem outbox_ne (hh : h.Seated c) (hd : h.Member d) (hne : d ≠ c) : d.outbox ≠ c.outbox :=
  fun ho => hne (hh.own.eq hd ho)

variable {new : ConnectionId → Prop} {asked : AccountId → String → ConnectionId → Prop}

/-- Whoever is still in the index is still registered. -/
theorem stays (hh : h.Seated c) (hg : Gains new asked h g) (hnew : ¬ new c.id) (hown : g.Own c)
    (hc : g.Consistent) (hin : c.id ∈ g.index) : g.Seated c where
  consistent := hc
  member := by
    obtain ⟨c', hmember, hid⟩ := hc.exists_member hin
    have hbefore := hg.member hc hmember (hid ▸ hnew)
    rwa [hh.consistent.member_unique hh.member hbefore hid.symm]
  own := hown

theorem gains (hh : h.Seated c) (hg : Gains (fun _ => False) asked h g) (hc : g.Consistent)
    (hin : c.id ∈ g.index) : g.Seated c :=
  hh.stays hg id (hh.own.gains hg) hc hin

theorem recedes (hh : h.Seated c) (hr : h.Recedes g) (hc : g.Consistent)
    (hin : c.id ∈ g.index) : g.Seated c := by
  have hg : Gains (fun _ => False) (fun _ _ _ => False) h g := hr.gains
  exact hh.gains hg hc hin

end Seated

/-- An outbox whose owner has left is nobody's. -/
theorem Own.unowned (ho : h.Own c) (hc : h.Consistent) (hgone : c.id ∉ h.index) :
    Peopled (fun _ c' => c'.outbox ≠ c.outbox) h := by
  constructor
  · intro account d hd heq
    rw [ho.eq ⟨account, .inl hd⟩ heq] at hd
    exact hgone (Table.mem_of_lookup (hc.index_desktop hd))
  · intro account key m hm heq
    have hmember : h.Member m := ⟨account, .inr ⟨key, hm⟩⟩
    obtain rfl := ho.eq hmember heq
    exact hgone (Table.mem_of_lookup (hc.index_member hmember))

/-! ## What becomes of a connection -/

/-- The outbox of `c` and its place in the index are in `g` what the effect `e` makes of those in
`h`. -/
structure HasEffect (h : Hub) (c : Connection) (e : Effect) (g : Hub) : Prop where
  outbox : g.outbox c.outbox = e.outbox h.config.overflow (h.outbox c.outbox)
  index : c.id ∈ g.index ↔ e.Stays h.config.overflow (h.outbox c.outbox)

theorem hasEffect_nothing (ho : g.outbox c.outbox = h.outbox c.outbox) (hin : c.id ∈ g.index) :
    HasEffect h c .nothing g :=
  ⟨ho, iff_of_true hin trivial⟩

theorem Seated.idle (hh : h.Seated c) : HasEffect h c .nothing h :=
  hasEffect_nothing rfl hh.mem_index

/-- What was done before does not concern the connection. -/
theorem HasEffect.after (hf : HasEffect k c e g) (hconf : k.config = h.config)
    (ho : k.outbox c.outbox = h.outbox c.outbox) : HasEffect h c e g := by
  obtain ⟨houtbox, hindex⟩ := hf
  rw [hconf, ho] at houtbox hindex
  exact ⟨houtbox, hindex⟩

/-! ## Telling mobiles -/

/-- Some mobiles of a room are told the same. -/
theorem hasEffect_parcels (hh : h.Seated c) {targets : List Connection}
    (ht : ∀ t ∈ targets, ∃ key : ConnectionId, (h.room account).mobiles[key]? = some t)
    (hnodup : targets.Nodup) (text : String) :
    HasEffect h c (if c ∈ targets then .text text else .nothing)
      (h.deliverAll (parcels targets text)) := by
  have hq := hh.consistent.quiet_parcels ht text
  have hmember : ∀ t ∈ targets, h.Member t := fun t htm => ⟨account, .inr (ht t htm)⟩
  split
  · rename_i hc
    have hnodup' : (parcels targets text).Nodup := by
      refine hnodup.map_on fun t htm t' htm' heq => ?_
      exact hh.consistent.member_unique (hmember t htm) (hmember t' htm') (congrArg Parcel.id heq)
    -- whoever shares its name or its outbox is the connection itself
    have hown : ∀ p ∈ parcels targets text,
        p.outbox = c.outbox ∨ p.id = c.id → p = ⟨c.id, c.outbox, text⟩ := by
      intro p hp hsame
      obtain ⟨t, htm, rfl⟩ := List.mem_map.1 hp
      have heq : t = c := by
        obtain ho | hid := hsame
        · exact hh.own.eq (hmember t htm) ho
        · exact hh.consistent.member_unique (hmember t htm) hh.member hid
      rw [heq]
    obtain ⟨houtbox, hindex⟩ :=
      deliverAll_quiet hq (List.mem_map.2 ⟨c, hc, rfl⟩) hown hnodup'
    exact ⟨houtbox, hindex.trans (and_iff_right hh.mem_index)⟩
  · rename_i hc
    have hne : ∀ p ∈ parcels targets text, p.outbox ≠ c.outbox ∧ p.id ≠ c.id := by
      intro p hp
      obtain ⟨t, htm, rfl⟩ := List.mem_map.1 hp
      have hneq : t ≠ c := fun heq => hc (heq ▸ htm)
      exact ⟨hh.outbox_ne (hmember t htm) hneq,
        fun hid => hneq (hh.consistent.member_unique (hmember t htm) hh.member hid)⟩
    exact hasEffect_nothing (outbox_deliverAll_ne hq fun p hp => (hne p hp).1)
      ((mem_index_deliverAll_ne hq fun p hp => (hne p hp).2).2 hh.mem_index)

/-- All mobiles of a room are told the same. -/
theorem hasEffect_tell (hh : h.Seated c) (account : AccountId) (text : String) :
    HasEffect h c (toldEffect c account text) (h.tell account text) := by
  have hf := hasEffect_parcels hh lookup_of_mem_values (hh.consistent.nodup_values account) text
  simp only [hh.mobile_iff] at hf
  exact hf

theorem outbox_tell_unowned {o : OutboxId} (hno : Peopled (fun _ c => c.outbox ≠ o) h)
    (account : AccountId) (text : String) : (h.tell account text).outbox o = h.outbox o := by
  refine outbox_deliverAll_unowned hno fun p hp => ?_
  obtain ⟨t, ht, rfl⟩ := List.mem_map.1 hp
  obtain ⟨key, hkey⟩ := Table.mem_values.1 ht
  exact hno.mobile account key t hkey

theorem tell_recedes (h : Hub) (account : AccountId) (text : String) :
    h.Recedes (h.tell account text) :=
  deliverAll_recedes h _

/-- The mobiles are told after the connection has left. -/
theorem hasEffect_gone (hown : h.Own c) (hc : h.Consistent) (hgone : c.id ∉ h.index)
    (account : AccountId) (text : String) : HasEffect h c .removal (h.tell account text) where
  outbox := outbox_tell_unowned (hown.unowned hc hgone) account text
  index := iff_of_false ((tell_recedes h account text).not_mem hgone) id

/-- A connection that was taken out has had an effect that costs it its place. -/
theorem HasEffect.leaves (hf : HasEffect k c .removal g)
    (ho : k.outbox c.outbox = e.outbox h.config.overflow (h.outbox c.outbox))
    (he : ¬ e.Stays h.config.overflow (h.outbox c.outbox)) : HasEffect h c e g :=
  ⟨hf.outbox.trans ho, iff_of_false hf.index.1 he⟩

/-! ## Closing -/

theorem outbox_pushClose (h : Hub) (o o' : OutboxId) (reason : String) :
    (h.pushClose o reason).outbox o' =
      if o = o' then (h.outbox o).pushClose reason else h.outbox o' := by
  unfold pushClose Outbox.pushClose
  split
  · rw [outbox_setOutbox]
  · split
    · rename_i ho
      rw [ho]
    · rfl

theorem outbox_pushClose_self (h : Hub) (o : OutboxId) (reason : String) :
    (h.pushClose o reason).outbox o = (h.outbox o).pushClose reason := by
  rw [outbox_pushClose, if_pos rfl]

/-! ## Leaving -/

theorem mem_erase {t : Table ConnectionId AccountId} {i j : ConnectionId} :
    j ∈ t.erase i ↔ i ≠ j ∧ j ∈ t := by
  rw [Std.ExtTreeMap.mem_erase, ne_eq, Std.LawfulEqCmp.compare_eq_iff_eq]

theorem exists_desktop_of_not_quiet {i : ConnectionId} (hq : ¬ h.Quiet i) :
    ∃ account d, (h.room account).desktop = some d ∧ d.id = i := by
  obtain ⟨account, hdesk⟩ : ∃ account, (h.room account).isDesktop i = true := by
    simpa [Quiet] using hq
  exact ⟨account, Room.isDesktop_iff.1 hdesk⟩

/-- A desktop leaves, and then its mobiles are told. -/
theorem deregister_desktop (hc : h.Consistent) (hd : (h.room account).desktop = some d) :
    (h.deregister d.id).1
      = (h.detach d.id).1.tell account (presence false d.principal).render := by
  rw [deregister_fst, (detach_desktop (hc.index_desktop hd) hd).1]
  rfl

theorem departureEffect_desktop (hh : h.Seated c) (hd : (h.room account).desktop = some d)
    (hne : d ≠ c) :
    h.departureEffect c d.id = toldEffect c account (presence false d.principal).render := by
  have hid : c.id ≠ d.id := fun hid =>
    hne (hh.consistent.member_unique ⟨account, .inl hd⟩ hh.member hid.symm)
  simp [departureEffect, hid, hh.consistent.index_desktop hd, hd]

theorem departureEffect_quiet {i : ConnectionId} (hq : h.Quiet i) (hne : c.id ≠ i) :
    h.departureEffect c i = .nothing := by
  unfold departureEffect
  rw [if_neg hne]
  cases h.index[i]? with
  | none => rfl
  | some account =>
    dsimp only
    cases hd : (h.room account).desktop with
    | none => rfl
    | some d =>
      have hother : d.id ≠ i := by
        intro hid
        have hdesk : (h.room account).isDesktop i = true := Room.isDesktop_iff.2 ⟨d, hd, hid⟩
        rw [hq account] at hdesk
        cases hdesk
      dsimp only
      rw [if_neg hother]

theorem hasEffect_deregister (hh : h.Seated c) (i : ConnectionId) :
    HasEffect h c (h.departureEffect c i) (h.deregister i).1 := by
  have hc' := hh.consistent.detach i
  by_cases hid : c.id = i
  · subst hid
    have hgone := not_mem_detach h c.id
    have heffect : h.departureEffect c c.id = .removal := if_pos rfl
    rw [heffect]
    by_cases hq : h.Quiet c.id
    · rw [deregister_fst, detach_quiet hq, deliverAll]
      exact ⟨detach_outbox h c.id c.outbox, iff_of_false hgone id⟩
    · obtain ⟨account, d, hd, hdc⟩ := exists_desktop_of_not_quiet hq
      obtain rfl := hh.consistent.member_unique ⟨account, .inl hd⟩ hh.member hdc
      have hgone := hasEffect_gone (hh.own.recedes (.detach h d.id)) hc' hgone account
        (presence false d.principal).render
      rw [deregister_desktop hh.consistent hd]
      exact hgone.leaves (detach_outbox h _ _) id
  · have hin : c.id ∈ (h.detach i).1.index := by
      rw [detach_index, mem_erase]
      exact ⟨Ne.symm hid, hh.mem_index⟩
    by_cases hq : h.Quiet i
    · rw [departureEffect_quiet hq hid, deregister_fst, detach_quiet hq, deliverAll]
      exact hasEffect_nothing (detach_outbox h i c.outbox) hin
    · obtain ⟨account, d, hd, rfl⟩ := exists_desktop_of_not_quiet hq
      have hne : d ≠ c := fun heq => hid (heq ▸ rfl)
      rw [departureEffect_desktop hh hd hne, deregister_desktop hh.consistent hd]
      exact (hasEffect_tell (hh.recedes (.detach h d.id) hc' hin) account _).after
        (detach_config h _)
        (detach_outbox h _ _)

/-! ## Being sent away -/

theorem expel_index (h : Hub) (account : AccountId) (d : Connection) :
    (h.expel account d).index = h.index.erase d.id :=
  pushClose_index _ _ _

theorem outbox_expel (h : Hub) (account : AccountId) (d : Connection) (o : OutboxId) :
    (h.expel account d).outbox o =
      if d.outbox = o then (h.outbox o).pushClose unpairedReason else h.outbox o := by
  refine (outbox_pushClose _ d.outbox o unpairedReason).trans ?_
  split
  · rename_i ho
    subst ho
    rfl
  · rfl

theorem hasEffect_evict (hh : h.Seated c) (account : AccountId) (device : DeviceId) :
    HasEffect h c (h.evictionEffect c account device) (h.evict account device).1 := by
  have hcases := evicting h account device
  generalize h.evict account device = out at hcases
  cases hcases with
  | absent hnobody =>
    have heffect : h.evictionEffect c account device = .nothing := by
      unfold evictionEffect
      split
      · rename_i d hd
        exact if_neg (hnobody d hd)
      · rfl
    rw [heffect]
    exact hh.idle
  | evicted d hd hdevice =>
    have hc' := hh.consistent.expel hd
    have hg : Gains (fun _ => False) (fun _ _ _ => False) h (h.expel account d) :=
      gains_expel h account d
    have heffect : h.evictionEffect c account device = if d = c then .dismissal unpairedReason
        else toldEffect c account (presence false d.principal).render := by
      simp [evictionEffect, hd, hdevice]
    rw [heffect, announce_fst]
    by_cases hdc : d = c
    · subst hdc
      have hgone : d.id ∉ (h.expel account d).index := by simp [expel_index]
      rw [if_pos rfl]
      refine (hasEffect_gone (hh.own.gains hg) hc' hgone _ _).leaves ?_ id
      rw [outbox_expel, if_pos rfl]
      rfl
    · -- `c` keeps its place and its outbox, and is told like every mobile of the account
      rw [if_neg hdc]
      have hmember : h.Member d := ⟨account, .inl hd⟩
      have hin : c.id ∈ (h.expel account d).index := by
        rw [expel_index, mem_erase]
        exact ⟨fun hid => hdc (hh.consistent.member_unique hmember hh.member hid), hh.mem_index⟩
      refine (hasEffect_tell (hh.gains hg hc' hin) account _).after hg.config ?_
      rw [outbox_expel, if_neg (hh.outbox_ne hmember hdc)]

/-! ## Coming -/

/-- Whoever is replaced leaves the index, after the newcomer has entered it. -/
theorem letIn_index (h : Hub) (d : Connection) :
    (h.letIn d).index =
      match (h.room d.principal.account).desktop with
      | some old =>
        if d.principal.isDesktop then (h.index.insert d.id d.principal.account).erase old.id
        else h.index.insert d.id d.principal.account
      | none => h.index.insert d.id d.principal.account := by
  have henter : ((h.greet d).enter d).index = h.index.insert d.id d.principal.account := by
    simp [enter, setRoom]
  simp only [letIn]
  cases d.principal.isDesktop with
  | false => cases (h.room d.principal.account).desktop <;> exact henter
  | true =>
    cases (h.room d.principal.account).desktop with
    | none => exact henter
    | some old =>
      rw [← henter]
      exact pushClose_index _ _ _

/-- Apart from the greeting, only the outbox of whoever is replaced is changed. -/
theorem outbox_letIn (h : Hub) (d : Connection) (o : OutboxId) :
    (h.letIn d).outbox o =
      match (h.room d.principal.account).desktop with
      | some old =>
        if d.principal.isDesktop ∧ old.outbox = o
        then ((h.greet d).outbox o).pushClose replacedReason
        else (h.greet d).outbox o
      | none => (h.greet d).outbox o := by
  simp only [letIn]
  cases d.principal.isDesktop with
  | false => cases (h.room d.principal.account).desktop <;> simp <;> rfl
  | true =>
    cases (h.room d.principal.account).desktop with
    | none => rfl
    | some old =>
      refine (outbox_pushClose _ old.outbox o replacedReason).trans ?_
      split
      · rename_i hold
        subst hold
        simp only [true_and, if_true]
        rfl
      · rename_i hold
        simp only [true_and, hold, if_false]
        rfl

theorem Own.letIn (ho : h.Own c) (hne : d.outbox ≠ c.outbox) : (h.letIn d).Own c :=
  Peopled.letIn ho fun heq => absurd heq hne

/-- Whoever is not replaced keeps its place and its outbox when somebody is let in. -/
theorem Seated.letIn (hh : h.Seated c) (hr : h.refusal? d = none) (hnew : d.id ∉ h.index)
    (hne : d.outbox ≠ c.outbox)
    (hstays : d.principal.isDesktop → (h.room d.principal.account).desktop ≠ some c) :
    (h.letIn d).Seated c ∧ (h.letIn d).outbox c.outbox = h.outbox c.outbox := by
  have hid : d.id ≠ c.id := fun hid => hnew (hid ▸ hh.mem_index)
  have hinsert : c.id ∈ h.index.insert d.id d.principal.account := by
    simp [hh.mem_index]
  -- if somebody is replaced, it is neither `c` nor anybody who shares its outbox
  have hother : ∀ old, (h.room d.principal.account).desktop = some old →
      d.principal.isDesktop → old.id ≠ c.id ∧ old.outbox ≠ c.outbox := by
    intro old hold hdesk
    have hmember : h.Member old := ⟨_, .inl hold⟩
    have hneq : old ≠ c := fun heq => hstays hdesk (heq ▸ hold)
    exact ⟨fun hid => hneq (hh.consistent.member_unique hmember hh.member hid),
      hh.outbox_ne hmember hneq⟩
  have hg : Gains (d.id = ·) (fun _ _ _ => False) h (h.letIn d) := gains_letIn h d
  refine ⟨hh.stays hg hid (hh.own.letIn hne) (hh.consistent.letIn hr hnew) ?_, ?_⟩
  · rw [letIn_index]
    split
    · rename_i old hold
      split
      · rename_i hdesk
        rw [mem_erase]
        exact ⟨(hother old hold hdesk).1, hinsert⟩
      · exact hinsert
    · exact hinsert
  · rw [outbox_letIn, outbox_greet_ne h hne]
    split
    · rename_i old hold
      split
      · rename_i hdesk
        exact absurd hdesk.2 (hother old hold hdesk.1).2
      · rfl
    · rfl

theorem hasEffect_register (hh : h.Seated c) (hnew : d.id ∉ h.index) (hne : d.outbox ≠ c.outbox) :
    HasEffect h c (h.arrivalEffect c d) (h.register d).1 := by
  have hcases := registering h d
  generalize h.register d = out at hcases
  cases hcases with
  | refused e hr =>
    have heffect : h.arrivalEffect c d = .nothing := by simp [arrivalEffect, hr]
    rw [heffect]
    exact hh.idle
  | mobile hr hdesk =>
    have heffect : h.arrivalEffect c d = .nothing := by simp [arrivalEffect, hdesk]
    obtain ⟨hseat, ho⟩ := hh.letIn hr hnew hne fun hd => by simp [hdesk] at hd
    rw [heffect]
    exact hasEffect_nothing ho hseat.mem_index
  | desktop hr hdesk =>
    rw [announce_fst]
    by_cases hold : (h.room d.principal.account).desktop = some c
    · have heffect : h.arrivalEffect c d = .dismissal replacedReason := by
        simp [arrivalEffect, hr, hdesk, hold]
      have hgone : c.id ∉ (h.letIn d).index := by simp [letIn_index, hold, hdesk]
      rw [heffect]
      refine (hasEffect_gone (hh.own.letIn hne) (hh.consistent.letIn hr hnew) hgone _ _).leaves
        ?_ id
      simp [outbox_letIn, outbox_greet_ne h hne, hold, hdesk, Effect.outbox]
    · have heffect : h.arrivalEffect c d
          = toldEffect c d.principal.account (presence true d.principal).render := by
        simp [arrivalEffect, hr, hdesk, hold]
      obtain ⟨hseat, ho⟩ := hh.letIn hr hnew hne fun _ => hold
      rw [heffect]
      exact (hasEffect_tell hseat _ _).after (letIn_config h d) ho

/-! ## Passing on -/

/-- A desktop leaves: without a word if it is the connection itself. -/
theorem hasEffect_leave (hh : h.Seated c) (hd : (h.room account).desktop = some d) :
    HasEffect h c
      (if d = c then .removal else toldEffect c account (presence false d.principal).render)
      (h.deregister d.id).1 := by
  have hf := hasEffect_deregister hh d.id
  split
  · rename_i hdc
    subst hdc
    have heffect : h.departureEffect d d.id = .removal := if_pos rfl
    rwa [heffect] at hf
  · rename_i hne
    rwa [departureEffect_desktop hh hd hne] at hf

theorem Seated.pushClose (hh : h.Seated c) (o : OutboxId) (reason : String) :
    (h.pushClose o reason).Seated c :=
  hh.recedes (pushClose_recedes h o reason)
    (Consistent.keptByDelivery.hubPushClose o reason hh.consistent)
    (by rw [pushClose_index]; exact hh.mem_index)

/-- A text for the desktop of an account. -/
theorem hasEffect_deliverTo (hh : h.Seated c) (hd : (h.room account).desktop = some d)
    (text : String) :
    HasEffect h c (h.desktopEffect c d account text) (h.deliverTo ⟨d.id, d.outbox, text⟩).1 := by
  have hmember : h.Member d := ⟨account, .inl hd⟩
  -- a close put into an outbox leaves the desktop where it is
  have hd' : ((h.pushClose d.outbox overflowReason).room account).desktop = some d := by
    rw [pushClose_room, hd]
  have hleave := hasEffect_leave (hh.pushClose d.outbox overflowReason) hd'
  rw [deliverTo_fst]
  -- each case twice: `c` is the desktop itself, or it hears of the desktop's end, if anything
  cases hpush : (h.outbox d.outbox).pushText text with
  | ok b =>
    have hbears : (h.outbox d.outbox).Bears h.config.overflow := Outbox.bears_of_pushText hpush
    dsimp only
    by_cases hdc : d = c
    · subst hdc
      simp only [desktopEffect, if_true]
      refine ⟨?_, iff_of_true hh.mem_index hbears⟩
      rw [outbox_setOutbox_self]
      exact (Outbox.receive_ok hpush).symm
    · simp only [desktopEffect, if_neg hdc, if_pos hbears]
      exact hasEffect_nothing (outbox_setOutbox_ne h b (hh.outbox_ne hmember hdc)) hh.mem_index
  | error e =>
    cases e with
    | closed =>
      have hleaves : ¬ (h.outbox d.outbox).Bears h.config.overflow :=
        Outbox.not_bears_of_closed hpush
      have hf := hasEffect_leave hh hd
      dsimp only
      by_cases hdc : d = c
      · subst hdc
        simp only [if_true] at hf
        simp only [desktopEffect, if_true]
        exact hf.leaves (Outbox.receive_closed hpush).symm hleaves
      · simp only [if_neg hdc] at hf
        simpa only [desktopEffect, if_neg hdc, if_neg hleaves] using hf
    | full =>
      cases hover : h.config.overflow with
      | dropNewest =>
        have hbears := Outbox.bears_of_drop hpush
        dsimp only
        by_cases hdc : d = c
        · subst hdc
          simp only [desktopEffect, if_true]
          refine ⟨?_, iff_of_true hh.mem_index (hover ▸ hbears)⟩
          simp [Effect.outbox, Outbox.receive, hpush, hover]
        · simp only [desktopEffect, if_neg hdc, hover, if_pos hbears]
          exact hh.idle
      | close =>
        have hleaves := Outbox.not_bears_of_full hpush
        dsimp only
        by_cases hdc : d = c
        · subst hdc
          simp only [if_true] at hleave
          simp only [desktopEffect, if_true]
          refine hleave.leaves ?_ (hover ▸ hleaves)
          rw [outbox_pushClose_self]
          simp [Effect.outbox, Outbox.receive, hpush, hover]
        · simp only [if_neg hdc] at hleave
          simp only [desktopEffect, if_neg hdc, hover, if_neg hleaves]
          exact hleave.after (pushClose_config _ _ _)
            (outbox_pushClose_ne h _ (hh.outbox_ne hmember hdc))

/-- What is remembered and forgotten of a command concerns no outbox, and nobody's place. -/
theorem toDesktop_delivers {sender : ConnectionId} {m : Message}
    (hi : h.index[sender]? = some account) (hm : sender ∈ (h.room account).mobiles)
    (hd : (h.room account).desktop = some d)
    (hg : ((h.remember account sender m).deliverTo ⟨d.id, d.outbox, m.raw⟩).1 = g) :
    (∀ o, (h.toDesktop sender m).1.outbox o = g.outbox o) ∧
      (h.toDesktop sender m).1.index = g.index := by
  rw [toDesktop_eq hi hm hd]
  revert hg
  generalize (h.remember account sender m).deliverTo ⟨d.id, d.outbox, m.raw⟩ = out
  rintro rfl
  obtain ⟨g, ok | e⟩ := out <;> simp

theorem hasEffect_toDesktop (hh : h.Seated c) (sender : ConnectionId) (m : Message) :
    HasEffect h c (h.commandEffect c sender m) (h.toDesktop sender m).1 := by
  -- unless there is a desktop that the sender may speak to, nothing is done
  have hidle (heffect : h.commandEffect c sender m = .nothing)
      (hsame : (h.toDesktop sender m).1 = h) :
      HasEffect h c (h.commandEffect c sender m) (h.toDesktop sender m).1 := by
    rw [heffect, hsame]
    exact hh.idle
  cases hi : h.index[sender]? with
  | none => exact hidle (by simp [commandEffect, hi]) (by simp [toDesktop, hi])
  | some account =>
    by_cases hm : sender ∈ (h.room account).mobiles
    · cases hd : (h.room account).desktop with
      | none => exact hidle (by simp [commandEffect, hi, hd]) (by simp [toDesktop, hi, hm, hd])
      | some d =>
        have hg : Gains (fun _ => False) _ h _ := gains_remember h account sender m
        have hseat : (h.remember account sender m).Seated c :=
          hh.gains hg (hh.consistent.remember account sender m) hh.mem_index
        have hd' : ((h.remember account sender m).room account).desktop = some d := by
          rw [desktop_remember, hd]
        have heffect : h.commandEffect c sender m = h.desktopEffect c d account m.raw := by
          simp [commandEffect, hi, hm, hd]
        obtain ⟨houtbox, hindex⟩ := hasEffect_deliverTo hseat hd' m.raw
        obtain ⟨houtboxes, hindexes⟩ := toDesktop_delivers hi hm hd rfl
        rw [heffect]
        exact ⟨(houtboxes c.outbox).trans houtbox, hindexes ▸ hindex⟩
    · refine hidle ?_ (by simp [toDesktop, hi, hm])
      cases hd : (h.room account).desktop <;> simp [commandEffect, hi, hm, hd]

theorem hasEffect_toMobiles (hh : h.Seated c) (sender : ConnectionId) (m : Message) :
    HasEffect h c (h.messageEffect c sender m) (h.toMobiles sender m).1 := by
  have hcases := answering h sender m
  generalize h.toMobiles sender m = out at hcases
  unfold messageEffect
  cases hcases with
  | unknown hi =>
    rw [hi]
    exact hh.idle
  | stranger account hi hd =>
    simp only [hi, hd, Bool.false_eq_true, false_and, if_false]
    exact hh.idle
  | passed account room targets hi hd ha =>
    obtain ⟨hdesk, hmob⟩ := Room.members_of_answer ha
    have htargets : ((h.room account).answer h.config.routing m).2 = targets := by rw [ha]
    have hg : Gains (fun _ => False) (fun _ _ _ => False) h _ := gains_answer ha
    have hseat : (h.setRoom account room).Seated c :=
      hh.gains hg (hh.consistent.setRoom_of_members hdesk hmob) hh.mem_index
    have hmem : ∀ t ∈ targets, ∃ key : ConnectionId,
        ((h.setRoom account room).room account).mobiles[key]? = some t := by
      intro t ht
      rw [room_setRoom, if_pos rfl, Room.kept_mobiles, hmob]
      exact Room.lookup_of_answer (htargets ▸ ht)
    simp only [hi, hd, true_and, htargets]
    rw [deliver_fst]
    exact (hasEffect_parcels hseat hmem
      (htargets ▸ hh.consistent.nodup_answer account m) m.raw).after
      rfl rfl

/-! ## Every action -/

namespace Action

/-- The outbox that an action is about, if it does not call the hub. -/
def target? : Action → Option OutboxId
  | .attach o _ | .push o _ | .pushClose o _ | .handle o _ | .release o | .stop o => some o
  | _ => none

/-- An action that opens an outbox, or puts something into it, behind the hub's back. -/
def Writes (o : OutboxId) : Action → Prop
  | .attach o' _ | .push o' _ | .pushClose o' _ => o' = o
  | _ => False

instance (o : OutboxId) (a : Action) : Decidable (a.Writes o) := by
  cases a <;> unfold Writes <;> infer_instance

end Action

variable {a : Action} {o : OutboxId}

/-- An action that does not call the hub leaves the tables and all other outboxes alone. -/
theorem next_of_target (ht : a.target? = some o) :
    (h.next a).index = h.index ∧ (h.next a).rooms = h.rooms ∧
      ∀ o', o ≠ o' → (h.next a).outbox o' = h.outbox o' := by
  cases a <;> cases ht
  case attach => exact ⟨rfl, rfl, fun o' => outbox_setOutbox_ne h _⟩
  case push text =>
    simp only [next, step]
    split
    · rename_i g hpush
      obtain ⟨b, -, rfl⟩ := push_eq_ok.1 hpush
      exact ⟨rfl, rfl, fun o' => outbox_setOutbox_ne h b⟩
    · exact ⟨rfl, rfl, fun _ _ => rfl⟩
  case pushClose reason =>
    exact ⟨pushClose_index h o reason, pushClose_rooms h o reason,
      fun o' => outbox_pushClose_ne h reason⟩
  case handle release =>
    simp only [next, step]
    split
    · exact ⟨rfl, rfl, fun o' => outbox_setOutbox_ne h _⟩
    · exact ⟨rfl, rfl, fun _ _ => rfl⟩
  case release => exact ⟨rfl, rfl, fun o' => outbox_setOutbox_ne h _⟩
  case stop => exact ⟨rfl, rfl, fun o' => outbox_setOutbox_ne h _⟩

/-- A connection that works on its own outbox puts nothing into it. -/
theorem sent_next_of_target (ht : a.target? = some o) (hw : ¬ a.Writes o) :
    ((h.next a).outbox o).sent = (h.outbox o).sent := by
  cases a <;> cases ht
  case attach | push | pushClose => exact absurd rfl hw
  case handle release =>
    simp only [next, step]
    split
    · rename_i item b hb
      rw [outbox_setOutbox_self]
      exact Outbox.sent_handle hb
    · rfl
  case release | stop =>
    simp only [next, step, changeOutbox, outbox_setOutbox_self]
    rfl

/-- A frame that goes nowhere changes nothing. -/
theorem next_of_idle {sender : ConnectionId} {role : Role} {text : String}
    (hask : (Action.route sender role text).ask? = none)
    (htell : (Action.route sender role text).tell? = none) :
    h.next (.route sender role text) = h := by
  obtain ⟨-, -, hsame⟩ | ⟨m, hsome, -⟩ | ⟨m, hsome, -⟩ := route_cases h sender role text
  · exact hsame
  · rw [hask] at hsome
    cases hsome
  · rw [htell] at hsome
    cases hsome

/-- A call of the hub has the effect `effectOn` on every registered connection. -/
theorem hasEffect_call (hh : h.Seated c) (ht : a.target? = none)
    (hnew : ∀ d, a = .register d → d.id ∉ h.index ∧ d.outbox ≠ c.outbox) :
    HasEffect h c (h.effectOn c a) (h.next a) := by
  cases hask : a.ask? with
  | some ask =>
    have heffect : h.effectOn c a = h.commandEffect c ask.1 ask.2 := by simp [effectOn, hask]
    rw [heffect, next_of_ask? hask]
    exact hasEffect_toDesktop hh ask.1 ask.2
  | none =>
    cases htell : a.tell? with
    | some message =>
      have heffect : h.effectOn c a = h.messageEffect c message.1 message.2 := by
        simp [effectOn, hask, htell]
      rw [heffect, next_of_tell? htell]
      exact hasEffect_toMobiles hh message.1 message.2
    | none =>
      cases a with
      | register d => exact hasEffect_register hh (hnew d rfl).1 (hnew d rfl).2
      | deregister i => exact hasEffect_deregister hh i
      | route sender role text =>
        have heffect : h.effectOn c (.route sender role text) = .nothing := by
          simp [effectOn, hask, htell]
        have hsame : h.next (.route sender role text) = h := next_of_idle hask htell
        rw [heffect, hsame]
        exact hh.idle
      | announce account online device name =>
        have hf := hasEffect_tell hh account (Notice.desktopStatus online device name).render
        rwa [← announce_fst] at hf
      | evict account device => exact hasEffect_evict hh account device
      | toDesktop => cases hask
      | toMobiles => cases htell
      | attach | push | pushClose | handle | release | stop => cases ht

theorem effectOn_of_target (ht : a.target? = some o) : h.effectOn c a = .nothing := by
  cases a <;> cases ht <;> rfl

/-- The connection keeps its place just if the effect lets it, whoever works on its outbox. -/
theorem mem_index_next (hh : h.Seated c)
    (hnew : ∀ d, a = .register d → d.id ∉ h.index ∧ d.outbox ≠ c.outbox) :
    c.id ∈ (h.next a).index ↔ (h.effectOn c a).Stays h.config.overflow (h.outbox c.outbox) := by
  cases ht : a.target? with
  | none => exact (hasEffect_call hh ht hnew).index
  | some o =>
    rw [effectOn_of_target ht, (next_of_target (h := h) ht).1]
    exact iff_of_true hh.mem_index trivial

theorem hasEffect_next (hh : h.Seated c) (ht : a.target? ≠ some c.outbox)
    (hnew : ∀ d, a = .register d → d.id ∉ h.index ∧ d.outbox ≠ c.outbox) :
    HasEffect h c (h.effectOn c a) (h.next a) := by
  cases hto : a.target? with
  | none => exact hasEffect_call hh hto hnew
  | some o =>
    refine ⟨?_, mem_index_next hh hnew⟩
    rw [effectOn_of_target hto]
    exact (next_of_target (h := h) hto).2.2 c.outbox fun heq => ht (heq ▸ hto)

end Switchboard.Hub
