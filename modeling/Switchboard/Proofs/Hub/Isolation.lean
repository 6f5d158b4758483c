import Switchboard.Proofs.Hub.Fanout
import Switchboard.Proofs.Hub.Locality
import Switchboard.Proofs.Hub.Runs

/-! # Accounts do not notice each other

Every action belongs to an account, or to nobody.  One that is another account's leaves a
hub the same for an account (`sameFor_step`), and any other one does the same to two hubs
that are the same for the account, and gives the same answer (`SameFor.step`).  So in a
run the actions of other accounts can be left out, and the account does not notice.

* `Homes.action` — to which account an action belongs;
* `SameFor.step`, `sameFor_step` — one action;
* `SameFor.run` — a run, with and without the actions of others;
* `account_isolated` — the same for runs in which connections have names and outboxes of
  their own.
-/

namespace Switchboard.Hub

variable {homes : Homes} {account other : AccountId} {h g : Hub}

/-! ## Coming -/

theorem index_letIn {c : Connection} {k : ConnectionId} {a : AccountId}
    (hk : (h.letIn c).index[k]? = some a) :
    h.index[k]? = some a ∨ c.id = k ∧ c.principal.account = a := by
  have henter : ((h.greet c).enter c).index = h.index.insert c.id c.principal.account := by
    simp [enter, setRoom]
  have hinsert : (h.index.insert c.id c.principal.account)[k]? = some a := by
    -- whoever is replaced leaves the index, and nobody else enters it
    simp only [letIn] at hk
    split at hk
    · cases hold : (h.room c.principal.account).desktop with
      | none => simpa [hold, dismiss, henter] using hk
      | some old =>
        rw [hold, dismiss, pushClose_index, Table.lookup_erase, henter] at hk
        split at hk
        · cases hk
        · exact hk
    · rw [← henter]
      exact hk
  rw [Table.lookup_insert] at hinsert
  split at hinsert
  · rename_i hid
    exact .inr ⟨hid, Option.some.inj hinsert⟩
  · exact .inl hinsert

theorem Housed.letIn (hh : Housed homes h) {c : Connection}
    (hc : homes.Has c.principal.account c) : Housed homes (h.letIn c) := by
  refine ⟨hh.toPeopled.letIn hc, fun k a hk => ?_⟩
  obtain hold | ⟨rfl, rfl⟩ := index_letIn hk
  · exact hh.index k a hold
  · exact hc.1

theorem Housed.register (hh : Housed homes h) {c : Connection}
    (hc : homes.Has c.principal.account c) : Housed homes (h.register c).1 := by
  have hcases := registering h c
  generalize h.register c = out at hcases
  cases hcases with
  | refused => exact hh
  | mobile => exact hh.letIn hc
  | desktop => exact (hh.letIn hc).recedes (deliver_recedes _ _)

theorem Housed.next (hh : Housed homes h) {a : Action}
    (hnew : ∀ c, a = .register c → homes.Has c.principal.account c) :
    Housed homes (h.next a) := by
  refine ⟨hh.toPeopled.next hnew, fun k account hk => ?_⟩
  by_cases ha : ∃ c, a = .register c
  · obtain ⟨c, rfl⟩ := ha
    exact (hh.register (hnew c rfl)).index k account hk
  · -- nobody else comes
    obtain hold | harr := (gains_next h a).index k account hk
    · exact hh.index k account hold
    · cases a <;> cases harr
      exact absurd ⟨_, rfl⟩ ha

namespace SameFor

/-! ## What an account's own calls do in two hubs -/

theorem greet (hs : SameFor homes account h g) {c : Connection}
    (ho : Near account (homes.outbox c.outbox)) :
    SameFor homes account (h.greet c) (g.greet c) := by
  unfold Hub.greet push
  rw [hs.outbox _ ho]
  cases (h.outbox c.outbox).pushText (Notice.greeting c.id).render with
  | ok b => exact hs.setOutbox _ b
  | error e => exact hs

theorem enter (hs : SameFor homes account h g) {c : Connection}
    (hacc : c.principal.account = account) :
    SameFor homes account (h.enter c) (g.enter c) := by
  unfold Hub.enter
  dsimp only
  rw [hacc, hs.room]
  exact (hs.setRoom account _).insertIndex c.id account

theorem dismiss (hs : SameFor homes account h g) (old : Option Connection)
    (hold : ∀ d, old = some d → homes.Has account d) :
    SameFor homes account (h.dismiss old) (g.dismiss old) := by
  cases old with
  | none => exact hs
  | some d => exact (hs.eraseIndex d.id).pushClose _ (.inr (hold d rfl).2)

theorem letIn (hh : Housed homes h) (hs : SameFor homes account h g) {c : Connection}
    (hc : homes.Has account c) (hacc : c.principal.account = account) :
    SameFor homes account (h.letIn c) (g.letIn c) := by
  have henter := (hs.greet (.inr hc.2)).enter hacc
  unfold Hub.letIn
  rw [hacc, hs.room]
  dsimp only
  split
  · exact henter.dismiss _ (hh.desktop account)
  · exact henter

theorem announce (hh : Housed homes h) (hs : SameFor homes account h g) (n : Notice) :
    (g.announce account n).2 = (h.announce account n).2 ∧
      SameFor homes account (h.announce account n).1 (g.announce account n).1 := by
  unfold Hub.announce
  rw [hs.room]
  exact hs.deliver hh (hh.within_parcels n.render)

theorem register (hh : Housed homes h) (hs : SameFor homes account h g) {c : Connection}
    (hc : homes.Has account c) (hacc : c.principal.account = account) :
    (g.register c).2 = (h.register c).2 ∧
      SameFor homes account (h.register c).1 (g.register c).1 := by
  -- the room alone decides who is let in
  have hrefuse : g.refusal? c = h.refusal? c := by
    unfold refusal?
    rw [hacc, hs.room, hs.config]
  have hlet := hs.letIn hh hc hacc
  rw [register_eq, register_eq, hrefuse, hacc]
  cases h.refusal? c with
  | some e => exact ⟨rfl, hs⟩
  | none =>
    dsimp only
    split
    · exact ⟨rfl, (hlet.announce (hh.letIn (hacc ▸ hc)) _).2⟩
    · exact ⟨rfl, hlet⟩

theorem expel (hh : Housed homes h) (hs : SameFor homes account h g) {d : Connection}
    (hd : (h.room account).desktop = some d) :
    SameFor homes account (h.expel account d) (g.expel account d) := by
  unfold Hub.expel
  rw [hs.room]
  exact ((hs.eraseIndex d.id).setRoom account _).pushClose _ (.inr (hh.desktop account d hd).2)

theorem evict (hh : Housed homes h) (hs : SameFor homes account h g) (device : DeviceId) :
    (g.evict account device).2 = (h.evict account device).2 ∧
      SameFor homes account (h.evict account device).1 (g.evict account device).1 := by
  unfold Hub.evict
  rw [hs.room]
  dsimp only
  cases hd : (h.room account).desktop with
  | none => exact ⟨rfl, hs⟩
  | some d =>
    dsimp only
    split
    · -- the mobiles are told from the room as it is without the desktop
      have hg : Gains (fun _ => False) (fun _ _ _ => False) h _ := gains_expel h account d
      have htold := (hs.expel hh hd).announce (hh.gains hg) (presence false d.principal)
      simp only [Hub.expel, hs.room] at htold
      exact ⟨rfl, htold.2⟩
    · exact ⟨rfl, hs⟩

theorem deregister (hh : Housed homes h) (hs : SameFor homes account h g) {c : ConnectionId}
    (hc : Near account (homes.connection c)) :
    (g.deregister c).2 = (h.deregister c).2 ∧
      SameFor homes account (h.deregister c).1 (g.deregister c).1 := by
  have hmem : c ∈ g.index ↔ c ∈ h.index := by
    rw [Table.mem_iff_lookup, Table.mem_iff_lookup, hs.index c hc]
  unfold Hub.deregister
  by_cases hin : c ∈ h.index
  · obtain ⟨hmore, hsame⟩ := hs.detach hh hc
    obtain ⟨a, hi⟩ := Table.mem_iff_lookup.1 hin
    have hhome := hh.index c a hi
    obtain rfl : a = account := near_some.1 (hhome ▸ hc)
    rw [if_pos hin, if_pos (hmem.2 hin)]
    dsimp only
    rw [hmore]
    exact ⟨rfl, hsame.deliverAll (hh.recedes (.detach h c)) (hh.within_detach hhome)⟩
  · rw [if_neg hin, if_neg fun hin' => hin (hmem.1 hin')]
    exact ⟨rfl, hs⟩

theorem forget (hs : SameFor homes account h g) (sender : ConnectionId) (id : Option String) :
    SameFor homes account (h.forget account sender id) (g.forget account sender id) := by
  unfold Hub.forget
  rw [hs.rooms]
  split
  · exact hs.setRoom account _
  · exact hs

theorem toDesktop (hh : Housed homes h) (hs : SameFor homes account h g)
    {sender : ConnectionId} (hn : Near account (homes.connection sender)) (m : Message) :
    (g.toDesktop sender m).2 = (h.toDesktop sender m).2 ∧
      SameFor homes account (h.toDesktop sender m).1 (g.toDesktop sender m).1 := by
  have hig := hs.index sender hn
  cases hi : h.index[sender]? with
  | none =>
    rw [hi] at hig
    simp only [Hub.toDesktop, hi, hig]
    exact ⟨trivial, hs⟩
  | some a =>
    obtain rfl : a = account := near_some.1 (hh.index sender a hi ▸ hn)
    rw [hi] at hig
    by_cases hm : sender ∈ (h.room a).mobiles
    · cases hd : (h.room a).desktop with
      | none =>
        simp only [Hub.toDesktop, hi, hig, hs.room, hm, hd, if_true]
        exact ⟨trivial, hs⟩
      | some d =>
        rw [toDesktop_eq hi hm hd, toDesktop_eq hig (hs.room ▸ hm) (hs.room ▸ hd)]
        have hrem : SameFor homes a (h.remember a sender m) (g.remember a sender m) := by
          unfold remember
          rw [hs.room, hs.config]
          exact hs.setRoom a _
        have hwithin : homes.Within a ⟨d.id, d.outbox, m.raw⟩ := hh.desktop a d hd
        have hto := hrem.deliverTo (hh.gains (gains_remember h a sender m)) hwithin
        -- what became of the command is the same in both, so both forget it or neither does
        generalize (h.remember a sender m).deliverTo ⟨d.id, d.outbox, m.raw⟩ = out at hto
        generalize (g.remember a sender m).deliverTo ⟨d.id, d.outbox, m.raw⟩ = out' at hto
        obtain ⟨k, r⟩ := out
        obtain ⟨k', r'⟩ := out'
        obtain ⟨hres, hsame⟩ := hto
        cases hres
        cases r with
        | ok u => exact ⟨rfl, hsame⟩
        | error e =>
          dsimp only
          rw [hsame.config]
          exact ⟨rfl, hsame.forget sender m.id⟩
    · simp only [Hub.toDesktop, hi, hig, hs.room, hm, if_false]
      exact ⟨trivial, hs⟩

theorem toMobiles (hh : Housed homes h) (hs : SameFor homes account h g)
    {sender : ConnectionId} (hn : Near account (homes.connection sender)) (m : Message) :
    (g.toMobiles sender m).2 = (h.toMobiles sender m).2 ∧
      SameFor homes account (h.toMobiles sender m).1 (g.toMobiles sender m).1 := by
  unfold Hub.toMobiles
  rw [hs.index sender hn]
  cases hi : h.index[sender]? with
  | none => exact ⟨rfl, hs⟩
  | some a =>
    obtain rfl : a = account := near_some.1 (hh.index sender a hi ▸ hn)
    dsimp only
    rw [hs.room, hs.config]
    split
    · have hgain : Gains (fun _ => False) (fun _ _ _ => False) h
          (h.setRoom a ((h.room a).answer h.config.routing m).1) := gains_answer rfl
      obtain ⟨hn, hsame⟩ := (hs.setRoom a ((h.room a).answer h.config.routing m).1).deliver
        (hh.gains hgain) (hh.within_answer m)
      exact ⟨congrArg Except.ok hn, hsame⟩
    · exact ⟨rfl, hs⟩

theorem route (hh : Housed homes h) (hs : SameFor homes account h g)
    {sender : ConnectionId} (hn : Near account (homes.connection sender)) (role : Role)
    (text : String) :
    (g.route sender role text).2 = (h.route sender role text).2 ∧
      SameFor homes account (h.route sender role text).1 (g.route sender role text).1 := by
  unfold Hub.route
  cases Message.read text with
  | error fault => exact ⟨rfl, hs⟩
  | ok m =>
    have hto := hs.toDesktop hh hn m
    have hback := hs.toMobiles hh hn m
    dsimp only [pass]
    generalize h.toDesktop sender m = out at hto
    generalize g.toDesktop sender m = out' at hto
    obtain ⟨k, r⟩ := out
    obtain ⟨k', r'⟩ := out'
    obtain ⟨hres, hsame⟩ := hto
    cases hres
    split
    · cases r with
      | ok u => exact ⟨rfl, hsame⟩
      | error e => exact ⟨rfl, hsame⟩
    · split
      · exact ⟨rfl, hback.2⟩
      · exact ⟨rfl, hs⟩

end SameFor

/-! ## What a call for another account does -/

section Other

variable (hne : other ≠ account)

include hne

theorem sameFor_letIn (hh : Housed homes h) {c : Connection} (hc : homes.Has other c)
    (hacc : c.principal.account = other) : SameFor homes account h (h.letIn c) := by
  have hgreet : SameFor homes account h (h.greet c) := by
    obtain heq | ⟨b, -, heq⟩ := greet_eq h c <;> rw [heq]
    · exact .refl h
    · exact sameFor_setOutbox h b hc.2 hne
  have henter : SameFor homes account h ((h.greet c).enter c) := by
    refine hgreet.trans ?_
    unfold enter
    dsimp only
    rw [hacc]
    exact (sameFor_setRoom _ _ hne).trans (sameFor_insertIndex _ _ hc.1 hne)
  unfold letIn
  dsimp only
  split
  · cases hd : (h.room c.principal.account).desktop with
    | none => exact henter
    | some old =>
      rw [hacc] at hd
      obtain ⟨hold, hbox⟩ := hh.desktop other old hd
      exact henter.trans
        ((sameFor_eraseIndex _ hold hne).trans (sameFor_pushClose _ replacedReason hbox hne))
  · exact henter

theorem sameFor_announce (hh : Housed homes h) (n : Notice) :
    SameFor homes account h (h.announce other n).1 :=
  sameFor_deliver hh (hh.within_parcels n.render) hne

theorem sameFor_register (hh : Housed homes h) {c : Connection} (hc : homes.Has other c)
    (hacc : c.principal.account = other) : SameFor homes account h (h.register c).1 := by
  have hlet := sameFor_letIn hne hh hc hacc
  have hcases := registering h c
  generalize h.register c = out at hcases
  cases hcases with
  | refused => exact .refl h
  | mobile => exact hlet
  | desktop =>
    rw [hacc]
    exact hlet.trans (sameFor_announce hne (hh.letIn (hacc ▸ hc)) _)

theorem sameFor_evict (hh : Housed homes h) (device : DeviceId) :
    SameFor homes account h (h.evict other device).1 := by
  have hcases := evicting h other device
  generalize h.evict other device = out at hcases
  cases hcases with
  | absent => exact .refl h
  | evicted d hd =>
    obtain ⟨hid, hbox⟩ := hh.desktop other d hd
    have hexpel : SameFor homes account h (h.expel other d) :=
      ((sameFor_eraseIndex h hid hne).trans (sameFor_setRoom _ _ hne)).trans
        (sameFor_pushClose _ unpairedReason hbox hne)
    have hgain : Gains (fun _ => False) (fun _ _ _ => False) h (h.expel other d) :=
      gains_expel h other d
    exact hexpel.trans (sameFor_announce hne (hh.gains hgain) _)

theorem sameFor_deregister (hh : Housed homes h) {c : ConnectionId}
    (hc : homes.connection c = some other) : SameFor homes account h (h.deregister c).1 := by
  unfold deregister
  split
  · exact (sameFor_detach hh hc hne).trans
      (sameFor_deliverAll (hh.recedes (.detach h c)) (hh.within_detach hc) hne)
  · exact .refl h

theorem sameFor_deliverTo (hh : Housed homes h) {p : Parcel} (hp : homes.Within other p) :
    SameFor homes account h (h.deliverTo p).1 := by
  have hone : (h.deliverTo p).1 = h.deliverAll [p] := by
    rw [← deliver_fst, deliver_cons, deliver]
  rw [hone]
  exact sameFor_deliverAll hh (by simpa using hp) hne

theorem sameFor_forget (sender : ConnectionId) (id : Option String) :
    SameFor homes account h (h.forget other sender id) := by
  unfold forget
  split
  · exact sameFor_setRoom h _ hne
  · exact .refl h

theorem sameFor_toDesktop (hh : Housed homes h) {sender : ConnectionId}
    (hc : homes.connection sender = some other) (m : Message) :
    SameFor homes account h (h.toDesktop sender m).1 := by
  cases hi : h.index[sender]? with
  | none =>
    simp only [toDesktop, hi]
    exact .refl h
  | some a =>
    obtain rfl : a = other := Option.some.inj ((hh.index sender a hi).symm.trans hc)
    by_cases hm : sender ∈ (h.room a).mobiles
    · cases hd : (h.room a).desktop with
      | none =>
        simp only [toDesktop, hi, hm, hd, if_true]
        exact .refl h
      | some d =>
        rw [toDesktop_eq hi hm hd]
        have hwithin : homes.Within a ⟨d.id, d.outbox, m.raw⟩ := hh.desktop a d hd
        have hto := (sameFor_setRoom h _ hne).trans
          (sameFor_deliverTo hne (hh.gains (gains_remember h a sender m)) hwithin)
        generalize (h.remember a sender m).deliverTo ⟨d.id, d.outbox, m.raw⟩ = out at hto
        obtain ⟨k, r⟩ := out
        cases r with
        | ok u => exact hto
        | error e => exact hto.trans (sameFor_forget hne sender m.id)
    · simp only [toDesktop, hi, hm, if_false]
      exact .refl h

theorem sameFor_toMobiles (hh : Housed homes h) {sender : ConnectionId}
    (hc : homes.connection sender = some other) (m : Message) :
    SameFor homes account h (h.toMobiles sender m).1 := by
  have hcases := answering h sender m
  generalize h.toMobiles sender m = out at hcases
  cases hcases with
  | unknown => exact .refl h
  | stranger => exact .refl h
  | passed a room targets hi _ ha =>
    obtain rfl : a = other := Option.some.inj ((hh.index sender a hi).symm.trans hc)
    have hwithin : ∀ p ∈ parcels targets m.raw, homes.Within a p := by
      have hall : ∀ p ∈ parcels ((h.room a).answer h.config.routing m).2 m.raw,
          homes.Within a p := hh.within_answer m
      rw [ha] at hall
      exact hall
    have hgain : Gains (fun _ => False) (fun _ _ _ => False) h (h.setRoom a room) :=
      gains_answer ha
    exact (sameFor_setRoom h room hne).trans (sameFor_deliver (hh.gains hgain) hwithin hne)

end Other

/-! ## Actions -/

/-- To which account an action belongs, if to any: that of the connection or of the outbox
that it is about. -/
def Homes.action (homes : Homes) : Action → Option AccountId
  | .register c => some c.principal.account
  | .deregister c => homes.connection c
  | .toDesktop sender _ | .toMobiles sender _ | .route sender _ _ => homes.connection sender
  | .announce account .. | .evict account _ => some account
  | .attach o _ | .push o _ | .pushClose o _ | .handle o _ | .release o | .stop o =>
    homes.outbox o

/-- Whether an action is not another account's. -/
def Homes.concerns (homes : Homes) (account : AccountId) (a : Action) : Bool :=
  Near account (homes.action a)

/-- A connection that an action registers belongs to its account. -/
def Homes.Fits (homes : Homes) (a : Action) : Prop :=
  ∀ c, a = .register c → homes.Has c.principal.account c

theorem SameFor.step {a : Action} (hh : Housed homes h) (hs : SameFor homes account h g)
    (ha : Near account (homes.action a)) (hfits : homes.Fits a) :
    (g.step a).2 = (h.step a).2 ∧ SameFor homes account (h.next a) (g.next a) := by
  unfold next
  cases a with
  | attach o capacity => exact ⟨rfl, hs.setOutbox o _⟩
  | register c =>
    have hacc := near_some.1 ha
    obtain ⟨hres, hsame⟩ := hs.register hh (hacc ▸ hfits c rfl) hacc
    exact ⟨congrArg Answer.registered hres, hsame⟩
  | deregister c =>
    obtain ⟨hres, hsame⟩ := hs.deregister hh ha
    exact ⟨congrArg Answer.flag hres, hsame⟩
  | toDesktop sender m =>
    obtain ⟨hres, hsame⟩ := hs.toDesktop hh ha m
    exact ⟨congrArg Answer.passed hres, hsame⟩
  | toMobiles sender m =>
    obtain ⟨hres, hsame⟩ := hs.toMobiles hh ha m
    exact ⟨congrArg Answer.reached hres, hsame⟩
  | route sender role text =>
    obtain ⟨hres, hsame⟩ := hs.route hh ha role text
    exact ⟨congrArg Answer.reply hres, hsame⟩
  | announce a online device deviceName =>
    obtain rfl := near_some.1 ha
    obtain ⟨hres, hsame⟩ := hs.announce hh (.desktopStatus online device deviceName)
    exact ⟨congrArg Answer.count hres, hsame⟩
  | evict a device =>
    obtain rfl := near_some.1 ha
    obtain ⟨hres, hsame⟩ := hs.evict hh device
    exact ⟨congrArg Answer.flag hres, hsame⟩
  -- from here on an action works on one outbox, which is the same in both
  | push o text =>
    simp only [Hub.step, push, hs.outbox o ha]
    cases (h.outbox o).pushText text with
    | ok b => exact ⟨rfl, hs.setOutbox o b⟩
    | error e => exact ⟨rfl, hs⟩
  | pushClose o reason => exact ⟨rfl, hs.pushClose reason ha⟩
  | handle o release =>
    simp only [Hub.step, hs.outbox o ha]
    cases (h.outbox o).handle? release with
    | some taken => exact ⟨rfl, hs.setOutbox o taken.2⟩
    | none => exact ⟨rfl, hs⟩
  | release o =>
    simp only [Hub.step, changeOutbox, hs.outbox o ha]
    exact ⟨trivial, hs.setOutbox o _⟩
  | stop o =>
    simp only [Hub.step, changeOutbox, hs.outbox o ha]
    exact ⟨trivial, hs.setOutbox o _⟩

theorem sameFor_step {a : Action} (hh : Housed homes h) (ha : homes.action a = some other)
    (hne : other ≠ account) (hfits : homes.Fits a) : SameFor homes account h (h.next a) := by
  cases a with
  | attach o capacity => exact sameFor_setOutbox h _ ha hne
  | register c =>
    have hacc : c.principal.account = other := Option.some.inj ha
    exact sameFor_register hne hh (hacc ▸ hfits c rfl) hacc
  | deregister c => exact sameFor_deregister hne hh ha
  | toDesktop sender m => exact sameFor_toDesktop hne hh ha m
  | toMobiles sender m => exact sameFor_toMobiles hne hh ha m
  | route sender role text =>
    change SameFor homes account h (h.route sender role text).1
    -- a frame that is neither read as a command nor as a message changes nothing
    obtain ⟨-, -, heq⟩ | ⟨m, -, heq⟩ | ⟨m, -, heq⟩ := route_cases h sender role text <;> rw [heq]
    · exact .refl h
    · exact sameFor_toDesktop hne hh ha m
    · exact sameFor_toMobiles hne hh ha m
  | announce a online device deviceName =>
    cases ha
    exact sameFor_announce hne hh _
  | evict a device =>
    cases ha
    exact sameFor_evict hne hh device
  | push o text =>
    simp only [next, step]
    split
    · rename_i g hp
      obtain ⟨b, -, rfl⟩ := push_eq_ok.1 hp
      exact sameFor_setOutbox h b ha hne
    · exact .refl h
  | pushClose o reason => exact sameFor_pushClose h reason ha hne
  | handle o release =>
    simp only [next, step]
    split
    · exact sameFor_setOutbox h _ ha hne
    · exact .refl h
  | release o => exact sameFor_setOutbox h _ ha hne
  | stop o => exact sameFor_setOutbox h _ ha hne

/-! ## Runs -/

/-- A run with and without the actions of other accounts, from two hubs that are the same
for an account: it gets the same answers and ends the same for the account. -/
theorem SameFor.run {as : List Action} (hh : Housed homes h) (hs : SameFor homes account h g)
    (hfits : ∀ a ∈ as, homes.Fits a) :
    (g.run (as.filter (homes.concerns account))).2
        = ((as.zip (h.run as).2).filter fun p => homes.concerns account p.1).map Prod.snd ∧
      SameFor homes account (h.run as).1 (g.run (as.filter (homes.concerns account))).1 := by
  induction as generalizing h g with
  | nil => exact ⟨rfl, hs⟩
  | cons a as ih =>
    obtain ⟨hfit, hfits⟩ := List.forall_mem_cons.1 hfits
    have hh' := hh.next hfit
    cases hmine : homes.concerns account a with
    | true =>
      -- the action is taken in both runs
      obtain ⟨hres, hsame⟩ := hs.step hh (of_decide_eq_true hmine) hfit
      obtain ⟨hanswers, hend⟩ := ih hh' hsame hfits
      rw [List.filter_cons_of_pos hmine]
      refine ⟨?_, hend⟩
      change (g.step a).2 :: ((g.next a).run (as.filter (homes.concerns account))).2
        = (((a, (h.step a).2) :: as.zip ((h.next a).run as).2).filter
          fun p => homes.concerns account p.1).map Prod.snd
      rw [List.filter_cons_of_pos (by exact hmine), List.map_cons, hanswers, hres]
    | false =>
      -- the action is another account's and is left out of one of them
      obtain ⟨other, hother, hne⟩ : ∃ other, homes.action a = some other ∧ other ≠ account := by
        have hfar := of_decide_eq_false hmine
        cases hhome : homes.action a with
        | none => exact absurd (.inl hhome) hfar
        | some other =>
          refine ⟨other, rfl, fun heq => hfar (.inr ?_)⟩
          rw [hhome, heq]
      obtain ⟨hanswers, hend⟩ :=
        ih hh' ((sameFor_step hh hother hne hfit).symm.trans hs) hfits
      rw [List.filter_cons_of_neg (by simp [hmine])]
      refine ⟨?_, hend⟩
      change _ = (((a, (h.step a).2) :: as.zip ((h.next a).run as).2).filter
        fun p => homes.concerns account p.1).map Prod.snd
      rw [List.filter_cons_of_neg (by simp [hmine])]
      exact hanswers

/-! ## Names and outboxes of one's own -/

/-- Of a list without repetitions the one with a value is found by it. -/
theorem find?_of_nodup {α β : Type} [DecidableEq β] {f : α → β} {l : List α}
    (hl : (l.map f).Nodup) {x : α} (hx : x ∈ l) : l.find? (fun y => f y = f x) = some x := by
  induction l with
  | nil => cases hx
  | cons y l ih =>
    rw [List.map_cons, List.nodup_cons] at hl
    obtain rfl | hx := List.mem_cons.1 hx
    · simp
    · have hne : f y ≠ f x := fun heq => hl.1 (heq ▸ List.mem_map_of_mem hx)
      rw [List.find?_cons_of_neg (by simpa using hne)]
      exact ih hl.2 hx

/-- Whatever a connection of a run has belongs to the account for which it is registered. -/
def Homes.of (as : List Action) : Homes where
  connection c := ((newcomers as).find? (·.id = c)).map (·.principal.account)
  outbox o := ((newcomers as).find? (·.outbox = o)).map (·.principal.account)

theorem Homes.of_has {as : List Action} (hfresh : (arrivals as).Nodup)
    (howned : ((newcomers as).map (·.outbox)).Nodup) {c : Connection} (hc : c ∈ newcomers as) :
    (Homes.of as).Has c.principal.account c := by
  rw [arrivals_eq] at hfresh
  constructor
  · simp only [Homes.of, find?_of_nodup hfresh hc, Option.map_some]
  · simp only [Homes.of, find?_of_nodup howned hc, Option.map_some]

theorem housed_empty (homes : Homes) (config : Config) : Housed homes (empty config) :=
  ⟨.empty config, by simp [empty]⟩

/-- If the actions of all other accounts are left out of a run in which connections have
names and outboxes of their own, an account gets the same answers, its room is the same in
the end, and for each of its connections the index entry and everything that was ever put
into its outbox. -/
theorem account_isolated (config : Config) (as : List Action) (account : AccountId)
    (hfresh : (arrivals as).Nodup) (howned : ((newcomers as).map (·.outbox)).Nodup) :
    let mine := (Homes.of as).concerns account
    let all := (empty config).run as
    let kept := (empty config).run (as.filter mine)
    kept.2 = ((as.zip all.2).filter fun p => mine p.1).map Prod.snd ∧
    kept.1.rooms[account]? = all.1.rooms[account]? ∧
    ∀ c ∈ newcomers as, c.principal.account = account →
      kept.1.index[c.id]? = all.1.index[c.id]? ∧
      kept.1.outbox c.outbox = all.1.outbox c.outbox := by
  intro mine all kept
  have hfits : ∀ a ∈ as, (Homes.of as).Fits a := by
    rintro a ha c rfl
    exact Homes.of_has hfresh howned (mem_newcomers.2 ha)
  obtain ⟨hanswers, hend⟩ :=
    (SameFor.refl (empty config)).run (housed_empty (Homes.of as) config) hfits
  refine ⟨hanswers, hend.rooms, ?_⟩
  rintro c hc rfl
  obtain ⟨hid, hbox⟩ := Homes.of_has hfresh howned hc
  exact ⟨hend.index c.id (.inr hid), hend.outbox c.outbox (.inr hbox)⟩

/-- Two accounts, of which one has nobody left in the end. -/
def neighbours : List Action :=
  [.attach 1 16, .attach 2 16, .attach 3 1, .register ⟨⟨1⟩, .mobile ⟨10⟩, 1⟩,
    .register ⟨⟨3⟩, .desktop ⟨11⟩ ⟨21⟩ "other", 3⟩,
    .register ⟨⟨2⟩, .desktop ⟨10⟩ ⟨20⟩ "desk", 2⟩, .evict ⟨11⟩ ⟨21⟩,
    .toDesktop ⟨1⟩ ⟨.listJobs, some "1", "list jobs"⟩]

/-- Without the second account's desktop, and without its being sent away, the first one's
desktop has been told the same. -/
theorem account_isolated_neighbours :
    (arrivals neighbours).Nodup ∧ ((newcomers neighbours).map (·.outbox)).Nodup ∧
      (neighbours.filter ((Homes.of neighbours).concerns ⟨10⟩)).length = 5 ∧
      ((empty {}).run (neighbours.filter ((Homes.of neighbours).concerns ⟨10⟩))).1.outbox 2
        = ((empty {}).run neighbours).1.outbox 2 := by
  have hfresh : (arrivals neighbours).Nodup := by decide
  have howned : ((newcomers neighbours).map (·.outbox)).Nodup := by decide
  exact ⟨hfresh, howned, by decide +kernel,
    ((account_isolated {} neighbours ⟨10⟩ hfresh howned).2.2 ⟨⟨2⟩, .desktop ⟨10⟩ ⟨20⟩ "desk", 2⟩
      (by decide) rfl).2⟩

end Switchboard.Hub
