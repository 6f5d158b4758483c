import Switchboard.Proofs.Hub.Outstanding
import Switchboard.Proofs.Hub.Texts
import Switchboard.Proofs.Hub.Underway

/-! # What an action tells

In a hub where rooms and index agree and everybody has an outbox of their own, an action
offers every outbox one text at most: a newcomer is greeted, the desktop gets a command, or
mobiles of one room are told something.  `Tells` lists all that an action can offer,
together with what becomes of the desktops, and `tells_next` says that the list is
complete; what is proved of runs elsewhere goes through its cases.

* `Offers` — the texts that are offered in a step, and the desktops after it;
* `offers_tell` — all mobiles of a room are told the same;
* `offers_deregister`, `offers_evict`, `offers_register` — coming and going;
* `handed`, `spoken` — what an action puts into a desktop's outbox, and what a desktop says;
* `Tells`, `tells_next` — every action.
-/

namespace Switchboard.Hub

/-- In a step every outbox is offered what `offer` says, and the desktops are afterwards
those that `desktop` says. -/
structure Offers (h g : Hub) (offer : OutboxId → Option String)
    (desktop : AccountId → Option Connection) : Prop where
  told : ∀ o, (g.outbox o).told = (h.outbox o).offered (offer o)
  desktop : ∀ account, (g.room account).desktop = desktop account

/-- The mobiles of a room are offered a text. -/
def mobilesOf (h : Hub) (account : AccountId) (text : String) (o : OutboxId) : Option String :=
  if (h.room account).listens o then some text else none

/-- An account has no desktop any more, and all others have theirs. -/
def desktopsBut (h : Hub) (account other : AccountId) : Option Connection :=
  if account = other then none else (h.room other).desktop

variable {h g k : Hub} {account : AccountId} {d : Connection} {text : String}

/-! ## Nothing, and all mobiles of a room -/

theorem offers_nothing (ho : ∀ o, (g.outbox o).told = (h.outbox o).told)
    (hd : ∀ account, (g.room account).desktop = (h.room account).desktop) :
    Offers h g (fun _ => none) fun account => (h.room account).desktop :=
  ⟨fun o => by rw [Outbox.offered_none, ho], hd⟩

/-- What was done before the mobiles are told has put no text anywhere. -/
theorem offers_tell {slot : AccountId → Option Connection} (hc : k.Consistent) (hs : k.Separate)
    (hm : (k.room account).mobiles = (h.room account).mobiles)
    (ho : ∀ o text, (k.outbox o).offered text = (h.outbox o).offered text)
    (hd : ∀ other, (k.room other).desktop = slot other) (text : String) :
    Offers h (k.tell account text) (h.mobilesOf account text) slot := by
  constructor
  · intro o
    rw [told_tell hc hs, ho, Room.listens_of_members hm, mobilesOf]
  · intro other
    rw [desktop_tell hc, hd]

theorem offers_announce (hc : h.Consistent) (hs : h.Separate) (account : AccountId)
    (n : Notice) :
    Offers h (h.announce account n).1 (h.mobilesOf account n.render)
      fun account => (h.room account).desktop := by
  rw [announce_fst]
  exact offers_tell hc hs rfl (fun _ _ => rfl) (fun _ => rfl) _

/-! ## Leaving -/

theorem detach_desktop (hi : h.index[d.id]? = some account)
    (hd : (h.room account).desktop = some d) :
    (h.detach d.id).2
      = parcels ((h.detach d.id).1.room account).mobiles.values
        (presence false d.principal).render ∧
      ((h.detach d.id).1.room account).mobiles = (h.room account).mobiles ∧
      ∀ other, ((h.detach d.id).1.room other).desktop = h.desktopsBut account other := by
  have hdesk : (h.room account).isDesktop d.id = true := Room.isDesktop_iff.2 ⟨d, hd, rfl⟩
  have hroom := detach_room hi
  have hmobiles : ((h.detach d.id).1.room account).mobiles = (h.room account).mobiles := by
    rw [hroom, if_pos rfl, Room.kept_mobiles, Room.remove_mobiles, if_pos hdesk]
  refine ⟨?_, hmobiles, fun other => ?_⟩
  · rw [hmobiles, detach_eq hi, farewell, Room.remove_departed, if_pos hdesk, hd]
  · unfold desktopsBut
    rw [hroom]
    split
    · rw [Room.kept_desktop, Room.remove_desktop, if_pos hdesk]
    · rfl

/-- A desktop that is taken out is announced to the mobiles that it leaves behind. -/
theorem offers_leave (hc : k.Consistent) (hs : k.Separate)
    (hd : (k.room account).desktop = some d)
    (hm : (k.room account).mobiles = (h.room account).mobiles)
    (hdesk : ∀ other, (k.room other).desktop = (h.room other).desktop)
    (ho : ∀ o text, (k.outbox o).offered text = (h.outbox o).offered text) :
    Offers h (k.deregister d.id).1 (h.mobilesOf account (presence false d.principal).render)
      (h.desktopsBut account) := by
  obtain ⟨hparcels, hmobiles, hslots⟩ := detach_desktop (hc.index_desktop hd) hd
  rw [deregister_fst, hparcels]
  refine offers_tell (hc.detach d.id) (hs.recedes (.detach k d.id)) (hmobiles.trans hm)
    (fun o text => ?_) (fun other => ?_) _
  · rw [detach_outbox, ho]
  · rw [hslots, desktopsBut, desktopsBut, hdesk]

theorem offers_deregister (hc : h.Consistent) (hs : h.Separate) (c : ConnectionId) :
    Offers h (h.deregister c).1 (fun _ => none) (fun account => (h.room account).desktop) ∨
      ∃ account d, (h.room account).desktop = some d ∧ c = d.id ∧
        Offers h (h.deregister c).1 (h.mobilesOf account (presence false d.principal).render)
          (h.desktopsBut account) := by
  by_cases hq : h.Quiet c
  · -- nobody has to know
    left
    rw [deregister_fst, detach_quiet hq, deliverAll]
    exact offers_nothing (fun o => by rw [detach_outbox]) (desktop_detach hq)
  · right
    obtain ⟨account, hdesk⟩ : ∃ account, (h.room account).isDesktop c = true := by
      simpa [Quiet] using hq
    obtain ⟨d, hd, rfl⟩ := Room.isDesktop_iff.1 hdesk
    exact ⟨account, d, hd, rfl, offers_leave hc hs hd rfl (fun _ => rfl) fun _ _ => rfl⟩

theorem Separate.gains {asked : AccountId → String → ConnectionId → Prop} (hs : h.Separate)
    (hg : Gains (fun _ => False) asked h g) : g.Separate := by
  have hmember : ∀ c, g.Member c → h.Member c := by
    rintro c ⟨account, hd | ⟨k, hm⟩⟩
    · exact ⟨account, .inl ((hg.desktop account c hd).resolve_right id)⟩
    · exact ⟨account, .inr ⟨k, (hg.mobile account k c hm).resolve_right id⟩⟩
  exact fun c c' hc hc' ho => hs c c' (hmember c hc) (hmember c' hc') ho

theorem offers_evict (hc : h.Consistent) (hs : h.Separate) (account : AccountId)
    (device : DeviceId) :
    Offers h (h.evict account device).1 (fun _ => none) (fun account => (h.room account).desktop) ∨
      ∃ d, (h.room account).desktop = some d ∧
        Offers h (h.evict account device).1
          (h.mobilesOf account (presence false d.principal).render) (h.desktopsBut account) := by
  have hcases := evicting h account device
  generalize h.evict account device = out at hcases
  cases hcases with
  | absent => exact .inl (offers_nothing (fun _ => rfl) fun _ => rfl)
  | evicted d hd =>
    right
    refine ⟨d, hd, ?_⟩
    have hg : Gains (fun _ => False) (fun _ _ _ => False) h _ := gains_expel h account d
    rw [announce_fst]
    refine offers_tell (hc.expel hd) (hs.gains hg) ?_ (fun o text => ?_) (fun other => ?_) _
    · rw [room_expel, if_pos rfl, Room.kept_mobiles]
      rfl
    · exact offered_pushClose _ _ _ _ _
    · rw [room_expel, desktopsBut]
      split
      · rw [Room.kept_desktop]
        rfl
      · rfl

/-! ## Coming -/

theorem told_greet (h : Hub) (c : Connection) (o : OutboxId) :
    ((h.greet c).outbox o).told
      = (h.outbox o).offered
          (if c.outbox = o then some (Notice.greeting c.id).render else none) := by
  unfold greet push
  cases hb : (h.outbox c.outbox).pushText (Notice.greeting c.id).render with
  | ok b =>
    dsimp only
    rw [outbox_setOutbox]
    split
    · rename_i ho
      subst ho
      rw [Outbox.told_pushText hb, Outbox.offered_of_takes (Outbox.takes_of_pushText hb)]
    · rw [Outbox.offered_none]
  | error e =>
    dsimp only
    split
    · rename_i ho
      subst ho
      rw [Outbox.offered_of_not_takes (Outbox.not_takes_of_pushText hb)]
    · rw [Outbox.offered_none]

theorem outbox_greet_ne (h : Hub) {c : Connection} {o : OutboxId} (ho : c.outbox ≠ o) :
    (h.greet c).outbox o = h.outbox o := by
  obtain heq | ⟨b, -, heq⟩ := greet_eq h c <;> rw [heq]
  exact outbox_setOutbox_ne h b ho

/-- After the greeting there may be a close for somebody else, and no text. -/
theorem offered_letIn (h : Hub) (c : Connection) (o : OutboxId) (text : Option String) :
    ((h.letIn c).outbox o).offered text = ((h.greet c).outbox o).offered text := by
  simp only [letIn]
  split
  · cases (h.room c.principal.account).desktop with
    | none => rfl
    | some old => exact offered_pushClose _ _ _ _ _
  · rfl

theorem told_letIn (h : Hub) (c : Connection) (o : OutboxId) :
    ((h.letIn c).outbox o).told
      = (h.outbox o).offered
          (if c.outbox = o then some (Notice.greeting c.id).render else none) := by
  have hoffered := offered_letIn h c o none
  rw [Outbox.offered_none, Outbox.offered_none] at hoffered
  rw [hoffered, told_greet]

/-- A newcomer is greeted, and the mobiles of its account are told of a desktop. -/
def arrivalOffer (h : Hub) (c : Connection) (o : OutboxId) : Option String :=
  if c.outbox = o then some (Notice.greeting c.id).render
  else if c.principal.isDesktop then
    h.mobilesOf c.principal.account (presence true c.principal).render o
  else none

theorem desktop_letIn (h : Hub) (c : Connection) (account : AccountId) :
    ((h.letIn c).room account).desktop =
      if c.principal.account = account ∧ c.principal.isDesktop = true then some c
      else (h.room account).desktop := by
  rw [room_letIn]
  cases hk : c.principal.isDesktop <;> by_cases ha : c.principal.account = account <;>
    simp [ha, Room.withDesktop, Room.withMobile]

theorem mobiles_letIn {c : Connection} (hk : c.principal.isDesktop = true) :
    ((h.letIn c).room c.principal.account).mobiles = (h.room c.principal.account).mobiles := by
  rw [room_letIn, if_pos rfl, hk]
  rfl

/-- The outbox of a new desktop is its own, so no mobile of its room listens at it. -/
theorem not_listens_newcomer {c : Connection} (hc : (h.letIn c).Consistent)
    (hs : (h.letIn c).Separate) (hk : c.principal.isDesktop = true) :
    (h.room c.principal.account).listens c.outbox = false := by
  rw [Bool.eq_false_iff]
  intro hl
  obtain ⟨k, m, hm, hmo⟩ := Room.listens_iff.1 hl
  have hdesktop : ((h.letIn c).room c.principal.account).desktop = some c := by
    rw [desktop_letIn, if_pos ⟨rfl, hk⟩]
  have hmobile : ((h.letIn c).room c.principal.account).mobiles[k]? = some m := by
    rw [mobiles_letIn hk, hm]
  have heq : c = m := hs c m ⟨_, .inl hdesktop⟩ ⟨_, .inr ⟨k, hmobile⟩⟩ hmo.symm
  have hwf := hc.wellFormed c.principal.account
  have hid : c.id = k := by rw [heq]; exact (hwf.mobile k m hmobile).1
  exact hwf.apart c hdesktop (hid ▸ Table.mem_of_lookup hmobile)

theorem offers_register {c : Connection} (hc : (h.letIn c).Consistent)
    (hs : (h.letIn c).Separate) (hr : h.refusal? c = none) :
    Offers h (h.register c).1 (h.arrivalOffer c) fun account =>
      if c.principal.account = account ∧ c.principal.isDesktop = true then some c
      else (h.room account).desktop := by
  rw [register_eq, hr]
  dsimp only
  cases hk : c.principal.isDesktop with
  | false =>
    refine ⟨fun o => ?_, fun account => ?_⟩
    · simp only [Bool.false_eq_true, if_false, told_letIn, arrivalOffer, hk]
    · simp [desktop_letIn, hk]
  | true =>
    simp only [if_true]
    rw [announce_fst]
    refine ⟨fun o => ?_, fun account => ?_⟩
    · rw [told_tell hc hs, Room.listens_of_members (mobiles_letIn hk), arrivalOffer]
      by_cases ho : c.outbox = o
      · -- the greeting, and no announcement besides
        rw [← ho, not_listens_newcomer hc hs hk]
        simp [told_letIn]
      · rw [offered_letIn, outbox_greet_ne h ho]
        simp [ho, hk, mobilesOf]
    · simp [desktop_tell hc, desktop_letIn, hk]

/-! ## Passing on -/

@[simp] theorem outbox_forget (h : Hub) (account : AccountId) (sender : ConnectionId)
    (id : Option String) (o : OutboxId) :
    (h.forget account sender id).outbox o = h.outbox o := by
  unfold forget
  split <;> rfl

theorem offers_forget {offer : OutboxId → Option String} {slot : AccountId → Option Connection}
    (hg : Offers h g offer slot) (account : AccountId) (sender : ConnectionId)
    (id : Option String) : Offers h (g.forget account sender id) offer slot := by
  refine ⟨fun o => by rw [outbox_forget, hg.told], fun other => ?_⟩
  cases id with
  | none => exact hg.desktop other
  | some id =>
    rw [room_forget, ← hg.desktop other]
    split
    · rename_i ha
      rw [Room.kept_desktop, Room.forget_desktop, ha]
    · rfl

theorem desktop_remember (h : Hub) (account other : AccountId) (sender : ConnectionId)
    (m : Message) :
    ((h.remember account sender m).room other).desktop = (h.room other).desktop := by
  rw [room_remember]
  split
  · rename_i ha
    rw [Room.kept_desktop, Room.await_desktop, ha]
  · rfl

theorem mobiles_remember (h : Hub) (account other : AccountId) (sender : ConnectionId)
    (m : Message) :
    ((h.remember account sender m).room other).mobiles = (h.room other).mobiles := by
  rw [room_remember]
  split
  · rename_i ha
    rw [Room.kept_mobiles, Room.await_mobiles, ha]
  · rfl

/-- A command that is remembered and forgotten again has told nobody anything. -/
theorem offers_undone (h : Hub) (account : AccountId) (sender : ConnectionId) (m : Message) :
    Offers h ((h.remember account sender m).forget account sender m.id) (fun _ => none)
      fun account => (h.room account).desktop := by
  have hremember : Offers h (h.remember account sender m) (fun _ => none)
      fun account => (h.room account).desktop :=
    offers_nothing (fun _ => rfl) fun other => desktop_remember h account other sender m
  exact offers_forget hremember account sender m.id

theorem Separate.nodup_targets (hs : h.Separate) (hc : h.Consistent) (account : AccountId)
    (routing : Routing) (m : Message) :
    (((h.room account).answer routing m).2.map (·.outbox)).Nodup := by
  obtain heq | ⟨id, origin, t, -, -, heq, -⟩ := (h.room account).answer_targets routing m <;>
    rw [heq]
  · exact hs.nodup_values hc account
  · simp

/-! ## Every action -/

namespace Action

/-- An action that does not write to an outbox behind the hub's back. -/
def Spares (o : OutboxId) : Action → Prop
  | .attach o' _ | .push o' _ => o' ≠ o
  | _ => True

theorem tell?_of_ask? {a : Action} {sender : ConnectionId} {m : Message}
    (hask : a.ask? = some (sender, m)) : a.tell? = none := by
  cases a with
  | route c role text =>
    obtain ⟨m', hframe, -⟩ := Option.map_eq_some_iff.1 hask
    obtain ⟨-, rfl, -⟩ := frame?_eq_some.1 hframe
    have hnone : frame? .mobile .desktop Message.Family.toMobiles text = none := by
      rw [Option.eq_none_iff_forall_ne_some]
      intro m'' hf
      obtain ⟨-, hrole, -⟩ := frame?_eq_some.1 hf
      cases hrole
    simp [tell?, hnone]
  | toDesktop => rfl
  | _ => cases hask

end Action

/-- The command that an action puts into the outbox of a desktop. -/
def handed (h : Hub) (a : Action) : Option (Connection × Message) := do
  let (sender, m) ← a.ask?
  let account ← h.index[sender]?
  let d ← (h.room account).desktop
  if (h.toDesktop sender m).2.isOk then some (d, m) else none

/-- What the desktop of an account passes on to the mobiles. -/
def spoken (h : Hub) (a : Action) : Option (AccountId × Message) := do
  let (sender, m) ← a.tell?
  let account ← h.index[sender]?
  if (h.room account).isDesktop sender then some (account, m) else none

/-- All that an action can offer, and what becomes of the desktops. -/
inductive Tells (h : Hub) (a : Action) : Hub → Prop
  | nothing (g : Hub) : h.handed a = none → h.spoken a = none →
      (∀ o, a.Spares o → (g.outbox o).told = (h.outbox o).told) →
      (∀ account, (g.room account).desktop = (h.room account).desktop) → Tells h a g
  | arrived (c : Connection) : a = .register c → h.refusal? c = none →
      Offers h (h.register c).1 (h.arrivalOffer c)
        (fun account =>
          if c.principal.account = account ∧ c.principal.isDesktop = true then some c
          else (h.room account).desktop) →
      Tells h a (h.register c).1
  | announced (account : AccountId) (online : Bool) (device : Option DeviceId)
      (name : Option String) (g : Hub) : a = .announce account online device name →
      Offers h g (h.mobilesOf account (Notice.desktopStatus online device name).render)
        (fun account => (h.room account).desktop) →
      Tells h a g
  | left (account : AccountId) (d : Connection) (g : Hub) : h.handed a = none →
      h.spoken a = none → (h.room account).desktop = some d →
      Offers h g (h.mobilesOf account (presence false d.principal).render)
        (h.desktopsBut account) →
      Tells h a g
  | handed (d : Connection) (m : Message) (g : Hub) : h.handed a = some (d, m) →
      h.spoken a = none →
      Offers h g (fun o => if d.outbox = o then some m.raw else none)
        (fun account => (h.room account).desktop) →
      Tells h a g
  | spoken (account : AccountId) (m : Message) (g : Hub) : h.handed a = none →
      h.spoken a = some (account, m) →
      Offers h g
        (fun o => if ((h.room account).answer h.config.routing m).2.any (·.outbox = o)
          then some m.raw else none)
        (fun account => (h.room account).desktop) →
      Tells h a g

variable {a : Action} {sender : ConnectionId} {m : Message}

theorem handed_of_ok {d : Connection} (hask : a.ask? = some (sender, m))
    (hok : (h.toDesktop sender m).2 = .ok ()) (hi : h.index[sender]? = some account)
    (hd : (h.room account).desktop = some d) : h.handed a = some (d, m) := by
  simp [handed, hask, hi, hd, hok, Except.isOk, Except.toBool]

theorem handed_of_error {e : Refusal} (hask : a.ask? = some (sender, m))
    (he : (h.toDesktop sender m).2 = .error e) : h.handed a = none := by
  simp [handed, hask, he, Except.isOk, Except.toBool]

theorem handed_eq_some {d : Connection} :
    h.handed a = some (d, m) ↔ ∃ sender account, a.ask? = some (sender, m) ∧
      h.index[sender]? = some account ∧ (h.room account).desktop = some d ∧
      (h.toDesktop sender m).2 = .ok () := by
  constructor
  · intro hhanded
    obtain ⟨⟨sender, m'⟩, hask, hhanded⟩ := Option.bind_eq_some_iff.1 hhanded
    obtain ⟨account, hi, hhanded⟩ := Option.bind_eq_some_iff.1 hhanded
    obtain ⟨d', hd, hhanded⟩ := Option.bind_eq_some_iff.1 hhanded
    split at hhanded
    · next hok =>
      cases hhanded
      refine ⟨sender, account, hask, hi, hd, ?_⟩
      cases hres : (h.toDesktop sender m).2 with
      | ok _ => rfl
      | error e =>
        rw [hres] at hok
        cases hok
    · cases hhanded
  · rintro ⟨sender, account, hask, hi, hd, hok⟩
    exact handed_of_ok hask hok hi hd

theorem spoken_of_desktop (htell : a.tell? = some (sender, m))
    (hi : h.index[sender]? = some account) (hd : (h.room account).isDesktop sender = true) :
    h.spoken a = some (account, m) := by
  simp [spoken, htell, hi, hd]

theorem tells_toDesktop (hc : h.Consistent) (hs : h.Separate)
    (hask : a.ask? = some (sender, m)) : Tells h a (h.toDesktop sender m).1 := by
  have hspoken : h.spoken a = none := by simp [spoken, Action.tell?_of_ask? hask]
  have hok : ∀ account d, (h.toDesktop sender m).2 = .ok () → h.index[sender]? = some account →
      (h.room account).desktop = some d → h.handed a = some (d, m) :=
    fun _ _ => handed_of_ok hask
  have hnone : ∀ e, (h.toDesktop sender m).2 = .error e → h.handed a = none :=
    fun _ => handed_of_error hask
  have hcases := commanding h sender m
  generalize h.toDesktop sender m = out at hcases hnone hok
  cases hcases with
  | unknown | stranger | offline =>
    exact .nothing h (hnone _ rfl) hspoken (fun _ _ => rfl) fun _ => rfl
  | passed account d b hi _ hd hb =>
    refine .handed d m _ (hok account d rfl hi hd) hspoken
      ⟨fun o => ?_, fun other => desktop_remember h account other sender m⟩
    rw [outbox_setOutbox]
    split
    · rename_i ho
      subst ho
      rw [Outbox.told_pushText hb, Outbox.offered_of_takes (Outbox.takes_of_pushText hb)]
    · rw [Outbox.offered_none]
      rfl
  | busy account d =>
    have hsame := offers_undone h account sender m
    refine .nothing _ (hnone _ rfl) hspoken (fun o _ => ?_) hsame.desktop
    rw [hsame.told, Outbox.offered_none]
  | lost account d k hi hm hd _ _ hk =>
    -- before the desktop leaves, the command is remembered, and the desktop may get a close
    have hrem : Gains (fun _ => False) _ h _ := gains_remember h account sender m
    have hdesk := fun other => desktop_remember h account other sender m
    have hmob := mobiles_remember h account account sender m
    have hleave : Offers h (k.deregister d.id).1 (h.mobilesOf account
        (presence false d.principal).render) (h.desktopsBut account) := by
      obtain rfl | rfl := hk
      · exact offers_leave (hc.remember account sender m) (hs.gains hrem) (by rw [hdesk, hd])
          hmob hdesk fun _ _ => rfl
      · refine offers_leave
          (Consistent.keptByDelivery.hubPushClose _ _ (hc.remember account sender m))
          ((hs.gains hrem).recedes (pushClose_recedes _ _ _)) ?_ ?_ ?_ ?_
        · rw [pushClose_room, hdesk, hd]
        · rw [pushClose_room, hmob]
        · exact fun other => by rw [pushClose_room, hdesk]
        · exact fun o text => offered_pushClose _ _ _ _ _
    exact .left account d _ (hnone _ rfl) hspoken hd (offers_forget hleave account sender m.id)

theorem tells_toMobiles (hc : h.Consistent) (hs : h.Separate)
    (htell : a.tell? = some (sender, m)) : Tells h a (h.toMobiles sender m).1 := by
  have hhanded : h.handed a = none := by
    cases hask : a.ask? with
    | none => simp [handed, hask]
    | some ask => simp [Action.tell?_of_ask? hask] at htell
  have hcases := answering h sender m
  generalize h.toMobiles sender m = out at hcases
  cases hcases with
  | unknown hi =>
    exact .nothing h hhanded (by simp [spoken, htell, hi]) (fun _ _ => rfl) fun _ => rfl
  | stranger account hi hd =>
    exact .nothing h hhanded (by simp [spoken, htell, hi, hd]) (fun _ _ => rfl) fun _ => rfl
  | passed account room targets hi hd ha =>
    -- `answer` takes an entry out of the room, and nobody: the targets are still in it
    obtain ⟨hdesk, hmob⟩ := Room.members_of_answer ha
    have htargets : ((h.room account).answer h.config.routing m).2 = targets := by rw [ha]
    have hg : Gains (fun _ => False) (fun _ _ _ => False) h _ := gains_answer ha
    have hroom : ((h.setRoom account room).room account).mobiles = (h.room account).mobiles := by
      rw [room_setRoom, if_pos rfl, Room.kept_mobiles, hmob]
    have hc' := hc.setRoom_of_members hdesk hmob
    have hmem : ∀ t ∈ targets, ∃ k : ConnectionId,
        ((h.setRoom account room).room account).mobiles[k]? = some t := by
      rw [hroom, ← htargets]
      exact fun t => Room.lookup_of_answer
    refine .spoken account m _ hhanded (spoken_of_desktop htell hi hd)
      ⟨fun o => ?_, fun other => ?_⟩
    · rw [deliver_fst, told_parcels hc' hmem (htargets ▸ hs.nodup_targets hc account _ m), htargets]
      rfl
    · rw [deliver_fst, desktop_deliverAll (hc'.quiet_parcels hmem m.raw), room_setRoom]
      split
      · rename_i hother
        rw [Room.kept_desktop, hdesk, hother]
      · rfl

theorem tells_deregister (hc : h.Consistent) (hs : h.Separate) (c : ConnectionId) :
    Tells h (.deregister c) (h.deregister c).1 := by
  obtain hsame | ⟨account, d, hd, -, hleft⟩ := offers_deregister hc hs c
  · exact .nothing _ rfl rfl (fun o _ => by rw [hsame.told, Outbox.offered_none]) hsame.desktop
  · exact .left account d _ rfl rfl hd hleft

theorem tells_evict (hc : h.Consistent) (hs : h.Separate) (account : AccountId)
    (device : DeviceId) : Tells h (.evict account device) (h.evict account device).1 := by
  obtain hsame | ⟨d, hd, hleft⟩ := offers_evict hc hs account device
  · exact .nothing _ rfl rfl (fun o _ => by rw [hsame.told, Outbox.offered_none]) hsame.desktop
  · exact .left account d _ rfl rfl hd hleft

variable {cs : List Connection}

theorem tells_register (hs : Settled cs h) {c : Connection} (hc : c ∈ cs)
    (hnew : c.id ∉ h.index) : Tells h (.register c) (h.register c).1 := by
  cases hr : h.refusal? c with
  | some e =>
    have heq : (h.register c).1 = h := by rw [register_eq, hr]
    rw [heq]
    exact .nothing h rfl rfl (fun _ _ => rfl) fun _ => rfl
  | none =>
    exact .arrived c rfl hr (offers_register (hs.consistent.letIn hr hnew)
      ((hs.peopled.letIn hc).separate hs.owned) hr)

/-- What an action does to outboxes only tells nothing, unless it writes to one itself. -/
theorem tells_quiet {g : Hub} (hask : a.ask? = none) (htell : a.tell? = none)
    (htold : ∀ o, a.Spares o → (g.outbox o).told = (h.outbox o).told)
    (hrooms : g.rooms = h.rooms) : Tells h a g := by
  refine .nothing g (by simp [handed, hask]) (by simp [spoken, htell]) htold fun account => ?_
  rw [room_eq, hrooms, room_eq]

theorem tells_next (hs : Settled cs h)
    (hnew : ∀ c, a = .register c → c ∈ cs ∧ c.id ∉ h.index) : Tells h a (h.next a) := by
  have hc := hs.consistent
  cases a with
  | attach o capacity =>
    exact tells_quiet rfl rfl (fun o' ho => by rw [next, step, outbox_setOutbox_ne _ _ ho]) rfl
  | register c => exact tells_register hs (hnew c rfl).1 (hnew c rfl).2
  | deregister c => exact tells_deregister hc hs.separate c
  | toDesktop sender m => exact tells_toDesktop hc hs.separate rfl
  | toMobiles sender m => exact tells_toMobiles hc hs.separate rfl
  | route sender role text =>
    -- to the hub a frame is nothing, a command, or a message of the desktop
    obtain ⟨hask, htell, heq⟩ | ⟨m, hask, heq⟩ | ⟨m, htell, heq⟩ :=
      route_cases h sender role text
    · exact tells_quiet hask htell (fun o _ => congrArg (fun g => (g.outbox o).told) heq)
        (congrArg Hub.rooms heq)
    · rw [next_of_ask? hask]
      exact tells_toDesktop hc hs.separate hask
    · rw [next_of_tell? htell]
      exact tells_toMobiles hc hs.separate htell
  | announce account online device name =>
    exact .announced account online device name _ rfl (offers_announce hc hs.separate account _)
  | evict account device => exact tells_evict hc hs.separate account device
  -- from here on an action works on one outbox, and on no room
  | push o text =>
    refine tells_quiet rfl rfl (fun o' ho => ?_) ?_
    · simp only [next, step]
      split
      · rename_i h' hp
        obtain ⟨b, -, rfl⟩ := push_eq_ok.1 hp
        rw [outbox_setOutbox_ne _ _ ho]
      · rfl
    · simp only [next, step]
      split
      · rename_i h' hp
        obtain ⟨b, -, rfl⟩ := push_eq_ok.1 hp
        rfl
      · rfl
  | pushClose o reason =>
    exact tells_quiet rfl rfl (fun o' _ => told_pushClose h o o' reason)
      (pushClose_rooms h o reason)
  | handle o release =>
    refine tells_quiet rfl rfl (fun o' _ => ?_) ?_
    · simp only [next, step]
      split
      · rename_i item b hb
        rw [outbox_setOutbox]
        split
        · rename_i ho
          rw [Outbox.told_handle hb, ho]
        · rfl
      · rfl
    · simp only [next, step]
      split <;> rfl
  | release o | stop o =>
    refine tells_quiet rfl rfl (fun o' _ => ?_) rfl
    simp only [next, step, changeOutbox]
    rw [outbox_setOutbox]
    split
    · rename_i ho
      rw [← ho]
      rfl
    · rfl

end Switchboard.Hub
