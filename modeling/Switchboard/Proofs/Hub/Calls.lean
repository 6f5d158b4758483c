import Switchboard.Hub.Forward
import Switchboard.Proofs.Hub.Delivery

/-! # What the calls of the hub can do

One relation for each call lists everything that the call can do, with what led to it;
the theorem beside it says that the list is complete.  What is proved of a call
elsewhere goes through its cases and not through its definition.

* `deliverTo_ok`, `deliverTo_error` — delivering one text;
* `deliverAll_append`, `deliver_fst` — delivering several;
* `Registering`, `Evicting` — coming, and being sent away;
* `Commanding`, `Answering` — passing on what a mobile and what a desktop says.
-/

namespace Switchboard.Hub

/-! ## One text -/

theorem deliverTo_ok {h : Hub} {p : Parcel} {b : Outbox}
    (hb : (h.outbox p.outbox).pushText p.text = .ok b) :
    h.deliverTo p = (h.setOutbox p.outbox b, .ok ()) := by
  unfold deliverTo
  rw [push_eq_ok.2 ⟨b, hb, rfl⟩]

theorem deliverTo_error {h : Hub} {p : Parcel} {e : Outbox.Refusal}
    (he : (h.outbox p.outbox).pushText p.text = .error e) :
    h.deliverTo p = ((h.undelivered p e).1.deliverAll (h.undelivered p e).2, .error e) := by
  unfold deliverTo
  rw [push_eq_error.2 he]

/-! ## Several texts -/

theorem deliverAll_ok {h : Hub} {p : Parcel} {b : Outbox} (ps : List Parcel)
    (hb : (h.outbox p.outbox).pushText p.text = .ok b) :
    h.deliverAll (p :: ps) = (h.setOutbox p.outbox b).deliverAll ps := by
  rw [deliverAll]
  split
  · rename_i h' hp
    rw [push_eq_ok.2 ⟨b, hb, rfl⟩] at hp
    cases hp
    rfl
  · rename_i e hp
    rw [push_eq_ok.2 ⟨b, hb, rfl⟩] at hp
    cases hp

theorem deliverAll_error {h : Hub} {p : Parcel} {e : Outbox.Refusal} (ps : List Parcel)
    (he : (h.outbox p.outbox).pushText p.text = .error e) :
    h.deliverAll (p :: ps)
      = (h.undelivered p e).1.deliverAll ((h.undelivered p e).2 ++ ps) := by
  rw [deliverAll]
  split
  · rename_i h' hp
    rw [push_eq_error.2 he] at hp
    cases hp
  · rename_i e' hp
    rw [push_eq_error.2 he] at hp
    cases hp
    rfl

/-- What comes up on the way is told before the rest. -/
theorem deliverAll_append (h : Hub) (ps qs : List Parcel) :
    h.deliverAll (ps ++ qs) = (h.deliverAll ps).deliverAll qs := by
  fun_induction deliverAll h ps with
  | case1 h => rfl
  | case2 h p ps h' hp ih =>
    obtain ⟨b, hb, rfl⟩ := push_eq_ok.1 hp
    rw [List.cons_append, deliverAll_ok (ps ++ qs) hb, ih]
  | case3 h p ps e hp h' more hu ih =>
    rw [List.cons_append, deliverAll_error (ps ++ qs) (push_eq_error.1 hp), hu,
      ← List.append_assoc, ih]

/-- Texts that are counted change the hub as those do that are not. -/
theorem deliver_fst (h : Hub) (ps : List Parcel) : (h.deliver ps).1 = h.deliverAll ps := by
  induction ps generalizing h with
  | nil => rw [deliver, deliverAll]
  | cons p ps ih =>
    cases hb : (h.outbox p.outbox).pushText p.text with
    | ok b => rw [deliver, deliverTo_ok hb, deliverAll_ok ps hb, ← ih]
    | error e =>
      rw [deliver, deliverTo_error hb, deliverAll_error ps hb, deliverAll_append, ← ih]

/-- A connection that is not registered leaves nothing behind, so it makes no difference that
it is not looked for. -/
theorem deregister_fst (h : Hub) (c : ConnectionId) :
    (h.deregister c).1 = (h.detach c).1.deliverAll (h.detach c).2 := by
  unfold deregister
  split
  · rfl
  · rename_i hc
    rw [detach_of_not_mem hc, deliverAll]

/-- Whoever has left is not registered. -/
theorem not_mem_deregister (h : Hub) (c : ConnectionId) : c ∉ (h.deregister c).1.index := by
  rw [deregister_fst]
  exact (deliverAll_recedes _ _).not_mem (not_mem_detach h c)

/-! ## Coming -/

/-- The hub that a connection has entered, before anybody is told of it. -/
def letIn (h : Hub) (c : Connection) : Hub :=
  let entered := (h.greet c).enter c
  if c.principal.isDesktop then entered.dismiss (h.room c.principal.account).desktop else entered

theorem room_enter (h : Hub) (c : Connection) (account : AccountId) :
    (h.enter c).room account =
      if c.principal.account = account then
        if c.principal.isDesktop then (h.room account).withDesktop c
        else (h.room account).withMobile c
      else h.room account := by
  refine (room_setRoom h c.principal.account account _).trans ?_
  by_cases ha : c.principal.account = account
  · subst ha
    -- the connection itself is there, so nothing is dropped
    cases c.principal.isDesktop with
    | true => simp [Room.kept_of_holds (Room.holds_withDesktop.2 (.inl rfl))]
    | false => simp [Room.kept_of_holds (Room.holds_withMobile.2 (.inl rfl))]
  · simp [ha]

@[simp] theorem room_dismiss (h : Hub) (old : Option Connection) (account : AccountId) :
    (h.dismiss old).room account = h.room account := by
  cases old with
  | none => rfl
  | some old => exact pushClose_room _ _ _ _

@[simp] theorem letIn_config (h : Hub) (c : Connection) : (h.letIn c).config = h.config := by
  have henter : ((h.greet c).enter c).config = h.config := by simp [enter]
  simp only [letIn]
  split
  · cases (h.room c.principal.account).desktop with
    | none => exact henter
    | some old => exact (pushClose_config _ _ _).trans henter
  · exact henter

/-- Only the room of the connection's account is different. -/
theorem room_letIn (h : Hub) (c : Connection) (account : AccountId) :
    (h.letIn c).room account =
      if c.principal.account = account then
        if c.principal.isDesktop then (h.room account).withDesktop c
        else (h.room account).withMobile c
      else h.room account := by
  have hentered : (h.letIn c).room account = ((h.greet c).enter c).room account := by
    simp only [letIn]
    split
    · simp
    · rfl
  rw [hentered, room_enter, greet_room]

/-- A connection is let in only if there is a place for it; a desktop may take that of
the desktop before it. -/
theorem places_of_refusal? {h : Hub} {c : Connection} (hr : h.refusal? c = none) :
    (h.room c.principal.account).mobiles.size < h.config.maxConnections ∧
      (c.principal.isDesktop = false →
        (h.room c.principal.account).size < h.config.maxConnections) := by
  unfold refusal? at hr
  dsimp only at hr
  have hplaces : ¬ h.config.maxConnections ≤ (h.room c.principal.account).size -
      (if c.principal.isDesktop = true ∧ (h.room c.principal.account).desktop.isSome = true
        then 1 else 0) := by
    intro hfull
    rw [if_pos hfull] at hr
    split at hr <;> cases hr
  rw [Nat.not_le] at hplaces
  -- a desktop that is to be replaced is counted in the room, and taken off again
  unfold Room.size at hplaces ⊢
  constructor
  · cases hd : (h.room c.principal.account).desktop.isSome <;>
      cases hk : c.principal.isDesktop <;> simp [hd, hk] at hplaces <;> omega
  · intro hk
    simpa [hk] using hplaces

/-- What registering a connection can do. -/
inductive Registering (h : Hub) (c : Connection) : Hub × Except Refusal ConnectionId → Prop
  | refused (e : Refusal) : h.refusal? c = some e → Registering h c (h, .error e)
  | mobile : h.refusal? c = none → c.principal.isDesktop = false →
      Registering h c (h.letIn c, .ok c.id)
  | desktop : h.refusal? c = none → c.principal.isDesktop = true →
      Registering h c
        (((h.letIn c).announce c.principal.account (presence true c.principal)).1, .ok c.id)

theorem register_eq (h : Hub) (c : Connection) :
    h.register c =
      match h.refusal? c with
      | some e => (h, .error e)
      | none =>
        if c.principal.isDesktop then
          (((h.letIn c).announce c.principal.account (presence true c.principal)).1, .ok c.id)
        else (h.letIn c, .ok c.id) := by
  unfold register letIn
  cases h.refusal? c with
  | some e => rfl
  | none => cases c.principal.isDesktop <;> rfl

theorem registering (h : Hub) (c : Connection) : Registering h c (h.register c) := by
  rw [register_eq]
  cases hr : h.refusal? c with
  | some e => exact .refused e hr
  | none =>
    cases hd : c.principal.isDesktop with
    | false => exact .mobile hr hd
    | true => exact .desktop hr hd

/-! ## Being sent away -/

/-- The hub that a desktop has been sent away from, before anybody is told of it. -/
def expel (h : Hub) (account : AccountId) (d : Connection) : Hub :=
  ({ h with index := h.index.erase d.id }.setRoom account
    (h.room account).withoutDesktop).pushClose d.outbox unpairedReason

theorem room_expel (h : Hub) (account other : AccountId) (d : Connection) :
    (h.expel account d).room other =
      if account = other then (h.room account).withoutDesktop.kept else h.room other := by
  unfold expel
  rw [pushClose_room, room_setRoom]
  rfl

/-- What sending away a device's desktop can do. -/
inductive Evicting (h : Hub) (account : AccountId) (device : DeviceId) : Hub × Bool → Prop
  | absent : (∀ d, (h.room account).desktop = some d → d.principal.device ≠ some device) →
      Evicting h account device (h, false)
  | evicted (d : Connection) : (h.room account).desktop = some d →
      d.principal.device = some device →
      Evicting h account device
        (((h.expel account d).announce account (presence false d.principal)).1, true)

theorem evicting (h : Hub) (account : AccountId) (device : DeviceId) :
    Evicting h account device (h.evict account device) := by
  unfold evict
  dsimp only
  cases hd : (h.room account).desktop with
  | none => exact .absent (by rw [hd]; simp)
  | some d =>
    dsimp only
    by_cases hdev : d.principal.device = some device
    · rw [if_pos hdev]
      exact .evicted d hd hdev
    · rw [if_neg hdev]
      refine .absent fun d' hd' => ?_
      rw [hd] at hd'
      cases hd'
      exact hdev

/-! ## From a mobile to the desktop -/

/-- The hub that remembers who sent a command, before the desktop gets it. -/
def remember (h : Hub) (account : AccountId) (sender : ConnectionId) (m : Message) : Hub :=
  h.setRoom account ((h.room account).await h.config.routing sender m)

theorem room_remember (h : Hub) (account other : AccountId) (sender : ConnectionId)
    (m : Message) : (h.remember account sender m).room other =
      if account = other then ((h.room account).await h.config.routing sender m).kept
      else h.room other :=
  room_setRoom h account other _

theorem room_forget (h : Hub) (account other : AccountId) (sender : ConnectionId)
    (id : String) : (h.forget account sender (some id)).room other =
      if account = other then ((h.room account).forget sender id).kept else h.room other := by
  unfold forget
  cases hr : h.rooms[account]? with
  | some r =>
    dsimp only
    rw [room_setRoom, room_of_lookup hr]
  | none =>
    dsimp only
    split
    · rename_i ha
      rw [← ha, room_of_lookup_none hr]
      simp [Room.forget, Room.empty, Room.kept, Room.isEmpty, Room.size]
    · rfl

@[simp] theorem forget_none (h : Hub) (account : AccountId) (sender : ConnectionId) :
    h.forget account sender none = h := rfl

@[simp] theorem forget_index (h : Hub) (account : AccountId) (sender : ConnectionId)
    (id : Option String) : (h.forget account sender id).index = h.index := by
  unfold forget
  split <;> rfl

/-- What passing on a mobile's message can do. -/
inductive Commanding (h : Hub) (sender : ConnectionId) (m : Message) :
    Hub × Except Refusal Unit → Prop
  | unknown : h.index[sender]? = none → Commanding h sender m (h, .error .notRegistered)
  | stranger (account : AccountId) : h.index[sender]? = some account →
      sender ∉ (h.room account).mobiles → Commanding h sender m (h, .error .notRegistered)
  | offline (account : AccountId) : h.index[sender]? = some account →
      sender ∈ (h.room account).mobiles → (h.room account).desktop = none →
      Commanding h sender m (h, .error .desktopOffline)
  | passed (account : AccountId) (d : Connection) (b : Outbox) :
      h.index[sender]? = some account → sender ∈ (h.room account).mobiles →
      (h.room account).desktop = some d → (h.outbox d.outbox).pushText m.raw = .ok b →
      Commanding h sender m ((h.remember account sender m).setOutbox d.outbox b, .ok ())
  | busy (account : AccountId) (d : Connection) :
      h.index[sender]? = some account → sender ∈ (h.room account).mobiles →
      (h.room account).desktop = some d → (h.outbox d.outbox).pushText m.raw = .error .full →
      h.config.overflow = .dropNewest →
      Commanding h sender m
        ((h.remember account sender m).forget account sender m.id, .error .desktopBusy)
  | lost (account : AccountId) (d : Connection) (k : Hub) :
      h.index[sender]? = some account → sender ∈ (h.room account).mobiles →
      (h.room account).desktop = some d →
      (h.remember account sender m).Delivered (k.deregister d.id).1 →
      d.id ∉ (k.deregister d.id).1.index →
      (k = h.remember account sender m ∨
        k = (h.remember account sender m).pushClose d.outbox overflowReason) →
      Commanding h sender m
        ((k.deregister d.id).1.forget account sender m.id, .error .desktopOffline)

/-- What becomes of a mobile's command is settled by whether it is delivered. -/
theorem toDesktop_eq {h : Hub} {sender : ConnectionId} {m : Message} {account : AccountId}
    {d : Connection} (hi : h.index[sender]? = some account)
    (hm : sender ∈ (h.room account).mobiles) (hd : (h.room account).desktop = some d) :
    h.toDesktop sender m =
      match (h.remember account sender m).deliverTo ⟨d.id, d.outbox, m.raw⟩ with
      | (g, .ok _) => (g, .ok ())
      | (g, .error e) =>
        (g.forget account sender m.id, .error (commandRefusal g.config.overflow e)) := by
  unfold toDesktop
  simp only [hi, hm, hd, if_true]
  rfl

/-- A command for a desktop that has no room for it, if texts that do not fit are dropped. -/
theorem toDesktop_busy {h : Hub} {sender : ConnectionId} {m : Message} {account : AccountId}
    {d : Connection} (hi : h.index[sender]? = some account)
    (hm : sender ∈ (h.room account).mobiles) (hd : (h.room account).desktop = some d)
    (hfull : (h.outbox d.outbox).pushText m.raw = .error .full)
    (ho : h.config.overflow = .dropNewest) :
    h.toDesktop sender m
      = ((h.remember account sender m).forget account sender m.id, .error .desktopBusy) := by
  have hconf : (h.remember account sender m).config = h.config := rfl
  have hdel : (h.remember account sender m).deliverTo ⟨d.id, d.outbox, m.raw⟩
      = (h.remember account sender m, .error .full) := by
    have hnothing : (h.remember account sender m).undelivered ⟨d.id, d.outbox, m.raw⟩ .full
        = (h.remember account sender m, []) := by
      unfold undelivered
      rw [hconf, ho]
    rw [deliverTo_error hfull, hnothing, deliverAll]
  rw [toDesktop_eq hi hm hd, hdel]
  dsimp only
  rw [hconf, commandRefusal, if_pos ⟨rfl, ho⟩]

/-- A desktop that has ended, or that does not keep up and is closed for it, is taken out of
the hub by the command that it does not get. -/
theorem toDesktop_lost {h : Hub} {sender : ConnectionId} {m : Message} {account : AccountId}
    {d : Connection} {e : Outbox.Refusal} (hi : h.index[sender]? = some account)
    (hm : sender ∈ (h.room account).mobiles) (hd : (h.room account).desktop = some d)
    (he : (h.outbox d.outbox).pushText m.raw = .error e)
    (hlost : ¬ (e = .full ∧ h.config.overflow = .dropNewest)) :
    ∃ k, (k = h.remember account sender m ∨
        k = (h.remember account sender m).pushClose d.outbox overflowReason) ∧
      h.toDesktop sender m
        = ((k.deregister d.id).1.forget account sender m.id, .error .desktopOffline) := by
  have hconf : (h.remember account sender m).config = h.config := rfl
  have hund : ∃ k, (k = h.remember account sender m ∨
        k = (h.remember account sender m).pushClose d.outbox overflowReason) ∧
      (h.remember account sender m).undelivered ⟨d.id, d.outbox, m.raw⟩ e = k.detach d.id := by
    unfold undelivered
    rw [hconf]
    cases e with
    | closed => exact ⟨_, .inl rfl, rfl⟩
    | full =>
      cases ho : h.config.overflow with
      | close => exact ⟨_, .inr rfl, rfl⟩
      | dropNewest => exact absurd ⟨rfl, ho⟩ hlost
  obtain ⟨k, hk, heq⟩ := hund
  refine ⟨k, hk, ?_⟩
  have hconf' : (k.deregister d.id).1.config = h.config := by
    rw [((Recedes.keptByDelivery k).deregister d.id (.refl k)).config]
    obtain rfl | rfl := hk
    · rfl
    · rw [pushClose_config, hconf]
  rw [toDesktop_eq hi hm hd, deliverTo_error (e := e) he, heq, ← deregister_fst]
  dsimp only
  rw [hconf', commandRefusal, if_neg hlost]

theorem commanding (h : Hub) (sender : ConnectionId) (m : Message) :
    Commanding h sender m (h.toDesktop sender m) := by
  cases hi : h.index[sender]? with
  | none =>
    unfold toDesktop
    rw [hi]
    exact .unknown hi
  | some account =>
    by_cases hm : sender ∈ (h.room account).mobiles
    · cases hd : (h.room account).desktop with
      | none =>
        unfold toDesktop
        simp only [hi, hm, hd, if_true]
        exact .offline account hi hm hd
      | some d =>
        have hconf : (h.remember account sender m).config = h.config := rfl
        cases hb : (h.outbox d.outbox).pushText m.raw with
        | ok b =>
          rw [toDesktop_eq hi hm hd, deliverTo_ok (b := b) hb]
          exact .passed account d b hi hm hd hb
        | error e =>
          by_cases hfull : e = .full ∧ h.config.overflow = .dropNewest
          · obtain ⟨rfl, ho⟩ := hfull
            rw [toDesktop_busy hi hm hd hb ho]
            exact .busy account d hi hm hd hb ho
          · -- the desktop is taken out of the hub, and whoever has to know is told
            obtain ⟨k, hk, heq⟩ := toDesktop_lost hi hm hd hb hfull
            rw [heq]
            refine .lost account d k hi hm hd (fun P kept hP => kept.deregister d.id ?_) ?_ hk
            · obtain rfl | rfl := hk
              · exact hP
              · exact kept.hubPushClose d.outbox overflowReason hP
            · exact not_mem_deregister k d.id
    · unfold toDesktop
      simp only [hi, hm, if_false]
      exact .stranger account hi hm

/-! ## From the desktop to the mobiles -/

/-- What passing on a desktop's message can do. -/
inductive Answering (h : Hub) (sender : ConnectionId) (m : Message) :
    Hub × Except Refusal Nat → Prop
  | unknown : h.index[sender]? = none → Answering h sender m (h, .error .notRegistered)
  | stranger (account : AccountId) : h.index[sender]? = some account →
      (h.room account).isDesktop sender = false →
      Answering h sender m (h, .error .notRegistered)
  | passed (account : AccountId) (room : Room) (targets : List Connection) :
      h.index[sender]? = some account → (h.room account).isDesktop sender = true →
      (h.room account).answer h.config.routing m = (room, targets) →
      Answering h sender m
        (((h.setRoom account room).deliver (parcels targets m.raw)).1,
          .ok ((h.setRoom account room).deliver (parcels targets m.raw)).2)

theorem answering (h : Hub) (sender : ConnectionId) (m : Message) :
    Answering h sender m (h.toMobiles sender m) := by
  unfold toMobiles
  cases hi : h.index[sender]? with
  | none => exact .unknown hi
  | some account =>
    dsimp only
    cases hd : (h.room account).isDesktop sender with
    | false => exact .stranger account hi hd
    | true => exact .passed account _ _ hi hd rfl

end Switchboard.Hub
