import Switchboard.Proofs.Hub.Commuting
import Switchboard.Proofs.Hub.Registration

/-! # The order in which mobiles are told

A room keeps its mobiles in no order that anybody may rely on.  The relations here leave open in
which order the mobiles of a room are told something, wherever a call of the hub tells them,
also where one telling leads to another.  In every hub that a run leads to they allow exactly
what the hub does, so the order does not matter; and of several mobiles that are told something
each fares as its own outbox has it.

* `Spreads`, `Delivers`, `Broadcasts` — telling in any order;
* `Commands`, `Messages`, `UnorderedStep` — what may come of an action if the order is left open;
* `Tidy` — hubs in which rooms and index agree and outboxes are not shared;
* `Spreads.eq`, `Delivers.eq`, `broadcasts_iff` — the order does not matter for a telling;
* `unorderedStep_iff` — nor for any action;
* `Fanning`, `FansOut`, `fansOut_next` — whom an action tells what, and how they fare;
* `order_immaterial` — both, in every run.
-/

namespace Switchboard.Hub

variable {h g k : Hub} {a : Action} {ps : List Parcel} {targets : List Connection} {text : String}
  {account : AccountId} {n : Nat} {cs : List Connection}

/-! ## Telling in any order -/

/-- Everything in a list is told, and whatever comes up on the way, in some order, before the
rest. -/
inductive Spreads : Hub → List Parcel → Hub → Prop
  | done (h : Hub) : Spreads h [] h
  | sent {h g k : Hub} {p : Parcel} {ps : List Parcel} : h.push p.outbox p.text = .ok k →
      Spreads k ps g → Spreads h (p :: ps) g
  | refused {h g : Hub} {p : Parcel} {ps more : List Parcel} {e : Outbox.Refusal} :
      h.push p.outbox p.text = .error e → more.Perm (h.undelivered p e).2 →
      Spreads (h.undelivered p e).1 (more ++ ps) g → Spreads h (p :: ps) g

/-- Texts are put into outboxes, one after the other, and those that get there are counted.
Whatever comes up because of one of them is told in some order before the next. -/
inductive Delivers : Hub → List Parcel → Hub → Nat → Prop
  | done (h : Hub) : Delivers h [] h 0
  | sent {h g k : Hub} {p : Parcel} {ps : List Parcel} {n : Nat} :
      h.push p.outbox p.text = .ok k → Delivers k ps g n → Delivers h (p :: ps) g (n + 1)
  | refused {h g k : Hub} {p : Parcel} {ps more : List Parcel} {e : Outbox.Refusal} {n : Nat} :
      h.push p.outbox p.text = .error e → more.Perm (h.undelivered p e).2 →
      Spreads (h.undelivered p e).1 more k → Delivers k ps g n → Delivers h (p :: ps) g n

/-- Some connections are told the same, in some order. -/
def Broadcasts (h : Hub) (targets : List Connection) (text : String) (g : Hub) (n : Nat) : Prop :=
  ∃ ts, ts.Perm targets ∧ Delivers h (parcels ts text) g n

/-! ## Calls -/

/-- What may come of a mobile's command. -/
inductive Commands (h : Hub) (sender : ConnectionId) (m : Message) :
    Hub → Except Refusal Unit → Prop
  | unknown : h.index[sender]? = none → Commands h sender m h (.error .notRegistered)
  | stranger (account : AccountId) : h.index[sender]? = some account →
      sender ∉ (h.room account).mobiles → Commands h sender m h (.error .notRegistered)
  | offline (account : AccountId) : h.index[sender]? = some account →
      sender ∈ (h.room account).mobiles → (h.room account).desktop = none →
      Commands h sender m h (.error .desktopOffline)
  | passed (account : AccountId) (d : Connection) (g : Hub) : h.index[sender]? = some account →
      sender ∈ (h.room account).mobiles → (h.room account).desktop = some d →
      (h.remember account sender m).push d.outbox m.raw = .ok g → Commands h sender m g (.ok ())
  | lost (account : AccountId) (d : Connection) (e : Outbox.Refusal) (more : List Parcel)
      (g : Hub) : h.index[sender]? = some account → sender ∈ (h.room account).mobiles →
      (h.room account).desktop = some d →
      (h.remember account sender m).push d.outbox m.raw = .error e →
      more.Perm ((h.remember account sender m).undelivered ⟨d.id, d.outbox, m.raw⟩ e).2 →
      Spreads ((h.remember account sender m).undelivered ⟨d.id, d.outbox, m.raw⟩ e).1 more g →
      Commands h sender m (g.forget account sender m.id)
        (.error (commandRefusal g.config.overflow e))

/-- What may come of a desktop's message. -/
inductive Messages (h : Hub) (sender : ConnectionId) (m : Message) :
    Hub → Except Refusal Nat → Prop
  | unknown : h.index[sender]? = none → Messages h sender m h (.error .notRegistered)
  | stranger (account : AccountId) : h.index[sender]? = some account →
      (h.room account).isDesktop sender = false → Messages h sender m h (.error .notRegistered)
  | passed (account : AccountId) (room : Room) (targets : List Connection) (g : Hub) (n : Nat) :
      h.index[sender]? = some account → (h.room account).isDesktop sender = true →
      (h.room account).answer h.config.routing m = (room, targets) →
      (h.setRoom account room).Broadcasts targets m.raw g n → Messages h sender m g (.ok n)

/-- What the sender of a command is told of what came of it. -/
def commandAnswer (m : Message) : Except Refusal Unit → Option Notice
  | .ok _ => none
  | .error e => commandReply m.id e

/-- What may come of an action, if the order in which mobiles are told is left open. -/
inductive UnorderedStep (h : Hub) : Action → Hub → Answer → Prop
  | refused (c : Connection) (e : Refusal) : h.refusal? c = some e →
      UnorderedStep h (.register c) h (.registered (.error e))
  | mobile (c : Connection) : h.refusal? c = none → c.principal.isDesktop = false →
      UnorderedStep h (.register c) (h.letIn c) (.registered (.ok c.id))
  | desktop (c : Connection) (g : Hub) (n : Nat) : h.refusal? c = none →
      c.principal.isDesktop = true →
      (h.letIn c).Broadcasts ((h.letIn c).room c.principal.account).mobiles.values
        (presence true c.principal).render g n →
      UnorderedStep h (.register c) g (.registered (.ok c.id))
  | absent (i : ConnectionId) : i ∉ h.index → UnorderedStep h (.deregister i) h (.flag false)
  | left (i : ConnectionId) (more : List Parcel) (g : Hub) : i ∈ h.index →
      more.Perm (h.detach i).2 → Spreads (h.detach i).1 more g →
      UnorderedStep h (.deregister i) g (.flag true)
  | command (sender : ConnectionId) (m : Message) (g : Hub) (r : Except Refusal Unit) :
      Commands h sender m g r → UnorderedStep h (.toDesktop sender m) g (.passed r)
  | message (sender : ConnectionId) (m : Message) (g : Hub) (r : Except Refusal Nat) :
      Messages h sender m g r → UnorderedStep h (.toMobiles sender m) g (.reached r)
  | unread (sender : ConnectionId) (role : Role) (text : String) (fault : Message.Fault) :
      Message.read text = .error fault →
      UnorderedStep h (.route sender role text) h
        (.reply (some (.invalid fault (Message.peekId text))))
  | misdirected (sender : ConnectionId) (role : Role) (text : String) (m : Message) :
      Message.read text = .ok m → ¬ (role = .mobile ∧ m.family.toDesktop = true) →
      ¬ (role = .desktop ∧ m.family.toMobiles = true) →
      UnorderedStep h (.route sender role text) h (.reply (some (directionReply role m)))
  | commandFrame (sender : ConnectionId) (text : String) (m : Message) (g : Hub)
      (r : Except Refusal Unit) : Message.read text = .ok m → m.family.toDesktop = true →
      Commands h sender m g r →
      UnorderedStep h (.route sender .mobile text) g (.reply (commandAnswer m r))
  | messageFrame (sender : ConnectionId) (text : String) (m : Message) (g : Hub)
      (r : Except Refusal Nat) : Message.read text = .ok m → m.family.toMobiles = true →
      Messages h sender m g r → UnorderedStep h (.route sender .desktop text) g (.reply none)
  | announced (account : AccountId) (online : Bool) (device : Option DeviceId)
      (name : Option String) (g : Hub) (n : Nat) :
      h.Broadcasts (h.room account).mobiles.values
        (Notice.desktopStatus online device name).render g n →
      UnorderedStep h (.announce account online device name) g (.count n)
  | unbound (account : AccountId) (device : DeviceId) :
      (∀ d, (h.room account).desktop = some d → d.principal.device ≠ some device) →
      UnorderedStep h (.evict account device) h (.flag false)
  | evicted (account : AccountId) (device : DeviceId) (d : Connection) (g : Hub) (n : Nat) :
      (h.room account).desktop = some d → d.principal.device = some device →
      (h.expel account d).Broadcasts ((h.expel account d).room account).mobiles.values
        (presence false d.principal).render g n →
      UnorderedStep h (.evict account device) g (.flag true)
  /-- Actions that do not call the hub. -/
  | own (a : Action) (o : OutboxId) : a.target? = some o →
      UnorderedStep h a (h.step a).1 (h.step a).2

/-! ## Hubs in good order -/

/-- Rooms and index agree, and nobody shares an outbox with anybody else. -/
structure Tidy (h : Hub) : Prop where
  consistent : h.Consistent
  separate : h.Separate

theorem Settled.tidy (hs : Settled cs h) : h.Tidy := ⟨hs.consistent, hs.separate⟩

namespace Tidy

theorem recedes (ht : h.Tidy) (hc : g.Consistent) (hr : h.Recedes g) : g.Tidy :=
  ⟨hc, ht.separate.recedes hr⟩

theorem gains {asked : AccountId → String → ConnectionId → Prop} (ht : h.Tidy)
    (hc : g.Consistent) (hg : Gains (fun _ => False) asked h g) : g.Tidy :=
  ⟨hc, ht.separate.gains hg⟩

theorem keptByDelivery : KeptByDelivery Tidy where
  push h o text b ht hb :=
    ht.recedes (Consistent.keptByDelivery.push h o text b ht.consistent hb)
      (.setOutbox h (Outbox.grows_pushText hb))
  pushClose h o reason ht hlive :=
    ht.recedes (Consistent.keptByDelivery.pushClose h o reason ht.consistent hlive)
      (.setOutbox h (Outbox.grows_pushClose _ _))
  detach h c ht := ht.recedes (ht.consistent.detach c) (.detach h c)

end Tidy

/-- Mobiles of one room that are to be told something. -/
structure Aims (h : Hub) (account : AccountId) (targets : List Connection) : Prop where
  tidy : h.Tidy
  mobiles : ∀ t ∈ targets, ∃ key : ConnectionId, (h.room account).mobiles[key]? = some t
  nodup : targets.Nodup

theorem Tidy.aims_values (ht : h.Tidy) (account : AccountId) :
    h.Aims account (h.room account).mobiles.values :=
  ⟨ht, lookup_of_mem_values, ht.consistent.nodup_values account⟩

theorem Tidy.aims_answer (ht : h.Tidy) {m : Message} {room : Room}
    (ha : (h.room account).answer h.config.routing m = (room, targets)) :
    (h.setRoom account room).Aims account targets := by
  obtain ⟨hdesk, hmob⟩ := Room.members_of_answer ha
  have htargets : ((h.room account).answer h.config.routing m).2 = targets := by rw [ha]
  have hg : Gains (fun _ => False) (fun _ _ _ => False) h _ := gains_answer ha
  refine ⟨ht.gains (ht.consistent.setRoom_of_members hdesk hmob) hg, fun t htm => ?_,
    htargets ▸ ht.consistent.nodup_answer account m⟩
  rw [room_setRoom_self, Room.kept_mobiles, hmob]
  exact Room.lookup_of_answer (htargets ▸ htm)

namespace Aims

theorem apart (ha : h.Aims account targets) (text : String) : h.Apart (parcels targets text) :=
  ha.tidy.consistent.apart_parcels ha.tidy.separate ha.mobiles ha.nodup text

theorem count (ha : h.Aims account targets) (text : String) :
    (h.deliver (parcels targets text)).2
      = targets.countP fun t => decide (h.outbox t.outbox).Takes := by
  rw [(ha.apart text).deliver_snd, parcels, List.countP_map]
  rfl

end Aims

theorem Tidy.remember (ht : h.Tidy) (account : AccountId) (sender : ConnectionId) (m : Message) :
    (h.remember account sender m).Tidy := by
  have hg : Gains (fun _ => False) _ h _ := gains_remember h account sender m
  exact ht.gains (ht.consistent.remember account sender m) hg

namespace Tidy

/-- Those who have to be told that somebody has left can be told in any order. -/
theorem apart_detach (ht : h.Tidy) (c : ConnectionId) : (h.detach c).1.Apart (h.detach c).2 := by
  by_cases hq : h.Quiet c
  · rw [detach_quiet hq]
    exact ⟨by simp, .nil, .nil⟩
  · obtain ⟨account, d, hd, rfl⟩ := exists_desktop_of_not_quiet hq
    rw [(detach_desktop (ht.consistent.index_desktop hd) hd).1]
    exact ((keptByDelivery.detach h d.id ht).aims_values account).apart _

theorem apart_undelivered (ht : h.Tidy) (p : Parcel) (e : Outbox.Refusal) :
    (h.undelivered p e).1.Apart (h.undelivered p e).2 := by
  unfold undelivered
  split
  · exact ht.apart_detach p.id
  · exact (keptByDelivery.hubPushClose p.outbox overflowReason ht).apart_detach p.id
  · exact ⟨by simp, .nil, .nil⟩

end Tidy

/-! ## The order does not matter for a telling -/

theorem spreads_deliverAll (h : Hub) (ps : List Parcel) : h.Spreads ps (h.deliverAll ps) := by
  fun_induction deliverAll h ps with
  | case1 h => exact .done h
  | case2 h p ps h' hp ih => exact .sent hp ih
  | case3 h p ps e hp h' more hu ih =>
    have hund : h.undelivered p e = (h', more) := hu
    have hperm : more.Perm (h.undelivered p e).2 := by rw [hund]
    refine .refused hp hperm ?_
    rw [hund]
    exact ih

theorem Spreads.eq (hs : h.Spreads ps g) (ht : h.Tidy) : g = h.deliverAll ps := by
  induction hs with
  | done h => rw [deliverAll]
  | sent hp _ ih =>
    rw [ih (Tidy.keptByDelivery.hubPush ht hp)]
    obtain ⟨b, hb, rfl⟩ := push_eq_ok.1 hp
    rw [deliverAll_ok _ hb]
  | @refused h g p ps more e hp hperm _ ih =>
    have ht' := Tidy.keptByDelivery.undelivered p e ht
    rw [ih ht', deliverAll_error _ (push_eq_error.1 hp), deliverAll_append, deliverAll_append,
      (ht.apart_undelivered p e).deliverAll_perm hperm.symm]

theorem delivers_deliver (h : Hub) (ps : List Parcel) :
    h.Delivers ps (h.deliver ps).1 (h.deliver ps).2 := by
  induction ps generalizing h with
  | nil => exact .done h
  | cons p ps ih =>
    cases hpush : (h.outbox p.outbox).pushText p.text with
    | ok b =>
      rw [deliver, deliverTo_ok hpush]
      exact .sent (push_eq_ok.2 ⟨b, hpush, rfl⟩) (ih _)
    | error e =>
      rw [deliver, deliverTo_error hpush]
      exact .refused (push_eq_error.2 hpush) .rfl (spreads_deliverAll _ _) (ih _)

theorem Delivers.eq (hd : h.Delivers ps g n) (ht : h.Tidy) : h.deliver ps = (g, n) := by
  induction hd with
  | done h => rfl
  | sent hp _ ih =>
    have ht' := Tidy.keptByDelivery.hubPush ht hp
    obtain ⟨b, hb, rfl⟩ := push_eq_ok.1 hp
    rw [deliver, deliverTo_ok hb]
    simp only [ih ht']
  | @refused h g k p ps more e n hp hperm hs _ ih =>
    have ht' := Tidy.keptByDelivery.undelivered p e ht
    have hk := hs.eq ht'
    rw [← (ht.apart_undelivered p e).deliverAll_perm hperm.symm] at hk
    have htk := Tidy.keptByDelivery.deliverAll (h.undelivered p e).2 ht'
    rw [← hk] at htk
    rw [deliver, deliverTo_error (push_eq_error.1 hp), ← hk]
    exact ih htk

theorem broadcasts_iff (ht : h.Tidy) (ha : h.Apart (parcels targets text)) :
    h.Broadcasts targets text g n ↔ h.deliver (parcels targets text) = (g, n) := by
  constructor
  · rintro ⟨ts, hperm, hd⟩
    have hparcels : (parcels targets text).Perm (parcels ts text) := (hperm.map _).symm
    have hts := hd.eq ht
    have hfst := ha.deliverAll_perm hparcels
    have hsnd := ha.deliver_snd
    rw [hparcels.countP_eq, ← (ha.perm hparcels).deliver_snd, hts] at hsnd
    rw [← deliver_fst, ← deliver_fst, hts] at hfst
    exact Prod.ext hfst hsnd
  · intro heq
    have hd := delivers_deliver h (parcels targets text)
    rw [heq] at hd
    exact ⟨targets, .rfl, hd⟩

theorem spreads_iff {more : List Parcel} (ht : h.Tidy) (ha : h.Apart ps) (hperm : more.Perm ps) :
    h.Spreads more g ↔ g = h.deliverAll ps := by
  rw [ha.deliverAll_perm hperm.symm]
  constructor
  · exact fun hs => hs.eq ht
  · rintro rfl
    exact spreads_deliverAll h more

/-- All mobiles of a room may be told in any order. -/
theorem Tidy.announce_iff (ht : h.Tidy) (account : AccountId) (notice : Notice) :
    h.Broadcasts (h.room account).mobiles.values notice.render g n ↔
      h.announce account notice = (g, n) :=
  broadcasts_iff ht ((ht.aims_values account).apart _)

/-! ## Nor for a call -/

theorem Commands.eq {sender : ConnectionId} {m : Message} {r : Except Refusal Unit}
    (hcommands : Commands h sender m g r) (ht : h.Tidy) : h.toDesktop sender m = (g, r) := by
  cases hcommands with
  | unknown hi => simp [toDesktop, hi]
  | stranger account hi hm => simp [toDesktop, hi, hm]
  | offline account hi hm hd => simp [toDesktop, hi, hm, hd]
  | passed account d g hi hm hd hpush =>
    obtain ⟨b, hb, rfl⟩ := push_eq_ok.1 hpush
    rw [toDesktop_eq hi hm hd, deliverTo_ok (p := ⟨d.id, d.outbox, m.raw⟩) hb]
  | lost account d e more g hi hm hd hpush hperm hs =>
    have htidy := ht.remember account sender m
    have ht' := Tidy.keptByDelivery.undelivered ⟨d.id, d.outbox, m.raw⟩ e htidy
    have herr := push_eq_error.1 hpush
    rw [toDesktop_eq hi hm hd, deliverTo_error (p := ⟨d.id, d.outbox, m.raw⟩) herr,
      ← (spreads_iff ht' (htidy.apart_undelivered _ e) hperm).1 hs]

theorem commands_toDesktop (h : Hub) (sender : ConnectionId) (m : Message) :
    Commands h sender m (h.toDesktop sender m).1 (h.toDesktop sender m).2 := by
  cases hi : h.index[sender]? with
  | none =>
    simp only [toDesktop, hi]
    exact .unknown hi
  | some account =>
    by_cases hm : sender ∈ (h.room account).mobiles
    · cases hd : (h.room account).desktop with
      | none =>
        simp only [toDesktop, hi, hm, hd, if_true]
        exact .offline account hi hm hd
      | some d =>
        rw [toDesktop_eq hi hm hd]
        cases hpush : ((h.remember account sender m).outbox d.outbox).pushText m.raw with
        | ok b =>
          rw [deliverTo_ok (p := ⟨d.id, d.outbox, m.raw⟩) hpush]
          exact .passed account d _ hi hm hd (push_eq_ok.2 ⟨b, hpush, rfl⟩)
        | error e =>
          rw [deliverTo_error (p := ⟨d.id, d.outbox, m.raw⟩) hpush]
          exact .lost account d e _ _ hi hm hd (push_eq_error.2 hpush) .rfl
            (spreads_deliverAll _ _)
    · simp only [toDesktop, hi, hm, if_false]
      exact .stranger account hi hm

theorem commands_iff (ht : h.Tidy) {sender : ConnectionId} {m : Message}
    {r : Except Refusal Unit} : Commands h sender m g r ↔ h.toDesktop sender m = (g, r) := by
  constructor
  · exact fun hcommands => hcommands.eq ht
  · intro hcall
    have hcommands := commands_toDesktop h sender m
    rwa [hcall] at hcommands

theorem messages_iff (ht : h.Tidy) {sender : ConnectionId} {m : Message}
    {r : Except Refusal Nat} : Messages h sender m g r ↔ h.toMobiles sender m = (g, r) := by
  constructor
  · intro hmessages
    cases hmessages with
    | unknown hi => simp [toMobiles, hi]
    | stranger account hi hd => simp [toMobiles, hi, hd]
    | passed account room targets g n hi hd ha hb =>
      have haims := ht.aims_answer ha
      simp [toMobiles, hi, hd, ha, (broadcasts_iff haims.tidy (haims.apart m.raw)).1 hb]
  · intro hcall
    have hcases := answering h sender m
    rw [hcall] at hcases
    cases hcases with
    | unknown hi => exact .unknown hi
    | stranger account hi hd => exact .stranger account hi hd
    | passed account room targets hi hd ha =>
      have haims := ht.aims_answer ha
      exact .passed account room targets _ _ hi hd ha
        ((broadcasts_iff haims.tidy (haims.apart m.raw)).2 rfl)

theorem Settled.letIn {c : Connection} (hs : Settled cs h) (hr : h.refusal? c = none)
    (hc : c ∈ cs) (hnew : c.id ∉ h.index) : Settled cs (h.letIn c) where
  consistent := hs.consistent.letIn hr hnew
  peopled := hs.peopled.letIn hc
  named := hs.named
  owned := hs.owned

theorem Tidy.expel (ht : h.Tidy) {d : Connection} (hd : (h.room account).desktop = some d) :
    (h.expel account d).Tidy := by
  have hg : Gains (fun _ => False) (fun _ _ _ => False) h _ := gains_expel h account d
  exact ht.gains (ht.consistent.expel hd) hg

section Frames

variable {sender : ConnectionId} {role : Role} {m : Message}

theorem step_commandFrame (hread : Message.read text = .ok m) (hfam : m.family.toDesktop = true) :
    h.step (.route sender .mobile text)
      = ((h.toDesktop sender m).1, .reply (commandAnswer m (h.toDesktop sender m).2)) := by
  simp only [step, route, hread, pass, hfam, and_self, if_true]
  generalize h.toDesktop sender m = out
  obtain ⟨g, r⟩ := out
  cases r <;> rfl

theorem step_messageFrame (hread : Message.read text = .ok m) (hfam : m.family.toMobiles = true) :
    h.step (.route sender .desktop text) = ((h.toMobiles sender m).1, .reply none) := by
  simp [step, route, hread, pass, hfam, Prod.map]

theorem step_misdirected (hread : Message.read text = .ok m)
    (hup : ¬ (role = .mobile ∧ m.family.toDesktop = true))
    (hdown : ¬ (role = .desktop ∧ m.family.toMobiles = true)) :
    h.step (.route sender role text) = (h, .reply (some (directionReply role m))) := by
  simp only [step, route, hread, pass, if_neg hup, if_neg hdown]
  rfl

end Frames

/-- Whatever may come of an action comes of it. -/
theorem UnorderedStep.eq {answer : Answer} (hstep : h.UnorderedStep a g answer) (hs : Settled cs h)
    (hnew : ∀ c, a = .register c → c ∈ cs ∧ c.id ∉ h.index) : h.step a = (g, answer) := by
  have ht := hs.tidy
  -- the hub goes in an order of its own; by `Tidy` any other one comes to the same
  cases hstep with
  | refused c e hr => simp [step, register_eq, hr]
  | mobile c hr hd => simp [step, register_eq, hr, hd]
  | desktop c g n hr hd hb =>
    obtain ⟨hc, hout⟩ := hnew c rfl
    have hannounce := ((hs.letIn hr hc hout).tidy.announce_iff _ _).1 hb
    simp [step, register_eq, hr, hd, hannounce]
  | absent i hi => simp [step, deregister, hi]
  | left i more g hi hperm hspreads =>
    have ht' := Tidy.keptByDelivery.detach h i ht
    have hg := (spreads_iff ht' (ht.apart_detach i) hperm).1 hspreads
    simp [step, deregister, hi, hg]
  | command sender m g r hc => simp [step, (commands_iff ht).1 hc]
  | message sender m g r hm => simp [step, (messages_iff ht).1 hm]
  | unread sender role text fault hread =>
    simp only [step, route, hread]
    rfl
  | misdirected sender role text m hread hup hdown => exact step_misdirected hread hup hdown
  | commandFrame sender text m g r hread hfam hc =>
    rw [step_commandFrame hread hfam, (commands_iff ht).1 hc]
  | messageFrame sender text m g r hread hfam hm =>
    rw [step_messageFrame hread hfam, (messages_iff ht).1 hm]
  | announced account online device name g n hb =>
    simp [step, (ht.announce_iff account _).1 hb]
  | unbound account device hno =>
    have hcases := evicting h account device
    generalize hout : h.evict account device = out at hcases
    cases hcases with
    | absent => simp [step, hout]
    | evicted d hd hdevice => exact absurd hdevice (hno d hd)
  | evicted account device d g n hd hdevice hb =>
    have hannounce := ((ht.expel hd).announce_iff account _).1 hb
    have hcases := evicting h account device
    generalize hout : h.evict account device = out at hcases
    cases hcases with
    | absent hno => exact absurd hdevice (hno d hd)
    | evicted d' hd' =>
      rw [hd] at hd'
      cases hd'
      simp [step, hout, hannounce]
  | own _ o htarget => rfl

/-- What comes of an action may come of it. -/
theorem unorderedStep_step (hs : Settled cs h)
    (hnew : ∀ c, a = .register c → c ∈ cs ∧ c.id ∉ h.index) :
    h.UnorderedStep a (h.step a).1 (h.step a).2 := by
  have ht := hs.tidy
  cases a with
  | register c =>
    simp only [step, Prod.map, id]
    have hcases := registering h c
    generalize h.register c = out at hcases
    cases hcases with
    | refused e hr => exact .refused c e hr
    | mobile hr hd => exact .mobile c hr hd
    | desktop hr hd =>
      obtain ⟨hc, hout⟩ := hnew c rfl
      exact .desktop c _ _ hr hd (((hs.letIn hr hc hout).tidy.announce_iff _ _).2 rfl)
  | deregister i =>
    simp only [step, deregister, Prod.map, id]
    split
    · next hi => exact .left i _ _ hi .rfl (spreads_deliverAll _ _)
    · next hi => exact .absent i hi
  | toDesktop sender m => exact .command sender m _ _ ((commands_iff ht).2 rfl)
  | toMobiles sender m => exact .message sender m _ _ ((messages_iff ht).2 rfl)
  | route sender role text =>
    cases hread : Message.read text with
    | error fault =>
      simp only [step, route, hread]
      exact .unread sender role text fault hread
    | ok m =>
      by_cases hup : role = .mobile ∧ m.family.toDesktop = true
      · obtain ⟨rfl, hfam⟩ := hup
        rw [step_commandFrame hread hfam]
        exact .commandFrame sender text m _ _ hread hfam ((commands_iff ht).2 rfl)
      · by_cases hdown : role = .desktop ∧ m.family.toMobiles = true
        · obtain ⟨rfl, hfam⟩ := hdown
          rw [step_messageFrame hread hfam]
          exact .messageFrame sender text m _ _ hread hfam ((messages_iff ht).2 rfl)
        · rw [step_misdirected hread hup hdown]
          exact .misdirected sender role text m hread hup hdown
  | announce account online device name =>
    exact .announced account online device name _ _ ((ht.announce_iff account _).2 rfl)
  | evict account device =>
    simp only [step, Prod.map, id]
    have hcases := evicting h account device
    generalize h.evict account device = out at hcases
    cases hcases with
    | absent hno => exact .unbound account device hno
    | evicted d hd hdevice =>
      exact .evicted account device d _ _ hd hdevice (((ht.expel hd).announce_iff account _).2 rfl)
  | attach o | push o | pushClose o | handle o | release o | stop o => exact .own _ o rfl

theorem unorderedStep_iff {answer : Answer} (hs : Settled cs h)
    (hnew : ∀ c, a = .register c → c ∈ cs ∧ c.id ∉ h.index) :
    h.UnorderedStep a g answer ↔ h.step a = (g, answer) := by
  constructor
  · exact fun hstep => hstep.eq hs hnew
  · intro heq
    have hstep := unorderedStep_step hs hnew
    rwa [heq] at hstep

/-! ## How they fare -/

/-- A connection that a text costs its place: it has ended, or its outbox is full and whoever
does not keep up is closed. -/
def Drops (h : Hub) (t : Connection) : Prop :=
  (h.outbox t.outbox).live = false ∨
    (h.outbox t.outbox).capacity ≤ (h.outbox t.outbox).depth ∧ h.config.overflow = .close

theorem not_drops_iff {t : Connection} :
    ¬ h.Drops t ↔ (h.outbox t.outbox).Bears h.config.overflow := by
  unfold Drops Outbox.Bears
  cases (h.outbox t.outbox).live <;> cases h.config.overflow <;> simp

/-- Some connections were told something.  Each of them got it once if its outbox takes it,
whatever became of the others, and nothing otherwise; nobody else's outbox is touched; and those
who are not registered any more are those whom it costs their place. -/
structure FansOut (h : Hub) (targets : List Connection) (text : String) (g : Hub) : Prop where
  arrives : ∀ t ∈ targets, (h.outbox t.outbox).Takes →
    (g.outbox t.outbox).sent = (h.outbox t.outbox).sent ++ [.text text]
  fails : ∀ t ∈ targets, ¬ (h.outbox t.outbox).Takes →
    (g.outbox t.outbox).told = (h.outbox t.outbox).told
  spares : ∀ o, (∀ t ∈ targets, t.outbox ≠ o) → g.outbox o = h.outbox o
  registered : ∀ i, i ∈ g.index ↔ i ∈ h.index ∧ ∀ t ∈ targets, t.id = i → ¬ h.Drops t

theorem Tidy.seated (ht : h.Tidy) {c : Connection} (hc : h.Member c) : h.Seated c where
  consistent := ht.consistent
  member := hc
  own := ⟨fun account d hd ho => ht.separate d c ⟨account, .inl hd⟩ hc ho,
    fun account key m hm ho => ht.separate m c ⟨account, .inr ⟨key, hm⟩⟩ hc ho⟩

/-- Each of them fares as its own outbox has it. -/
theorem Aims.fansOut (ha : h.Aims account targets) (text : String) :
    h.FansOut targets text (h.deliverAll (parcels targets text)) := by
  have hmember : ∀ t ∈ targets, h.Member t := fun t htm => ⟨account, .inr (ha.mobiles t htm)⟩
  -- seen from one member, all the texts together are one effect
  have heffect (c : Connection) (hc : h.Member c) :=
    hasEffect_parcels (ha.tidy.seated hc) ha.mobiles ha.nodup text
  have hreceives (t : Connection) (htm : t ∈ targets) :
      (h.deliverAll (parcels targets text)).outbox t.outbox
        = (h.outbox t.outbox).receive h.config.overflow text := by
    have houtbox := (heffect t (hmember t htm)).outbox
    rwa [if_pos htm] at houtbox
  refine ⟨fun t htm htakes => ?_, fun t htm htakes => ?_, fun o ho => ?_, fun i => ?_⟩
  · rw [hreceives t htm, Outbox.sent_receive htakes]
  · rw [hreceives t htm, Outbox.told_receive htakes]
  · refine outbox_deliverAll_ne (ha.tidy.consistent.quiet_parcels ha.mobiles text) fun p hp => ?_
    obtain ⟨t, htm, rfl⟩ := List.mem_map.1 hp
    exact ho t htm
  · simp only [not_drops_iff]
    constructor
    · intro hin
      have hold : i ∈ h.index := by
        by_contra hnot
        exact (deliverAll_recedes h _).not_mem hnot hin
      refine ⟨hold, ?_⟩
      rintro t htm rfl
      have hindex := (heffect t (hmember t htm)).index.1 hin
      rwa [if_pos htm] at hindex
    · rintro ⟨hold, hbears⟩
      obtain ⟨c, hc, rfl⟩ := ha.tidy.consistent.exists_member hold
      refine (heffect c hc).index.2 ?_
      split
      · next hcm => exact hbears c hcm rfl
      · trivial

theorem FansOut.forget (hf : h.FansOut targets text g) (account : AccountId)
    (sender : ConnectionId) (id : Option String) :
    h.FansOut targets text (g.forget account sender id) := by
  constructor <;> simp only [outbox_forget, forget_index]
  · exact hf.arrives
  · exact hf.fails
  · exact hf.spares
  · exact hf.registered

/-- Whom an action tells what, and the hub in which it does. -/
inductive Fanning (h : Hub) : Action → Hub → List Connection → String → Prop
  | announced (account : AccountId) (online : Bool) (device : Option DeviceId)
      (name : Option String) :
      Fanning h (.announce account online device name) h (h.room account).mobiles.values
        (Notice.desktopStatus online device name).render
  | arrived (c : Connection) : h.refusal? c = none → c.principal.isDesktop = true →
      Fanning h (.register c) (h.letIn c) ((h.letIn c).room c.principal.account).mobiles.values
        (presence true c.principal).render
  | left (account : AccountId) (d : Connection) : (h.room account).desktop = some d →
      Fanning h (.deregister d.id) (h.detach d.id).1
        ((h.detach d.id).1.room account).mobiles.values (presence false d.principal).render
  | evicted (account : AccountId) (device : DeviceId) (d : Connection) :
      (h.room account).desktop = some d → d.principal.device = some device →
      Fanning h (.evict account device) (h.expel account d)
        ((h.expel account d).room account).mobiles.values (presence false d.principal).render
  | message (a : Action) (sender : ConnectionId) (m : Message) (account : AccountId)
      (room : Room) (targets : List Connection) : a.tell? = some (sender, m) →
      h.index[sender]? = some account → (h.room account).isDesktop sender = true →
      (h.room account).answer h.config.routing m = (room, targets) →
      Fanning h a (h.setRoom account room) targets m.raw
  /-- A command costs the desktop its place. -/
  | lost (a : Action) (sender : ConnectionId) (m : Message) (account : AccountId)
      (d : Connection) (e : Outbox.Refusal) (k : Hub) : a.ask? = some (sender, m) →
      h.index[sender]? = some account → sender ∈ (h.room account).mobiles →
      (h.room account).desktop = some d →
      ((h.remember account sender m).outbox d.outbox).pushText m.raw = .error e →
      ¬ (e = .full ∧ h.config.overflow = .dropNewest) →
      k = ((h.remember account sender m).undelivered ⟨d.id, d.outbox, m.raw⟩ e).1 →
      Fanning h a k (k.room account).mobiles.values (presence false d.principal).render

/-- A desktop that a text costs its place leaves its mobiles to be told. -/
theorem undelivered_desktop {d : Connection} {e : Outbox.Refusal} (hc : h.Consistent)
    (hd : (h.room account).desktop = some d)
    (hlost : ¬ (e = .full ∧ h.config.overflow = .dropNewest)) (text : String) :
    (h.undelivered ⟨d.id, d.outbox, text⟩ e).2
      = parcels ((h.undelivered ⟨d.id, d.outbox, text⟩ e).1.room account).mobiles.values
        (presence false d.principal).render := by
  have hi := hc.index_desktop hd
  unfold undelivered
  split
  · exact (detach_desktop hi hd).1
  · have hi' : (h.pushClose d.outbox overflowReason).index[d.id]? = some account := by
      rw [pushClose_index, hi]
    have hd' : ((h.pushClose d.outbox overflowReason).room account).desktop = some d := by
      rw [pushClose_room, hd]
    exact (detach_desktop hi' hd').1
  · next hover => exact absurd ⟨rfl, hover⟩ hlost

/-- Whoever is told something by an action fares as its own outbox has it. -/
theorem fansOut_next (hs : Settled cs h)
    (hnew : ∀ c, a = .register c → c ∈ cs ∧ c.id ∉ h.index) (hf : h.Fanning a k targets text) :
    k.FansOut targets text (h.next a) := by
  have ht := hs.tidy
  -- each case comes down to one call of `tell` or `deliverAll`, in a hub that is still tidy
  cases hf with
  | announced account online device name =>
    have hnext : h.next (.announce account online device name) = h.tell account
        (Notice.desktopStatus online device name).render := announce_fst _ _ _
    exact hnext ▸ (ht.aims_values account).fansOut _
  | arrived c hr hd =>
    obtain ⟨hc, hout⟩ := hnew c rfl
    have hnext : h.next (.register c) = (h.letIn c).tell c.principal.account
        (presence true c.principal).render := by
      rw [← announce_fst, next, step, register_eq, hr, hd]
      rfl
    exact hnext ▸ ((hs.letIn hr hc hout).tidy.aims_values _).fansOut _
  | left account d hd =>
    have hnext : h.next (.deregister d.id) = _ := deregister_desktop ht.consistent hd
    exact hnext ▸ ((Tidy.keptByDelivery.detach h d.id ht).aims_values account).fansOut _
  | evicted account device d hd hdevice =>
    have hnext : h.next (.evict account device) = (h.expel account d).tell account
        (presence false d.principal).render := by
      have hcases := evicting h account device
      change (h.evict account device).1 = _
      generalize h.evict account device = out at hcases
      cases hcases with
      | absent hno => exact absurd hdevice (hno d hd)
      | evicted d' hd' =>
        obtain rfl : d = d' := Option.some.inj (hd.symm.trans hd')
        exact announce_fst _ _ _
    exact hnext ▸ ((ht.expel hd).aims_values account).fansOut _
  | message a sender m account room targets htell hi hdesk ha =>
    have hnext : h.next a = (h.setRoom account room).deliverAll (parcels targets m.raw) := by
      rw [next_of_tell? htell, toMobiles, hi]
      simp only [hdesk, if_true, ha, deliver_fst]
    exact hnext ▸ (ht.aims_answer ha).fansOut _
  | lost a sender m account d e k hask hi hm hd he hlost hk =>
    have htidy := ht.remember account sender m
    have hd' : ((h.remember account sender m).room account).desktop = some d := by
      rw [desktop_remember, hd]
    have hmore := undelivered_desktop htidy.consistent hd' hlost m.raw
    have hnext : h.next a = (k.tell account (presence false d.principal).render).forget account
        sender m.id := by
      rw [next_of_ask? hask, toDesktop_eq hi hm hd, deliverTo_error he, hmore, ← hk]
      rfl
    have hk' : k.Tidy := hk ▸ Tidy.keptByDelivery.undelivered _ e htidy
    exact hnext ▸ ((hk'.aims_values account).fansOut _).forget account sender m.id

/-- The number that an action gives back, if it gives back how many were told. -/
def Answer.reached? : Answer → Option Nat
  | .count n | .reached (.ok n) => some n
  | _ => none

theorem reached_step (hs : Settled cs h) (hf : h.Fanning a k targets text) {n : Nat}
    (hn : (h.step a).2.reached? = some n) :
    n = targets.countP fun t => decide (k.outbox t.outbox).Takes := by
  have ht := hs.tidy
  cases hf with
  | announced account online device name =>
    have hcount := (ht.aims_values account).count (Notice.desktopStatus online device name).render
    exact (Option.some.inj hn).symm.trans hcount
  | arrived | left | evicted => cases hn
  | message a sender m account room targets htell hi hdesk ha =>
    cases a with
    | toMobiles sender' m' =>
      cases htell
      have hout : (h.toMobiles sender m).2
          = .ok ((h.setRoom account room).deliver (parcels targets m.raw)).2 := by
        rw [toMobiles, hi]
        simp only [hdesk, if_true, ha]
      have hn' : (Answer.reached (h.toMobiles sender m).2).reached? = some n := hn
      rw [hout] at hn'
      exact (Option.some.inj hn').symm.trans ((ht.aims_answer ha).count m.raw)
    | route => cases hn
    | _ => cases htell
  | lost a sender m account d e k hask =>
    cases a with
    | toDesktop | route => cases hn
    | _ => cases hask

/-! ## In every run -/

/-- In every state that the hub can reach, an action comes to the same, in what it gives back
and in every room, the index and every outbox, in whichever order the mobiles of a room are
told what it has for them.  Each of those that it tells something gets it once if its own outbox
takes it, and nothing else depends on the others; what is counted are those that got it; and of
those who were registered just those are not any more whom it costs their place. -/
theorem order_immaterial (config : Config) {as : List Action} {a : Action}
    (hfresh : (arrivals (as ++ [a])).Nodup)
    (howned : ((newcomers (as ++ [a])).map (·.outbox)).Nodup) :
    let h := ((empty config).run as).1
    (∀ g answer, h.UnorderedStep a g answer ↔ h.step a = (g, answer)) ∧
      ∀ k targets text, h.Fanning a k targets text →
        k.FansOut targets text (h.step a).1 ∧
          ∀ n, (h.step a).2.reached? = some n →
            n = targets.countP fun t => decide (k.outbox t.outbox).Takes := by
  intro h
  have hu : Underway (newcomers (as ++ [a])) h [a] := (underway config hfresh howned).run
  have hs : Settled (newcomers (as ++ [a])) h := hu.toSettled
  refine ⟨fun g answer => unorderedStep_iff hs hu.newcomer, fun k targets text hf => ?_⟩
  exact ⟨fansOut_next hs hu.newcomer hf, fun n hn => reached_step hs hf hn⟩

/-- Of three mobiles one has ended and one does not keep up.  The third is told all the same,
also if the three are told in the opposite order. -/
theorem order_immaterial_mixed :
    let slow : Connection := ⟨⟨1⟩, .mobile ⟨10⟩, 0⟩
    let ended : Connection := ⟨⟨2⟩, .mobile ⟨10⟩, 1⟩
    let well : Connection := ⟨⟨3⟩, .mobile ⟨10⟩, 2⟩
    let as : List Action :=
      [.attach 0 1, .attach 1 4, .attach 2 4, .register slow, .register ended, .register well,
        .stop 1]
    let a : Action := .announce ⟨10⟩ true none none
    let text : String := (Notice.desktopStatus true none none).render
    let h := ((empty { overflow := .close }).run as).1
    let g := (h.step a).1
    (arrivals (as ++ [a])).Nodup ∧ ((newcomers (as ++ [a])).map (·.outbox)).Nodup ∧
      (h.room ⟨10⟩).mobiles.values = [slow, ended, well] ∧
      h.step a = ((h.deliver (parcels [well, ended, slow] text)).1,
        .count (h.deliver (parcels [well, ended, slow] text)).2) ∧
      (h.step a).2.reached? = some 1 ∧
      (g.outbox 2).sent = (h.outbox 2).sent ++ [.text text] ∧
      slow.id ∉ g.index ∧ ended.id ∉ g.index ∧ well.id ∈ g.index := by
  intro slow ended well as a text h g
  have hfresh : (arrivals (as ++ [a])).Nodup := by decide
  have howned : ((newcomers (as ++ [a])).map (·.outbox)).Nodup := by decide
  have hroom : (h.room ⟨10⟩).mobiles.values = [slow, ended, well] := by decide +kernel
  obtain ⟨horder, heffect⟩ := order_immaterial { overflow := .close } hfresh howned
  have hfanning : h.Fanning a h (h.room ⟨10⟩).mobiles.values text :=
    .announced ⟨10⟩ true none none
  have hout : h.FansOut (h.room ⟨10⟩).mobiles.values text g := (heffect _ _ _ hfanning).1
  have hcount : ∀ n, (h.step a).2.reached? = some n →
      n = (h.room ⟨10⟩).mobiles.values.countP fun t => decide (h.outbox t.outbox).Takes :=
    (heffect _ _ _ hfanning).2
  rw [hroom] at hout hcount
  have hopposite : h.step a = ((h.deliver (parcels [well, ended, slow] text)).1,
      .count (h.deliver (parcels [well, ended, slow] text)).2) := by
    refine (horder _ _).1 (.announced ⟨10⟩ true none none _ _ ⟨[well, ended, slow], ?_, ?_⟩)
    · have hperm : [well, ended, slow].Perm [slow, ended, well] := by decide
      exact hroom ▸ hperm
    · exact delivers_deliver h _
  have htakes : (h.outbox well.outbox).Takes := by decide +kernel
  have hfull : h.Drops slow := .inr (by decide +kernel)
  have hended : h.Drops ended := .inl (by decide +kernel)
  have hstays : well.id ∈ g.index := by
    refine (hout.registered well.id).2 ⟨by decide +kernel, fun t ht hid => ?_⟩
    rw [not_drops_iff]
    have hwell : t = well := by
      simp only [List.mem_cons, List.not_mem_nil, or_false] at ht
      obtain rfl | rfl | rfl := ht
      · exact absurd hid (by decide)
      · exact absurd hid (by decide)
      · rfl
    subst hwell
    decide +kernel
  have hreached : (h.step a).2.reached? = some 1 := by
    have hsome : (h.step a).2.reached?
        = some (h.deliver (parcels [well, ended, slow] text)).2 := by rw [hopposite]; rfl
    rw [hsome, hcount _ hsome]
    decide +kernel
  have harrives := hout.arrives well (by decide) htakes
  refine ⟨hfresh, howned, hroom, hopposite, hreached, harrives, fun hin => ?_, fun hin => ?_,
    hstays⟩
  · exact ((hout.registered slow.id).1 hin).2 slow (by decide) rfl hfull
  · exact ((hout.registered ended.id).1 hin).2 ended (by decide) rfl hended

end Switchboard.Hub
