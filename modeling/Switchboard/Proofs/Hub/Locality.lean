import Switchboard.Proofs.Hub.Provenance

/-! # What an account can see

Connections and outboxes belong to accounts.  An account sees its own room, and of the
index and the outboxes what is not another account's; two hubs that are the same in that
are the same for the account.  Whatever the hub does for one account it does alike in two
hubs that are the same for that account, and no other account sees it.

* `Homes` — which account connections and outboxes belong to;
* `Housed` — what a hub stores is where it belongs;
* `SameFor` — two hubs are the same for an account;
* `SameFor.deliverAll`, `SameFor.deliver` — for an account's own texts;
* `sameFor_deliverAll` — for those of others.
-/

namespace Switchboard.Hub

/-! ## Belonging -/

/-- To which account connections and outboxes belong, where they belong to one. -/
structure Homes where
  connection : ConnectionId → Option AccountId
  outbox : OutboxId → Option AccountId

/-- An account's own, or nobody's. -/
def Near (account : AccountId) (home : Option AccountId) : Prop :=
  home = none ∨ home = some account

instance (account : AccountId) (home : Option AccountId) : Decidable (Near account home) :=
  inferInstanceAs (Decidable (_ ∨ _))

theorem near_some {account a : AccountId} : Near account (some a) ↔ a = account := by
  simp [Near]

theorem not_near {account other : AccountId} {home : Option AccountId} (hhome : home = some other)
    (hne : other ≠ account) : ¬ Near account home := by
  rw [hhome, near_some]
  exact hne

/-- A connection belongs to an account with its outbox. -/
def Homes.Has (homes : Homes) (account : AccountId) (c : Connection) : Prop :=
  homes.connection c.id = some account ∧ homes.outbox c.outbox = some account

/-- A text is on its way within one account. -/
def Homes.Within (homes : Homes) (account : AccountId) (p : Parcel) : Prop :=
  homes.connection p.id = some account ∧ homes.outbox p.outbox = some account

/-- Rooms and index lead to what belongs to the account. -/
structure Housed (homes : Homes) (h : Hub) : Prop extends Peopled homes.Has h where
  index : ∀ (c : ConnectionId) (account : AccountId),
    h.index[c]? = some account → homes.connection c = some account

variable {homes : Homes} {account other : AccountId} {h g : Hub}

theorem Housed.recedes (hh : Housed homes h) (hr : h.Recedes g) : Housed homes g :=
  ⟨hh.toPeopled.recedes hr, fun c a hc => hh.index c a (hr.index c a hc)⟩

theorem Housed.gains {asked : AccountId → String → ConnectionId → Prop} (hh : Housed homes h)
    (hg : Gains (fun _ => False) asked h g) : Housed homes g :=
  ⟨hh.toPeopled.gains hg, fun c a hc => hh.index c a ((hg.index c a hc).resolve_right id)⟩

theorem Housed.within_parcels (hh : Housed homes h) (text : String) :
    ∀ p ∈ parcels (h.room account).mobiles.values text, homes.Within account p := by
  intro p hp
  obtain ⟨m, hm, rfl⟩ := List.mem_map.1 hp
  obtain ⟨c, hc⟩ := Table.mem_values.1 hm
  exact hh.mobile account c m hc

theorem Housed.within_answer (hh : Housed homes h) (m : Message) :
    ∀ p ∈ parcels ((h.room account).answer h.config.routing m).2 m.raw,
      homes.Within account p := by
  intro p hp
  obtain ⟨t, ht, rfl⟩ := List.mem_map.1 hp
  obtain ⟨c, hc⟩ := Room.lookup_of_answer ht
  exact hh.mobile account c t hc

/-- Only the account of a connection that leaves is told of it. -/
theorem Housed.within_detach (hh : Housed homes h) {c : ConnectionId}
    (hc : homes.connection c = some account) : ∀ p ∈ (h.detach c).2, homes.Within account p := by
  cases hi : h.index[c]? with
  | none =>
    rw [detach_of_not_mem (Table.not_mem_iff_lookup.2 hi)]
    simp
  | some a =>
    have ha := hh.index c a hi
    rw [hc] at ha
    cases ha
    rw [detach_eq hi]
    dsimp only [farewell]
    split
    · exact hh.within_parcels _
    · simp

theorem Housed.within_undelivered (hh : Housed homes h) {p : Parcel} (e : Outbox.Refusal)
    (hp : homes.Within account p) :
    ∀ q ∈ (h.undelivered p e).2, homes.Within account q := by
  unfold undelivered
  split
  · exact hh.within_detach hp.1
  · exact (hh.recedes (pushClose_recedes h _ _)).within_detach hp.1
  · simp

/-! ## Seeing -/

/-- Two hubs are the same for an account. -/
structure SameFor (homes : Homes) (account : AccountId) (h g : Hub) : Prop where
  config : g.config = h.config
  rooms : g.rooms[account]? = h.rooms[account]?
  index : ∀ c, Near account (homes.connection c) → g.index[c]? = h.index[c]?
  outbox : ∀ o, Near account (homes.outbox o) → g.outbox o = h.outbox o

namespace SameFor

theorem refl (h : Hub) : SameFor homes account h h :=
  ⟨rfl, rfl, fun _ _ => rfl, fun _ _ => rfl⟩

theorem symm (hs : SameFor homes account h g) : SameFor homes account g h where
  config := hs.config.symm
  rooms := hs.rooms.symm
  index c hc := (hs.index c hc).symm
  outbox o ho := (hs.outbox o ho).symm

theorem trans {h g k : Hub} (hs : SameFor homes account h g) (hs' : SameFor homes account g k) :
    SameFor homes account h k where
  config := hs'.config.trans hs.config
  rooms := hs'.rooms.trans hs.rooms
  index c hc := (hs'.index c hc).trans (hs.index c hc)
  outbox o ho := (hs'.outbox o ho).trans (hs.outbox o ho)

theorem room (hs : SameFor homes account h g) : g.room account = h.room account := by
  rw [room_eq, hs.rooms, room_eq]

/-! ### The same change in both -/

theorem setOutbox (hs : SameFor homes account h g) (o : OutboxId) (b : Outbox) :
    SameFor homes account (h.setOutbox o b) (g.setOutbox o b) := by
  refine ⟨hs.config, hs.rooms, hs.index, fun o' ho' => ?_⟩
  simp only [outbox_setOutbox]
  split
  · rfl
  · exact hs.outbox o' ho'

theorem setRoom (hs : SameFor homes account h g) (other : AccountId) (r : Room) :
    SameFor homes account (h.setRoom other r) (g.setRoom other r) := by
  refine ⟨hs.config, ?_, hs.index, hs.outbox⟩
  simp only [lookup_setRoom, hs.rooms]

theorem eraseIndex (hs : SameFor homes account h g) (c : ConnectionId) :
    SameFor homes account { h with index := h.index.erase c }
      { g with index := g.index.erase c } := by
  refine ⟨hs.config, hs.rooms, fun c' hc' => ?_, hs.outbox⟩
  simp only [Table.lookup_erase]
  split
  · rfl
  · exact hs.index c' hc'

theorem insertIndex (hs : SameFor homes account h g) (c : ConnectionId) (a : AccountId) :
    SameFor homes account { h with index := h.index.insert c a }
      { g with index := g.index.insert c a } := by
  refine ⟨hs.config, hs.rooms, fun c' hc' => ?_, hs.outbox⟩
  simp only [Table.lookup_insert]
  split
  · rfl
  · exact hs.index c' hc'

theorem pushClose (hs : SameFor homes account h g) {o : OutboxId} (reason : String)
    (ho : Near account (homes.outbox o)) :
    SameFor homes account (h.pushClose o reason) (g.pushClose o reason) := by
  unfold Hub.pushClose
  rw [hs.outbox o ho]
  split
  · exact hs.setOutbox o _
  · exact hs

theorem detach (hh : Housed homes h) (hs : SameFor homes account h g) {c : ConnectionId}
    (hc : Near account (homes.connection c)) :
    (g.detach c).2 = (h.detach c).2 ∧ SameFor homes account (h.detach c).1 (g.detach c).1 := by
  have hi := hs.index c hc
  cases hi' : h.index[c]? with
  | none =>
    rw [hi'] at hi
    rw [detach_of_not_mem (Table.not_mem_iff_lookup.2 hi'),
      detach_of_not_mem (Table.not_mem_iff_lookup.2 hi)]
    exact ⟨rfl, hs⟩
  | some a =>
    -- the index knows the account's own connections only under the account
    obtain rfl : a = account := by
      rw [hh.index c a hi'] at hc
      exact near_some.1 hc
    rw [hi'] at hi
    rw [detach_eq hi', detach_eq hi, hs.room]
    exact ⟨rfl, (hs.eraseIndex c).setRoom a _⟩

theorem undelivered (hh : Housed homes h) (hs : SameFor homes account h g) {p : Parcel}
    (e : Outbox.Refusal) (hp : homes.Within account p) :
    (g.undelivered p e).2 = (h.undelivered p e).2 ∧
      SameFor homes account (h.undelivered p e).1 (g.undelivered p e).1 := by
  have hc : Near account (homes.connection p.id) := .inr hp.1
  have ho : Near account (homes.outbox p.outbox) := .inr hp.2
  unfold Hub.undelivered
  rw [hs.config]
  split
  · exact hs.detach hh hc
  · exact (hs.pushClose _ ho).detach (hh.recedes (pushClose_recedes h _ _)) hc
  · exact ⟨rfl, hs⟩

theorem deliverAll (hh : Housed homes h) (hs : SameFor homes account h g) {ps : List Parcel}
    (hps : ∀ p ∈ ps, homes.Within account p) :
    SameFor homes account (h.deliverAll ps) (g.deliverAll ps) := by
  -- along the telling in the one hub, with the other in step
  fun_induction Hub.deliverAll h ps generalizing g with
  | case1 h =>
    rw [Hub.deliverAll]
    exact hs
  | case2 h p ps h' hp ih =>
    obtain ⟨b, hb, rfl⟩ := push_eq_ok.1 hp
    obtain ⟨hp, hps⟩ := List.forall_mem_cons.1 hps
    have hb' : (g.outbox p.outbox).pushText p.text = .ok b := by
      rw [hs.outbox _ (.inr hp.2), hb]
    rw [deliverAll_ok ps hb']
    exact ih (hh.recedes (.setOutbox h (Outbox.grows_pushText hb))) (hs.setOutbox _ b) hps
  | case3 h p ps e he h' more hu ih =>
    obtain ⟨hp, hps⟩ := List.forall_mem_cons.1 hps
    have he' : (g.outbox p.outbox).pushText p.text = .error e := by
      rw [hs.outbox _ (.inr hp.2), push_eq_error.1 he]
    -- a refusal has the same consequences in both, and they stay within the account
    obtain ⟨hmore, hsame⟩ := hs.undelivered hh e hp
    have hwithin := hh.within_undelivered e hp
    have hh' := hh.recedes ((Recedes.keptByDelivery h).undelivered p e (.refl h))
    rw [hu] at hmore hsame hwithin hh'
    rw [deliverAll_error ps he', hmore]
    exact ih hh' hsame (List.forall_mem_append.2 ⟨hwithin, hps⟩)

theorem deliverTo (hh : Housed homes h) (hs : SameFor homes account h g) {p : Parcel}
    (hp : homes.Within account p) :
    (g.deliverTo p).2 = (h.deliverTo p).2 ∧
      SameFor homes account (h.deliverTo p).1 (g.deliverTo p).1 := by
  have houtbox := hs.outbox p.outbox (.inr hp.2)
  cases hb : (h.outbox p.outbox).pushText p.text with
  | ok b =>
    rw [deliverTo_ok hb, deliverTo_ok (houtbox ▸ hb)]
    exact ⟨rfl, hs.setOutbox _ b⟩
  | error e =>
    obtain ⟨hmore, hsame⟩ := hs.undelivered hh e hp
    have hh' := hh.recedes ((Recedes.keptByDelivery h).undelivered p e (.refl h))
    rw [deliverTo_error hb, deliverTo_error (houtbox ▸ hb), hmore]
    exact ⟨rfl, hsame.deliverAll hh' (hh.within_undelivered e hp)⟩

/-- As many of an account's texts get there in both hubs. -/
theorem deliver (hh : Housed homes h) (hs : SameFor homes account h g) {ps : List Parcel}
    (hps : ∀ p ∈ ps, homes.Within account p) :
    (g.deliver ps).2 = (h.deliver ps).2 ∧
      SameFor homes account (h.deliver ps).1 (g.deliver ps).1 := by
  induction ps generalizing h g with
  | nil => exact ⟨rfl, hs⟩
  | cons p ps ih =>
    obtain ⟨hp, hps⟩ := List.forall_mem_cons.1 hps
    obtain ⟨hres, hsame⟩ := hs.deliverTo hh hp
    have hh' := hh.recedes (deliverTo_recedes h p)
    unfold Hub.deliver
    generalize h.deliverTo p = out at hres hsame hh'
    generalize g.deliverTo p = out' at hres hsame
    obtain ⟨k, r⟩ := out
    obtain ⟨k', r'⟩ := out'
    cases hres
    obtain ⟨hn, hsame'⟩ := ih hh' hsame hps
    cases r with
    | ok u => exact ⟨congrArg (· + 1) hn, hsame'⟩
    | error e => exact ⟨hn, hsame'⟩

end SameFor

/-! ### A change that is another account's -/

theorem sameFor_setOutbox (h : Hub) {o : OutboxId} (b : Outbox) (ho : homes.outbox o = some other)
    (hne : other ≠ account) : SameFor homes account h (h.setOutbox o b) := by
  refine ⟨rfl, rfl, fun _ _ => rfl, fun o' ho' => outbox_setOutbox_ne h b ?_⟩
  rintro rfl
  exact not_near ho hne ho'

theorem sameFor_setRoom (h : Hub) (r : Room) (hne : other ≠ account) :
    SameFor homes account h (h.setRoom other r) := by
  refine ⟨rfl, ?_, fun _ _ => rfl, fun _ _ => rfl⟩
  rw [lookup_setRoom, if_neg hne]

theorem sameFor_eraseIndex (h : Hub) {c : ConnectionId} (hc : homes.connection c = some other)
    (hne : other ≠ account) :
    SameFor homes account h { h with index := h.index.erase c } := by
  refine ⟨rfl, rfl, fun c' hc' => ?_, fun _ _ => rfl⟩
  rw [Table.lookup_erase, if_neg]
  rintro rfl
  exact not_near hc hne hc'

theorem sameFor_insertIndex (h : Hub) {c : ConnectionId} (a : AccountId)
    (hc : homes.connection c = some other) (hne : other ≠ account) :
    SameFor homes account h { h with index := h.index.insert c a } := by
  refine ⟨rfl, rfl, fun c' hc' => ?_, fun _ _ => rfl⟩
  rw [Table.lookup_insert, if_neg]
  rintro rfl
  exact not_near hc hne hc'

theorem sameFor_pushClose (h : Hub) {o : OutboxId} (reason : String)
    (ho : homes.outbox o = some other) (hne : other ≠ account) :
    SameFor homes account h (h.pushClose o reason) := by
  obtain heq | ⟨-, heq⟩ := pushClose_eq h o reason <;> rw [heq]
  · exact .refl h
  · exact sameFor_setOutbox h _ ho hne

theorem sameFor_detach (hh : Housed homes h) {c : ConnectionId}
    (hc : homes.connection c = some other) (hne : other ≠ account) :
    SameFor homes account h (h.detach c).1 := by
  cases hi : h.index[c]? with
  | none =>
    rw [detach_of_not_mem (Table.not_mem_iff_lookup.2 hi)]
    exact .refl h
  | some a =>
    have ha := hh.index c a hi
    rw [hc] at ha
    cases ha
    rw [detach_eq hi]
    exact (sameFor_eraseIndex h hc hne).trans (sameFor_setRoom _ _ hne)

theorem sameFor_undelivered (hh : Housed homes h) {p : Parcel} (e : Outbox.Refusal)
    (hp : homes.Within other p) (hne : other ≠ account) :
    SameFor homes account h (h.undelivered p e).1 := by
  unfold undelivered
  split
  · exact sameFor_detach hh hp.1 hne
  · exact (sameFor_pushClose h overflowReason hp.2 hne).trans
      (sameFor_detach (hh.recedes (pushClose_recedes h _ _)) hp.1 hne)
  · exact .refl h

/-- What is told within one account is not seen by another. -/
theorem sameFor_deliverAll (hh : Housed homes h) {ps : List Parcel}
    (hps : ∀ p ∈ ps, homes.Within other p) (hne : other ≠ account) :
    SameFor homes account h (h.deliverAll ps) := by
  fun_induction deliverAll h ps with
  | case1 h => exact .refl h
  | case2 h p ps h' hp ih =>
    obtain ⟨b, hb, rfl⟩ := push_eq_ok.1 hp
    obtain ⟨hp, hps⟩ := List.forall_mem_cons.1 hps
    exact (sameFor_setOutbox h b hp.2 hne).trans
      (ih (hh.recedes (.setOutbox h (Outbox.grows_pushText hb))) hps)
  | case3 h p ps e he h' more hu ih =>
    obtain ⟨hp, hps⟩ := List.forall_mem_cons.1 hps
    have hsame : SameFor homes account h (h.undelivered p e).1 :=
      sameFor_undelivered hh e hp hne
    have hwithin := hh.within_undelivered e hp
    have hh' := hh.recedes ((Recedes.keptByDelivery h).undelivered p e (.refl h))
    rw [hu] at hsame hwithin hh'
    exact hsame.trans (ih hh' (List.forall_mem_append.2 ⟨hwithin, hps⟩))

theorem sameFor_deliver (hh : Housed homes h) {ps : List Parcel}
    (hps : ∀ p ∈ ps, homes.Within other p) (hne : other ≠ account) :
    SameFor homes account h (h.deliver ps).1 := by
  rw [deliver_fst]
  exact sameFor_deliverAll hh hps hne

end Switchboard.Hub
