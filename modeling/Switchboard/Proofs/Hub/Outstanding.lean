import Mathlib.Data.List.Induction
import Switchboard.Proofs.Hub.Originator

/-! # What is awaited is outstanding

A room remembers for the ids of commands which mobile sent them.  Two things hold of what
it remembers.  `Tracked` speaks of one state: the entries are few, they name mobiles that
are there, and there are none without a desktop to answer.  `Outstanding` speaks of the
run that led to the state: the mobile that an entry names has sent a command with the id,
the desktop that is there has got it, and since then nobody else has taken the id over
and nothing was answered under it.

* `Room.Tracks`, `Tracked` — the invariant of one state, kept by every call;
* `Queues`, `Responds` — a command gets to a desktop, and a response is passed on;
* `outstanding_next` — an entry after an action is new, or was there and nothing has
  come in between;
* `awaiting_outstanding` — every entry stands for an outstanding command.
-/

namespace Switchboard

/-! ## One room -/

/-- The commands that a room remembers are not too many, they come from mobiles of the
room, and there is a desktop to answer them; none is remembered if responses go to all. -/
structure Room.Tracks (routing : Routing) (r : Room) : Prop where
  size : r.awaiting.size ≤ Room.maxAwaiting
  desktop : r.desktop = none → r.awaiting = ∅
  origin : ∀ (id : String) (c : ConnectionId), r.awaiting[id]? = some c → c ∈ r.mobiles
  routing : routing = .broadcast → r.awaiting = ∅

namespace Room

variable {routing : Routing} {r : Room}

theorem tracks_of_empty (h : r.awaiting = ∅) : r.Tracks routing := by
  constructor
  · simp [h]
  · exact fun _ => h
  · simp [h]
  · exact fun _ => h

theorem Tracks.kept (hr : r.Tracks routing) : r.kept.Tracks routing := by
  unfold Room.kept
  split
  · exact tracks_of_empty rfl
  · exact hr

/-- Remembering less is in order as long as the members are the same. -/
theorem Tracks.less {r' : Room} (hr : r.Tracks routing) (hd : r'.desktop = r.desktop)
    (hm : ∀ c, c ∈ r.mobiles → c ∈ r'.mobiles) (hsize : r'.awaiting.size ≤ r.awaiting.size)
    (hw : ∀ (id : String) (c : ConnectionId),
      r'.awaiting[id]? = some c → r.awaiting[id]? = some c) : r'.Tracks routing := by
  have hempty : r.awaiting = ∅ → r'.awaiting = ∅ := by
    intro he
    rw [Std.ExtTreeMap.eq_empty_iff_size_eq_zero] at he ⊢
    omega
  constructor
  · exact Nat.le_trans hsize hr.size
  · exact fun hnone => hempty (hr.desktop (hd ▸ hnone))
  · exact fun id c h => hm c (hr.origin id c (hw id c h))
  · exact fun hb => hempty (hr.routing hb)

theorem Tracks.withoutMobile (hr : r.Tracks routing) (c : ConnectionId) :
    (r.withoutMobile c).Tracks routing := by
  have hsize : (r.withoutMobile c).awaiting.size ≤ r.awaiting.size :=
    Std.ExtTreeMap.size_filter_le_size
  have hempty : r.awaiting = ∅ → (r.withoutMobile c).awaiting = ∅ := by
    intro he
    rw [Std.ExtTreeMap.eq_empty_iff_size_eq_zero] at he ⊢
    omega
  constructor
  · exact Nat.le_trans hsize hr.size
  · exact fun hnone => hempty (hr.desktop hnone)
  · intro id origin h
    obtain ⟨hold, hne⟩ := Table.lookup_filter_eq_some.1 h
    -- what the mobile itself has sent is gone, so nobody else loses their place
    have hne' : origin ≠ c := by simpa using hne
    change origin ∈ r.mobiles.erase c
    rw [Std.ExtTreeMap.mem_erase, ne_eq, Std.LawfulEqCmp.compare_eq_iff_eq]
    exact ⟨fun heq => hne' heq.symm, hr.origin id origin hold⟩
  · exact fun hb => hempty (hr.routing hb)

theorem Tracks.remove (hr : r.Tracks routing) (c : ConnectionId) :
    (r.remove c).1.Tracks routing := by
  unfold Room.remove
  split
  · exact tracks_of_empty rfl
  · split
    · exact hr.withoutMobile c
    · exact hr

theorem Tracks.withMobile (hr : r.Tracks routing) (m : Connection) :
    (r.withMobile m).Tracks routing := by
  refine hr.less rfl (fun c hc => ?_) (Nat.le_refl _) fun _ _ h => h
  change c ∈ r.mobiles.insert m.id m
  rw [Std.ExtTreeMap.mem_insert]
  exact .inr hc

theorem size_awaiting_insert_le {id : String} {c : ConnectionId}
    (hr : r.awaiting.size ≤ maxAwaiting)
    (hroom : r.awaiting.size < maxAwaiting ∨ id ∈ r.awaiting) :
    (r.awaiting.insert id c).size ≤ maxAwaiting := by
  rw [Std.ExtTreeMap.size_insert]
  split
  · exact hr
  · rename_i hnot
    have hlt := hroom.resolve_right hnot
    omega

/-- A command is remembered for a mobile of a room with a desktop. -/
theorem Tracks.await (hr : r.Tracks routing) {sender : ConnectionId} (m : Message)
    (hs : sender ∈ r.mobiles) (hd : r.desktop ≠ none) :
    (r.await routing sender m).Tracks routing := by
  cases hid : m.id with
  | none => simpa [Room.await, hid] using hr
  | some id =>
    simp only [Room.await, hid]
    split
    · rename_i hawait
      constructor
      · exact size_awaiting_insert_le hr.size hawait.2.2
      · exact fun hnone => absurd hnone hd
      · -- the new entry names the sender, and all others were there before
        intro id' c h
        rw [Table.lookup_insert] at h
        split at h
        · cases h
          exact hs
        · exact hr.origin id' c h
      · intro hb
        rw [hb] at hawait
        exact absurd hawait.1 (by decide)
    · exact hr

theorem Tracks.erase (hr : r.Tracks routing) (id : String) :
    Tracks routing { r with awaiting := r.awaiting.erase id } := by
  refine hr.less rfl (fun _ hc => hc) Std.ExtTreeMap.size_erase_le fun id' c h => ?_
  rw [Table.lookup_erase] at h
  split at h
  · cases h
  · exact h

theorem Tracks.forget (hr : r.Tracks routing) (sender : ConnectionId) (id : String) :
    (r.forget sender id).Tracks routing := by
  unfold Room.forget
  split
  · exact hr.erase id
  · exact hr

theorem answer_of_response {m : Message} {id : String} (hid : m.id = some id)
    (hfam : m.family = .response) :
    (r.answer .originator m).1 = { r with awaiting := r.awaiting.erase id } := by
  simp only [answer, hid, isAnswer, hfam, and_self, decide_true, if_true]
  split <;> rfl

/-- An answer takes the id off the table, or leaves the room as it was. -/
theorem answer_room (r : Room) (routing : Routing) (m : Message) :
    (r.answer routing m).1 = r ∨
      ∃ id, m.id = some id ∧ m.family = .response ∧ routing = .originator ∧
        (r.answer routing m).1 = { r with awaiting := r.awaiting.erase id } := by
  cases hid : m.id with
  | none => simp [answer, hid]
  | some id =>
    cases hans : isAnswer routing m with
    | false => simp [answer, hid, hans]
    | true =>
      obtain ⟨horig, hfam⟩ : routing = .originator ∧ m.family = .response := by
        simpa [isAnswer] using hans
      rw [horig]
      exact .inr ⟨id, rfl, hfam, rfl, answer_of_response hid hfam⟩

/-- A message goes to all mobiles, or to the one that its id is awaited by. -/
theorem answer_targets (r : Room) (routing : Routing) (m : Message) :
    (r.answer routing m).2 = r.mobiles.values ∨
      ∃ id origin t, m.id = some id ∧ m.family = .response ∧ (r.answer routing m).2 = [t] ∧
        r.awaiting[id]? = some origin ∧ r.mobiles[origin]? = some t := by
  cases hid : m.id with
  | none => simp [answer, hid]
  | some id =>
    cases hans : isAnswer routing m with
    | false => simp [answer, hid, hans]
    | true =>
      obtain ⟨rfl, hfam⟩ : routing = .originator ∧ m.family = .response := by
        simpa [isAnswer] using hans
      by_cases hw : ∃ origin, r.awaiting[id]? = some origin ∧ origin ∈ r.mobiles
      · obtain ⟨origin, hw, hm⟩ := hw
        obtain ⟨t, ht⟩ := Table.mem_iff_lookup.1 hm
        exact .inr ⟨id, origin, t, rfl, hfam, by rw [answer_one hid hfam hw ht], hw, ht⟩
      · left
        rw [answer_all hid hfam fun origin horigin hm => hw ⟨origin, horigin, hm⟩]

theorem Tracks.answer (hr : r.Tracks routing) (m : Message) :
    (r.answer routing m).1.Tracks routing := by
  obtain heq | ⟨id, -, -, -, heq⟩ := answer_room r routing m <;> rw [heq]
  · exact hr
  · exact hr.erase id

end Room

namespace Hub

/-! ## Every room -/

/-- Every room's commands are in order. -/
def Tracked (h : Hub) : Prop := ∀ account, (h.room account).Tracks h.config.routing

namespace Tracked

variable {h : Hub}

theorem empty (config : Config) : (Hub.empty config).Tracked := by
  intro account
  have hroom : (Hub.empty config).room account = .empty :=
    room_of_lookup_none Std.ExtTreeMap.getElem?_empty
  rw [hroom]
  exact Room.tracks_of_empty rfl

theorem of_tables {h' : Hub} (ht : h.Tracked) (hconf : h'.config = h.config)
    (hrooms : h'.rooms = h.rooms) : h'.Tracked := by
  intro account
  rw [room_eq, hrooms, hconf, ← room_eq]
  exact ht account

theorem setRoom (ht : h.Tracked) {account : AccountId} {r : Room}
    (hr : r.Tracks h.config.routing) : (h.setRoom account r).Tracked := by
  intro a
  rw [room_setRoom, setRoom_config]
  split
  · exact hr.kept
  · exact ht a

theorem detach (ht : h.Tracked) (c : ConnectionId) : (h.detach c).1.Tracked := by
  cases hi : h.index[c]? with
  | none =>
    rw [detach_of_not_mem (Table.not_mem_iff_lookup.2 hi)]
    exact ht
  | some account =>
    intro a
    rw [detach_room hi, detach_config]
    split
    · exact ((ht account).remove c).kept
    · exact ht a

theorem keptByDelivery : KeptByDelivery Tracked where
  push _ _ _ _ ht _ := ht.of_tables rfl rfl
  pushClose _ _ _ ht _ := ht.of_tables rfl rfl
  detach _ c ht := ht.detach c

theorem letIn (ht : h.Tracked) (c : Connection) : (h.letIn c).Tracked := by
  intro account
  rw [room_letIn, letIn_config]
  split
  · split
    · exact Room.tracks_of_empty rfl
    · exact (ht account).withMobile c
  · exact ht account

theorem register (ht : h.Tracked) (c : Connection) : (h.register c).1.Tracked := by
  have hcases := registering h c
  generalize h.register c = out at hcases
  cases hcases with
  | refused => exact ht
  | mobile => exact ht.letIn c
  | desktop => exact keptByDelivery.announce _ _ (ht.letIn c)

theorem evict (ht : h.Tracked) (account : AccountId) (device : DeviceId) :
    (h.evict account device).1.Tracked := by
  have hcases := evicting h account device
  generalize h.evict account device = out at hcases
  cases hcases with
  | absent => exact ht
  | evicted d =>
    refine keptByDelivery.announce _ _ (keptByDelivery.hubPushClose _ _ ?_)
    have hless : Hub.Tracked { h with index := h.index.erase d.id } := ht.of_tables rfl rfl
    exact hless.setRoom (Room.tracks_of_empty rfl)

theorem forget (ht : h.Tracked) (account : AccountId) (sender : ConnectionId)
    (id : Option String) : (h.forget account sender id).Tracked := by
  unfold Hub.forget
  split
  · rename_i id room hroom
    rw [← room_of_lookup hroom]
    exact ht.setRoom ((ht account).forget sender id)
  · exact ht

theorem remember (ht : h.Tracked) {account : AccountId} {sender : ConnectionId} {d : Connection}
    (m : Message) (hs : sender ∈ (h.room account).mobiles)
    (hd : (h.room account).desktop = some d) : (h.remember account sender m).Tracked :=
  ht.setRoom ((ht account).await m hs (by simp [hd]))

theorem toDesktop (ht : h.Tracked) (sender : ConnectionId) (m : Message) :
    (h.toDesktop sender m).1.Tracked := by
  have hcases := commanding h sender m
  generalize h.toDesktop sender m = out at hcases
  cases hcases with
  | unknown => exact ht
  | stranger => exact ht
  | offline => exact ht
  | passed account d b _ hm hd => exact (ht.remember m hm hd).of_tables rfl rfl
  | busy account d _ hm hd => exact (ht.remember m hm hd).forget account sender m.id
  | lost account d g _ hm hd hdel =>
    exact (hdel _ keptByDelivery (ht.remember m hm hd)).forget account sender m.id

theorem toMobiles (ht : h.Tracked) (sender : ConnectionId) (m : Message) :
    (h.toMobiles sender m).1.Tracked := by
  have hcases := answering h sender m
  generalize h.toMobiles sender m = out at hcases
  cases hcases with
  | unknown => exact ht
  | stranger => exact ht
  | passed account room targets _ _ ha =>
    have hroom := (ht account).answer m
    rw [ha] at hroom
    exact keptByDelivery.deliver _ (ht.setRoom hroom)

theorem next (ht : h.Tracked) (a : Action) : (h.next a).Tracked := by
  have hstep := stepping h a
  generalize h.next a = g at hstep
  cases hstep with
  | quiet g hconf hrooms => exact ht.of_tables hconf hrooms
  | register c => exact ht.register c
  | deregister c => exact keptByDelivery.deregister c ht
  | toDesktop sender m => exact ht.toDesktop sender m
  | toMobiles sender m => exact ht.toMobiles sender m
  | announce account n => exact keptByDelivery.announce account n ht
  | evict account device => exact ht.evict account device

theorem run (ht : h.Tracked) (as : List Action) : (h.run as).1.Tracked := by
  rw [run_fst]
  induction as generalizing h with
  | nil => exact ht
  | cons a as ih => exact ih (ht.next a)

end Tracked

/-! ## One action -/

/-- A mobile's command with an id gets to the desktop of its account. -/
def Queues (account : AccountId) (id : String) (c : ConnectionId) (d : Connection) (h : Hub)
    (a : Action) : Prop :=
  ∃ m, a.ask? = some (c, m) ∧ m.id = some id ∧ m.family = .command ∧
    c ∈ (h.room account).mobiles ∧ (h.room account).desktop = some d ∧
    (h.toDesktop c m).2 = .ok () ∧
    ((h.next a).outbox d.outbox).sent = (h.outbox d.outbox).sent ++ [.text m.raw]

/-- A response with an id is passed on to the mobiles of an account. -/
def Responds (account : AccountId) (id : String) (h : Hub) (a : Action) : Prop :=
  ∃ s m n, a.tell? = some (s, m) ∧ m.id = some id ∧ m.family = .response ∧
    h.index[s]? = some account ∧ (h.toMobiles s m).2 = .ok n

section Action

variable {h : Hub} {a : Action} {account : AccountId} {id : String} {c : ConnectionId}
  {d : Connection}

theorem Asks.queues (hask : Asks account id c h a) :
    ∃ d, Queues account id c d h a ∧ ((h.next a).room account).desktop = some d := by
  obtain ⟨m, ha, hi, hok, hid, hfam⟩ := hask
  have hnext := next_of_ask? (h := h) ha
  have hcases := commanding h c m
  generalize hout : h.toDesktop c m = out at hcases hok hnext
  cases hcases with
  | passed account' d b hi' hm hd hb =>
    rw [hi] at hi'
    cases hi'
    obtain ⟨-, -, rfl⟩ := Outbox.pushText_eq_ok.1 hb
    refine ⟨d, ⟨m, ha, hid, hfam, hm, hd, by rw [hout], ?_⟩, ?_⟩
    · simp [hnext]
    · simp [hnext, room_remember, hd]
  | unknown | stranger | offline | busy | lost => cases hok

theorem Queues.asks (hc : h.Consistent) (hq : Queues account id c d h a) :
    Asks account id c h a := by
  obtain ⟨m, ha, hid, hfam, hm, -, hok, -⟩ := hq
  exact ⟨m, ha, (hc.index_iff c account).2 (.inr hm), hok, hid, hfam⟩

theorem Responds.awaiting (hr : Responds account id h a) (horig : h.config.routing = .originator) :
    ((h.next a).room account).awaiting[id]? = none := by
  obtain ⟨s, m, n, ha, hid, hfam, hi, hok⟩ := hr
  rw [next_of_tell? ha]
  have hcases := answering h s m
  generalize h.toMobiles s m = out at hcases hok
  cases hcases with
  | unknown => cases hok
  | stranger => cases hok
  | passed account' room targets hi' _ hans =>
    rw [hi] at hi'
    cases hi'
    rw [horig] at hans
    have hroom := Room.answer_of_response (r := h.room account) hid hfam
    rw [hans] at hroom
    cases hw : (((h.setRoom account room).deliver (parcels targets m.raw)).1.room
      account).awaiting[id]? with
    | none => rfl
    | some c =>
      -- whatever is delivered brings nothing back to the table
      have hbefore := (deliver_recedes _ _).awaiting account id c hw
      rw [room_setRoom_self] at hbefore
      have hgone := Room.awaiting_of_kept hbefore
      dsimp only at hroom
      rw [hroom, Table.lookup_erase, if_pos rfl] at hgone
      cases hgone

/-- A desktop that has just come finds nothing awaited. -/
theorem awaiting_of_arrival (hc : h.Consistent) (hnew : d.id ∉ h.index)
    (harr : a.arrival? = some d.id) (hd : ((h.next a).room account).desktop = some d) :
    ((h.next a).room account).awaiting[id]? = none := by
  have hvacant : (h.room account).desktop ≠ some d := fun hold =>
    hc.not_holds hnew account (.inl (Room.isDesktop_iff.2 ⟨d, hold, rfl⟩))
  cases a with
  | register k =>
    change ((h.register k).1.room account).desktop = some d at hd
    change ((h.register k).1.room account).awaiting[id]? = none
    have hcases := registering h k
    generalize h.register k = out at hcases hd
    cases hcases with
    | refused => exact absurd hd hvacant
    | mobile hr hk =>
      -- a mobile changes nothing about the desktop
      refine absurd ?_ hvacant
      rw [room_letIn, hk] at hd
      split at hd <;> exact hd
    | desktop hr hk =>
      have hd' := (deliver_recedes _ _).desktop account d hd
      rw [room_letIn, hk] at hd'
      split at hd'
      · rename_i ha
        cases hw : (((h.letIn k).announce k.principal.account
          (presence true k.principal)).1.room account).awaiting[id]? with
        | none => rfl
        | some c =>
          have hw' := (deliver_recedes _ _).awaiting account id c hw
          rw [room_letIn, if_pos ha, hk] at hw'
          simp [Room.withDesktop] at hw'
      · exact absurd hd' hvacant
  | _ => cases harr

/-- What is awaited after an action was asked with it, or was awaited before it at the same
desktop, and was neither taken over nor answered. -/
theorem outstanding_next (hc : h.Consistent) (ht : h.Tracked)
    (hnew : ∀ c, a.arrival? = some c → c ∉ h.index)
    (hw : ((h.next a).room account).awaiting[id]? = some c)
    (hd : ((h.next a).room account).desktop = some d) :
    Queues account id c d h a ∨
      (h.room account).awaiting[id]? = some c ∧ (h.room account).desktop = some d ∧
      ¬ ((∃ c', c' ≠ c ∧ Queues account id c' d h a) ∨ Responds account id h a) := by
  obtain hold | hask := (gains_next h a).awaiting account id c hw
  · right
    -- something was awaited, so responses go to originators only
    have horig : h.config.routing = .originator := by
      cases hrouting : h.config.routing with
      | originator => rfl
      | broadcast =>
        rw [(ht account).routing hrouting] at hold
        simp at hold
    refine ⟨hold, ?_, ?_⟩
    · -- had the desktop come just now, nothing would be awaited
      obtain hd' | harr := (gains_next h a).desktop account d hd
      · exact hd'
      · rw [awaiting_of_arrival hc (hnew d.id harr) harr hd] at hw
        cases hw
    · rintro (⟨c', hne, hq⟩ | hresp)
      · exact hne ((hq.asks hc).awaiting horig hw).symm
      · rw [hresp.awaiting horig] at hw
        cases hw
  · -- the action made the entry, and the desktop that got the command is still there
    left
    obtain ⟨d', hq, hd'⟩ := hask.queues
    rw [hd] at hd'
    cases hd'
    exact hq

end Action

/-! ## Every run -/

/-- In a run a mobile has sent a command with an id that got to a desktop; since then no
other mobile's command with the id got there, and no response with it was passed on. -/
def Outstanding (h : Hub) (as : List Action) (account : AccountId) (id : String)
    (c : ConnectionId) (d : Connection) : Prop :=
  ∃ earlier ask later, as = earlier ++ ask :: later ∧
    Queues account id c d (h.run earlier).1 ask ∧
    ¬ Occurs next (fun g a => (∃ c', c' ≠ c ∧ Queues account id c' d g a) ∨
      Responds account id g a) ((h.run earlier).1.next ask) later

theorem outstanding_of_awaiting {config : Config} {as : List Action}
    (hfresh : (arrivals as).Nodup) {account : AccountId} {id : String} {c : ConnectionId}
    {d : Connection} (hw : (((empty config).run as).1.room account).awaiting[id]? = some c)
    (hd : (((empty config).run as).1.room account).desktop = some d) :
    Outstanding (empty config) as account id c d := by
  -- by the last action of the run: the entry is of its making, or was there before it
  induction as using List.reverseRecOn with
  | nil => simp [run, empty, room_eq, Room.empty] at hw
  | append_singleton as a ih =>
    rw [arrivals_append] at hfresh
    obtain ⟨hfresh', -, hapart⟩ := List.nodup_append.1 hfresh
    rw [run_concat] at hw hd
    have hnew : ∀ c, a.arrival? = some c → c ∉ ((empty config).run as).1.index :=
      fun c harr hin => hapart c (mem_arrivals_of_mem_index hin) c (by simp [arrivals, harr]) rfl
    obtain hq | ⟨hw', hd', hnone⟩ := outstanding_next (consistent_of_run config hfresh')
      ((Tracked.empty config).run as) hnew hw hd
    · exact ⟨as, a, [], rfl, hq, by simp [Occurs]⟩
    · obtain ⟨earlier, ask, later, rfl, hq, hquiet⟩ := ih hfresh' hw' hd'
      refine ⟨earlier, ask, later ++ [a], by simp, hq, ?_⟩
      rw [occurs_append]
      rintro (hocc | hocc | hocc)
      · exact hquiet hocc
      · rw [run_append, run_fst _ (ask :: later), List.foldl_cons] at hnone
        exact hnone hocc
      · exact hocc

/-- In every state that a run leads to, the commands that a room remembers are no more than
its limit, there are none without a desktop or if responses go to all, and each entry
names a mobile that is there and that has an outstanding command with the id at the
desktop.  A message of the desktop goes to all mobiles, or to one with such a command. -/
theorem awaiting_outstanding (config : Config) (as : List Action)
    (hfresh : (arrivals as).Nodup) (account : AccountId) :
    let h := ((empty config).run as).1
    let r := h.room account
    r.awaiting.size ≤ 1024 ∧ (r.desktop = none → r.awaiting = ∅) ∧
    (config.routing = .broadcast → r.awaiting = ∅) ∧
    (∀ (id : String) (c : ConnectionId), r.awaiting[id]? = some c →
      c ∈ r.mobiles ∧ h.index[c]? = some account ∧
      ∃ d, r.desktop = some d ∧ Outstanding (empty config) as account id c d) ∧
    ∀ s m, h.index[s]? = some account → r.isDesktop s = true →
      ∃ targets, (h.toMobiles s m).1
          = ((h.setRoom account (r.answer config.routing m).1).deliver (parcels targets m.raw)).1 ∧
        (targets = r.mobiles.values ∨
          ∃ id t d, m.id = some id ∧ m.family = .response ∧ targets = [t] ∧
            r.mobiles[t.id]? = some t ∧ r.desktop = some d ∧ d.id = s ∧
            Outstanding (empty config) as account id t.id d) := by
  intro h r
  have hc : h.Consistent := consistent_of_run config hfresh
  have hconf : h.config = config := (gains_run (empty config) as).config
  have ht : r.Tracks config.routing := hconf ▸ (Tracked.empty config).run as account
  -- there is no entry without a desktop, and an entry is that of an outstanding command
  have hentry : ∀ (id : String) (c : ConnectionId), r.awaiting[id]? = some c →
      c ∈ r.mobiles ∧ h.index[c]? = some account ∧
      ∃ d, r.desktop = some d ∧ Outstanding (empty config) as account id c d := by
    intro id c hw
    have hm := ht.origin id c hw
    refine ⟨hm, (hc.index_iff c account).2 (.inr hm), ?_⟩
    cases hd : r.desktop with
    | none =>
      rw [ht.desktop hd] at hw
      simp at hw
    | some d => exact ⟨d, rfl, outstanding_of_awaiting hfresh hw hd⟩
  refine ⟨ht.size, ht.desktop, ht.routing, hentry, fun s m hi hs => ?_⟩
  refine ⟨(r.answer config.routing m).2, ?_, ?_⟩
  · have hans : r.answer h.config.routing m
        = ((r.answer config.routing m).1, (r.answer config.routing m).2) := by rw [hconf]
    rw [toMobiles_of_answer hi hs hans]
  · obtain hall | ⟨id, origin, t, hid, hfam, hone, hw, hm⟩ := Room.answer_targets r config.routing m
    · exact .inl hall
    · -- the only one that is answered is named by an entry
      right
      obtain ⟨rfl, -⟩ := (hc.wellFormed account).mobile _ t hm
      obtain ⟨-, -, d, hd, hout⟩ := hentry id t.id hw
      obtain ⟨d', hd', hid'⟩ := Room.isDesktop_iff.1 hs
      cases hd.symm.trans hd'
      exact ⟨id, t, d, hid, hfam, hone, hm, hd, hid', hout⟩

/-- Two mobiles have asked with ids of their own, and both wait for the desktop. -/
theorem awaiting_outstanding_both :
    (arrivals (sharing "2")).Nodup ∧
      ∀ id c, (id = "1" ∧ c = ⟨1⟩ ∨ id = "2" ∧ c = ⟨2⟩) →
        ∃ d, ((shared "2").room ⟨10⟩).desktop = some d ∧
          Outstanding (empty { routing := .originator }) (sharing "2") ⟨10⟩ id c d := by
  have hfresh : (arrivals (sharing "2")).Nodup := by decide
  have hentries :=
    (awaiting_outstanding { routing := .originator } (sharing "2") hfresh ⟨10⟩).2.2.2.1
  refine ⟨hfresh, ?_⟩
  rintro id c (⟨rfl, rfl⟩ | ⟨rfl, rfl⟩)
  · exact (hentries "1" ⟨1⟩ (by rfl)).2.2
  · exact (hentries "2" ⟨2⟩ (by rfl)).2.2

end Hub

end Switchboard
