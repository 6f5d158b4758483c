import Switchboard.Proofs.Hub.Fanout
import Switchboard.Proofs.Hub.Runs

/-! # Responses for one mobile

If responses go to originators only, the response to a command goes to the mobile that
the id of the command is awaited by.  The mobiles choose the ids on their own, and a room
remembers one mobile for an id: a command that another mobile sends later with the same
id takes the response away from the mobile that asked first.

* `Room.answer_one`, `Room.answer_all` — whom a response goes to;
* `Gains.mobile_stays`, `Gains.desktop_stays` — a connection that stays registered stays
  what it is;
* `Supplants` — another mobile has taken an id over;
* `response_reaches_asker` — a response reaches the mobile that asked, unless another
  one has taken the id over.
-/

namespace Switchboard

namespace Room

/-! ## Whom a response goes to -/

variable {r : Room} {m : Message} {id : String}

/-- A response goes to the mobile that its id is awaited by, if that is still there. -/
theorem answer_one {origin : ConnectionId} {c : Connection} (hid : m.id = some id)
    (hfam : m.family = .response) (hw : r.awaiting[id]? = some origin)
    (hc : r.mobiles[origin]? = some c) :
    r.answer .originator m = ({ r with awaiting := r.awaiting.erase id }, [c]) := by
  unfold answer
  simp [hid, isAnswer, hfam, hw, hc]

/-- A response that nobody who is there awaits goes to every mobile. -/
theorem answer_all (hid : m.id = some id) (hfam : m.family = .response)
    (hw : ∀ origin, r.awaiting[id]? = some origin → origin ∉ r.mobiles) :
    r.answer .originator m = ({ r with awaiting := r.awaiting.erase id }, r.mobiles.values) := by
  have hnone : ((r.awaiting[id]?).bind fun origin => r.mobiles[origin]?) = none := by
    cases horigin : r.awaiting[id]? with
    | none => rfl
    | some origin => exact Table.not_mem_iff_lookup.1 (hw origin horigin)
  unfold answer
  simp [hid, isAnswer, hfam, hnone]

/-- A command that was remembered, or could not be, is awaited by nobody but its sender. -/
theorem awaiting_await_self {sender c : ConnectionId} (hid : m.id = some id)
    (hfam : m.family = .command)
    (hw : (r.await .originator sender m).awaiting[id]? = some c) : c = sender := by
  unfold await at hw
  rw [hid] at hw
  dsimp only at hw
  split at hw
  · rw [Table.lookup_insert, if_pos rfl] at hw
    exact (Option.some.inj hw).symm
  · rename_i hfull
    exact absurd ⟨rfl, hfam, .inr (Table.mem_of_lookup hw)⟩ hfull

end Room

namespace Hub

/-! ## Staying -/

section Stays

variable {new : ConnectionId → Prop} {asked : AccountId → String → ConnectionId → Prop}
  {h h' : Hub} {account : AccountId} {c : ConnectionId}

/-- A connection that is registered throughout stays in its room. -/
theorem Gains.holds_stays (g : Gains new asked h h') (hc : h.Consistent) (hc' : h'.Consistent)
    (hh : (h.room account).Holds c) (hnew : ¬ new c) (hin : c ∈ h'.index) :
    h'.index[c]? = some account ∧ (h'.room account).Holds c := by
  obtain ⟨account', hi'⟩ := Table.mem_iff_lookup.1 hin
  obtain hi | hcame := g.index c account' hi'
  · rw [(hc.index_iff c account).2 hh] at hi
    cases hi
    exact ⟨hi', (hc'.index_iff c account).1 hi'⟩
  · exact absurd hcame hnew

theorem Gains.mobile_stays (g : Gains new asked h h') (hc : h.Consistent) (hc' : h'.Consistent)
    (hm : c ∈ (h.room account).mobiles) (hnew : ¬ new c) (hin : c ∈ h'.index) :
    c ∈ (h'.room account).mobiles := by
  obtain hd | hm' := (g.holds_stays hc hc' (.inr hm) hnew hin).2
  · -- a desktop of that name was one before, when the name was a mobile's
    obtain ⟨d, hdesk, rfl⟩ := Room.isDesktop_iff.1 hd
    obtain hdesk' | hcame := g.desktop account d hdesk
    · exact absurd hm ((hc.wellFormed account).apart d hdesk')
    · exact absurd hcame hnew
  · exact hm'

theorem Gains.desktop_stays (g : Gains new asked h h') (hc : h.Consistent)
    (hc' : h'.Consistent) (hd : (h.room account).isDesktop c = true) (hnew : ¬ new c)
    (hin : c ∈ h'.index) :
    h'.index[c]? = some account ∧ (h'.room account).isDesktop c = true := by
  obtain ⟨hi', hd' | hm⟩ := g.holds_stays hc hc' (.inl hd) hnew hin
  · exact ⟨hi', hd'⟩
  · obtain ⟨m, hm⟩ := Table.mem_iff_lookup.1 hm
    obtain hm' | hcame := g.mobile account c m hm
    · obtain ⟨d, hdesk, rfl⟩ := Room.isDesktop_iff.1 hd
      exact absurd (Table.mem_of_lookup hm') ((hc.wellFormed account).apart d hdesk)
    · exact absurd hcame hnew

end Stays

/-! ## Asking -/

theorem Asks.mem_mobiles {h : Hub} {a : Action} {account : AccountId} {id : String}
    {asker : ConnectionId} (hask : Asks account id asker h a) :
    asker ∈ (h.room account).mobiles := by
  obtain ⟨m, -, hi, hok, -⟩ := hask
  have hcases := commanding h asker m
  generalize h.toDesktop asker m = out at hcases hok
  cases hcases with
  | passed account' d b hi' hm =>
    rw [hi] at hi'
    cases hi'
    exact hm
  | unknown | stranger | offline | busy | lost => cases hok

/-- Right after a mobile asked with an id, nobody else is answered under it. -/
theorem Asks.awaiting {h : Hub} {a : Action} {account : AccountId} {id : String}
    {asker c : ConnectionId} (hask : Asks account id asker h a)
    (horig : h.config.routing = .originator)
    (hw : ((h.next a).room account).awaiting[id]? = some c) : c = asker := by
  obtain ⟨m, ha, hi, hok, hid, hfam⟩ := hask
  rw [next_of_ask? ha] at hw
  have hcases := commanding h asker m
  generalize h.toDesktop asker m = out at hcases hok hw
  cases hcases with
  | passed account' d b hi' =>
    rw [hi] at hi'
    cases hi'
    rw [setOutbox_room, room_remember, if_pos rfl, horig] at hw
    exact Room.awaiting_await_self hid hfam (Room.awaiting_of_kept hw)
  | unknown | stranger | offline | busy | lost => cases hok

/-- A connection that is there has come in the run. -/
theorem mem_arrivals_of_mem_index {config : Config} {as : List Action} {c : ConnectionId}
    (hin : c ∈ ((empty config).run as).1.index) : c ∈ arrivals as := by
  obtain ⟨account, hi⟩ := Table.mem_iff_lookup.1 hin
  obtain hi' | hcame := (gains_run (empty config) as).index c account hi
  · simp [empty] at hi'
  · exact hcame

/-! ## Answering -/

/-- Another mobile, which is there, is the one that a response is awaited by. -/
def Supplants (h : Hub) (account : AccountId) (id : String) (asker : ConnectionId)
    (other : Connection) : Prop :=
  other.id ≠ asker ∧ (h.room account).awaiting[id]? = some other.id ∧
    (h.room account).mobiles[other.id]? = some other

theorem toMobiles_of_answer {h : Hub} {d : ConnectionId} {account : AccountId} {m : Message}
    {room : Room} {targets : List Connection} (hi : h.index[d]? = some account)
    (hd : (h.room account).isDesktop d = true)
    (ha : (h.room account).answer h.config.routing m = (room, targets)) :
    h.toMobiles d m = (((h.setRoom account room).deliver (parcels targets m.raw)).1,
      .ok ((h.setRoom account room).deliver (parcels targets m.raw)).2) := by
  unfold toMobiles
  simp only [hi, hd, if_true, ha]

section Answering

variable {h : Hub} {account : AccountId} {d asker : ConnectionId} {m : Message} {id : String}

/-- If nobody has taken the id over, the mobile that asked is among those that a response
goes to. -/
theorem mem_targets {c : Connection} (hwf : (h.room account).WellFormed account)
    (hid : m.id = some id) (hfam : m.family = .response)
    (hc : (h.room account).mobiles[asker]? = some c)
    (hnone : ∀ other, ¬ h.Supplants account id asker other) :
    ∃ targets, (h.room account).answer .originator m
        = ({ h.room account with awaiting := (h.room account).awaiting.erase id }, targets) ∧
      c ∈ targets ∧ ∀ t ∈ targets, t.id ∈ (h.room account).mobiles := by
  have hvalues : ∀ t ∈ (h.room account).mobiles.values, t.id ∈ (h.room account).mobiles := by
    intro t ht
    obtain ⟨k, hk⟩ := Table.mem_values.1 ht
    obtain ⟨rfl, -⟩ := hwf.mobile k t hk
    exact Table.mem_of_lookup hk
  by_cases hw : ∃ origin, (h.room account).awaiting[id]? = some origin ∧
      origin ∈ (h.room account).mobiles
  · -- a mobile that is there is awaiting it: that can only be the one that asked
    obtain ⟨origin, hw, hm⟩ := hw
    obtain ⟨c', hc'⟩ := Table.mem_iff_lookup.1 hm
    obtain ⟨rfl, -⟩ := hwf.mobile origin c' hc'
    have hsame : c'.id = asker := by
      by_contra hne
      exact hnone c' ⟨hne, hw, hc'⟩
    have heq : c' = c := by
      rw [hsame, hc] at hc'
      exact (Option.some.inj hc').symm
    refine ⟨[c'], Room.answer_one hid hfam hw hc', ?_, ?_⟩
    · rw [heq]
      exact List.mem_singleton_self c
    · intro t ht
      rw [List.mem_singleton.1 ht]
      exact hm
  · -- nobody who is there is awaiting it, and everybody gets it
    refine ⟨_, Room.answer_all hid hfam fun origin horigin hm => hw ⟨origin, horigin, hm⟩,
      Table.mem_values.2 ⟨asker, hc⟩, hvalues⟩

/-- Answering a command makes no mobile a desktop. -/
theorem Consistent.quiet_erase (hcon : h.Consistent) {c : ConnectionId}
    (hm : c ∈ (h.room account).mobiles) :
    (h.setRoom account
      { h.room account with awaiting := (h.room account).awaiting.erase id }).Quiet c := by
  have hcon' : (h.setRoom account
      { h.room account with awaiting := (h.room account).awaiting.erase id }).Consistent :=
    hcon.setRoom_of_members rfl rfl
  have hm' : c ∈ ((h.setRoom account
      { h.room account with awaiting := (h.room account).awaiting.erase id }).room
        account).mobiles := by
    rw [room_setRoom_self, Room.kept_mobiles]
    exact hm
  exact hcon'.quiet hm'

/-- If nobody has taken the id over, a response is put into the outbox of the mobile that
asked, if there is room in it. -/
theorem sent_response {c : Connection} (hcon : h.Consistent)
    (horig : h.config.routing = .originator) (hi : h.index[d]? = some account)
    (hd : (h.room account).isDesktop d = true) (hid : m.id = some id)
    (hfam : m.family = .response) (hc : (h.room account).mobiles[asker]? = some c)
    (hnone : ∀ other, ¬ h.Supplants account id asker other)
    (hlive : (h.outbox c.outbox).live = true)
    (hroom : (h.outbox c.outbox).depth < (h.outbox c.outbox).capacity) :
    ∃ more, ((h.toMobiles d m).1.outbox c.outbox).sent
      = (h.outbox c.outbox).sent ++ .text m.raw :: more := by
  obtain ⟨targets, ha, hmem, hmobile⟩ :=
    mem_targets (hcon.wellFormed account) hid hfam hc hnone
  rw [← horig] at ha
  rw [toMobiles_of_answer hi hd ha]
  refine sent_deliver ?_ ?_ ⟨⟨c.id, c.outbox, m.raw⟩, List.mem_map_of_mem hmem, rfl⟩ hlive hroom
  · intro p hp
    obtain ⟨t, ht, rfl⟩ := List.mem_map.1 hp
    exact hcon.quiet_erase (hmobile t ht)
  · intro p hp
    obtain ⟨t, -, rfl⟩ := List.mem_map.1 hp
    rfl

/-- If another mobile has taken the id over, the response goes to that mobile and changes
no other outbox. -/
theorem outbox_response_ne {other : Connection} (hcon : h.Consistent)
    (horig : h.config.routing = .originator) (hi : h.index[d]? = some account)
    (hd : (h.room account).isDesktop d = true) (hid : m.id = some id)
    (hfam : m.family = .response) (hs : h.Supplants account id asker other) {o : OutboxId}
    (ho : other.outbox ≠ o) : (h.toMobiles d m).1.outbox o = h.outbox o := by
  obtain ⟨-, hw, hc⟩ := hs
  have ha := Room.answer_one hid hfam hw hc
  rw [← horig] at ha
  rw [toMobiles_of_answer hi hd ha, parcels, List.map_cons, List.map_nil, deliver_cons, deliver]
  exact outbox_deliverTo_ne (hcon.quiet_erase (Table.mem_of_lookup hc)) ho

end Answering

/-- With responses for originators only, a response with the id of a command that a mobile
sent earlier is passed on while the mobile and the desktop are still registered.  Unless
another mobile has taken the id over it is put into the outbox of the mobile that asked,
if there is room in it.  If another mobile has, that mobile has sent a command with the
same id in the meantime, and the response goes to that mobile only. -/
theorem response_reaches_asker {config : Config} {before between : List Action}
    {ask answer : Action} {account : AccountId} {asker d : ConnectionId} {id : String}
    {m : Message} (horig : config.routing = .originator)
    (hfresh : (arrivals (before ++ ask :: between)).Nodup)
    (hask : Asks account id asker ((empty config).run before).1 ask)
    (hdesk : (((empty config).run before).1.room account).isDesktop d = true)
    (hasker : asker ∈ ((empty config).run (before ++ ask :: between)).1.index)
    (hd : d ∈ ((empty config).run (before ++ ask :: between)).1.index)
    (htell : answer.tell? = some (d, m)) (hid : m.id = some id) (hfam : m.family = .response) :
    let h := ((empty config).run (before ++ ask :: between)).1
    ∃ c n, (h.room account).mobiles[asker]? = some c ∧ (h.toMobiles d m).2 = .ok n ∧
      ((∀ other, ¬ h.Supplants account id asker other) →
        (h.outbox c.outbox).live = true →
        (h.outbox c.outbox).depth < (h.outbox c.outbox).capacity →
        ∃ more, ((h.next answer).outbox c.outbox).sent
          = (h.outbox c.outbox).sent ++ .text m.raw :: more) ∧
      ∀ other, h.Supplants account id asker other →
        Occurs next (Asks account id other.id)
          (((empty config).run before).1.next ask) between ∧
        ∀ o, other.outbox ≠ o → (h.next answer).outbox o = h.outbox o := by
  intro h
  have happ := hfresh
  rw [arrivals_append] at happ
  obtain ⟨hfresh₀, -, hapart⟩ := List.nodup_append.1 happ
  have hcon₀ : ((empty config).run before).1.Consistent := consistent_of_run config hfresh₀
  have hcon : h.Consistent := consistent_of_run config hfresh
  have hrun : h = (((empty config).run before).1.run (ask :: between)).1 := run_append _ _ _
  have hgains := gains_run ((empty config).run before).1 (ask :: between)
  rw [← hrun] at hgains
  have hconf : h.config.routing = .originator := by
    rw [(gains_run (empty config) (before ++ ask :: between)).config]
    exact horig
  -- whoever was there when the command was sent does not come again
  have hold : ∀ c ∈ ((empty config).run before).1.index, c ∉ arrivals (ask :: between) :=
    fun c hin hnew => hapart c (mem_arrivals_of_mem_index hin) c hnew rfl
  have hm₀ := hask.mem_mobiles
  have hm := hgains.mobile_stays hcon₀ hcon hm₀
    (hold asker (Table.mem_of_lookup ((hcon₀.index_iff asker account).2 (.inr hm₀)))) hasker
  obtain ⟨hi, hd'⟩ := hgains.desktop_stays hcon₀ hcon hdesk
    (hold d (Table.mem_of_lookup ((hcon₀.index_iff d account).2 (.inl hdesk)))) hd
  obtain ⟨c, hc⟩ := Table.mem_iff_lookup.1 hm
  rw [next_of_tell? htell]
  refine ⟨c, _, hc, by rw [toMobiles_of_answer hi hd' rfl], ?_, ?_⟩
  · intro hnone hlive hroom
    exact sent_response hcon hconf hi hd' hid hfam hc hnone hlive hroom
  · intro other hs
    refine ⟨?_, fun o ho => outbox_response_ne hcon hconf hi hd' hid hfam hs ho⟩
    obtain hbefore | hocc := (gains_run (((empty config).run before).1.next ask) between).awaiting
      account id other.id (hrun ▸ hs.2.1)
    · -- right after the command the id was awaited by the mobile that sent it, if at all
      refine absurd (hask.awaiting ?_ hbefore) hs.1
      rw [(gains_run (empty config) before).config]
      exact horig
    · exact hocc

/-- Two mobiles and a desktop come. -/
def gathering : List Action :=
  [.attach 1 16, .attach 2 16, .attach 3 16, .register ⟨⟨1⟩, .mobile ⟨10⟩, 1⟩,
    .register ⟨⟨2⟩, .mobile ⟨10⟩, 2⟩, .register ⟨⟨3⟩, .desktop ⟨10⟩ ⟨20⟩ "desk", 3⟩]

/-- Both mobiles send the same command, the second one with an id of its choice. -/
def sharing (id : String) : List Action :=
  gathering ++ .toDesktop ⟨1⟩ ⟨.listJobs, some "1", "list jobs"⟩ ::
    [.toDesktop ⟨2⟩ ⟨.listJobs, some id, "list jobs"⟩]

/-- The hub after both commands. -/
def shared (id : String) : Hub := ((empty { routing := .originator }).run (sharing id)).1

/-- The desktop answers the first command. -/
def answering1 : Action := .toMobiles ⟨3⟩ ⟨.jobsList, some "1", "jobs"⟩

/-- With different ids the response reaches the mobile that asked first. -/
theorem response_reaches_asker_other_id :
    (arrivals (sharing "2")).Nodup ∧
      ∃ more, (((shared "2").next answering1).outbox 1).sent
        = ((shared "2").outbox 1).sent ++ .text "jobs" :: more := by
  have hfresh : (arrivals (sharing "2")).Nodup := by decide
  have hask : Asks ⟨10⟩ "1" ⟨1⟩ ((empty { routing := .originator }).run gathering).1
      (.toDesktop ⟨1⟩ ⟨.listJobs, some "1", "list jobs"⟩) :=
    ⟨_, rfl, by rfl, by rfl, rfl, rfl⟩
  have horig : ({ routing := .originator } : Config).routing = .originator := rfl
  have htell : answering1.tell? = some (⟨3⟩, ⟨.jobsList, some "1", "jobs"⟩) := rfl
  obtain ⟨c, n, hc, -, hsent, -⟩ := response_reaches_asker horig hfresh hask
    (by decide +kernel) (by decide +kernel) (by decide +kernel) htell rfl rfl
  have hc' : ((shared "2").room ⟨10⟩).mobiles[(⟨1⟩ : ConnectionId)]?
      = some ⟨⟨1⟩, .mobile ⟨10⟩, 1⟩ := by rfl
  have hw : ((shared "2").room ⟨10⟩).awaiting["1"]? = some ⟨1⟩ := by rfl
  change ((shared "2").room ⟨10⟩).mobiles[(⟨1⟩ : ConnectionId)]? = some c at hc
  rw [hc'] at hc
  cases hc
  refine ⟨hfresh, hsent (fun other hs => ?_) (by decide +kernel) (by decide +kernel)⟩
  obtain ⟨hne, hw', -⟩ := hs
  change ((shared "2").room ⟨10⟩).awaiting["1"]? = some other.id at hw'
  rw [hw] at hw'
  exact hne (Option.some.inj hw').symm

/-- With the same id the second mobile takes the response away from the first, which has
room for it and gets nothing. -/
theorem response_taken_by_second :
    (arrivals (sharing "1")).Nodup ∧
      ⟨1⟩ ∈ (shared "1").index ∧ ⟨3⟩ ∈ (shared "1").index ∧
      ((shared "1").outbox 1).live = true ∧
      ((shared "1").outbox 1).depth < ((shared "1").outbox 1).capacity ∧
      ((shared "1").toMobiles ⟨3⟩ ⟨.jobsList, some "1", "jobs"⟩).2 = .ok 1 ∧
      (((shared "1").next answering1).outbox 1).sent = ((shared "1").outbox 1).sent ∧
      (((shared "1").next answering1).outbox 2).sent
        = ((shared "1").outbox 2).sent ++ [.text "jobs"] :=
  ⟨by decide, by decide +kernel, by decide +kernel, by decide +kernel, by decide +kernel,
    by rfl, by decide +kernel, by decide +kernel⟩

end Hub

end Switchboard
