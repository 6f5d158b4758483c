import Switchboard.Proofs.Hub.Following
import Switchboard.Proofs.Hub.Presence

/-! # What the desktop says reaches all mobiles

If responses go to all mobiles, a registered mobile is offered every response and event that
whoever is its account's desktop at that moment routes, and nothing else but notices of the
relay that a desktop has come or gone.  What it is offered is put into its outbox unless the
outbox refuses it, and if such connections are closed, that costs the mobile its place.

* `isMessage`, `saying`, `sayings` — what a desktop says to a mobile, in an action and in a run;
* `effectOn_of_saying`, `presence_of_silence` — a registered mobile's effect;
* `told_offered` — one action, for any connection that can be followed;
* `told_sayings`, `taken_of_registered` — a whole run;
* `broadcast_complete` — a mobile gets all that the desktop says, in order and unchanged.
-/

namespace Switchboard

/-- The text of an effect, if it is one. -/
def Hub.Effect.text? : Hub.Effect → Option String
  | .text t => some t
  | .nothing | .dismissal _ | .removal => none

namespace Hub

/-! ## What a desktop says -/

/-- A frame is a response or an event. -/
def isMessage (text : String) : Bool :=
  match Message.read text with
  | .ok m => m.family = .response ∨ m.family = .event
  | .error _ => false

/-- What the desktop of a registered mobile's account says to the mobiles. -/
def saying (h : Hub) (m : Connection) : Action → Option String
  | .route sender role text =>
    if m.id ∈ h.index ∧ (h.room m.principal.account).isDesktop sender ∧ role = .desktop ∧
        isMessage text then
      some text
    else none
  | _ => none

/-- What the desktop says along a run, and whether the mobile's outbox takes it. -/
def sayings (h : Hub) (m : Connection) : List Action → List (String × Bool)
  | [] => []
  | a :: as =>
    ((h.saying m a).map fun text => (text, decide (h.outbox m.outbox).Takes)).toList
      ++ (h.next a).sayings m as

variable {h : Hub} {m : Connection} {a : Action} {as : List Action} {text : String}

theorem isMessage_iff : isMessage text = true ↔
    ∃ msg, Message.read text = .ok msg ∧ msg.family.toMobiles = true := by
  unfold isMessage
  cases Message.read text with
  | error e => simp
  | ok msg =>
    simp only [decide_eq_true_eq, Except.ok.injEq, exists_eq_left']
    cases msg.family <;> simp [Message.Family.toMobiles]

/-! ## A registered mobile's effect -/

theorem tell?_of_saying (hs : h.saying m a = some text) :
    ∃ sender msg, a.tell? = some (sender, msg) ∧ msg.raw = text ∧ isPresence text = false ∧
      (h.room m.principal.account).isDesktop sender = true := by
  cases a with
  | route sender role t =>
    simp only [saying, Option.ite_none_right_eq_some, Option.some.injEq] at hs
    obtain ⟨⟨-, hdesk, rfl, hmessage⟩, rfl⟩ := hs
    obtain ⟨msg, hread, hfam⟩ := isMessage_iff.1 hmessage
    have htell : (Action.route sender .desktop t).tell? = some (sender, msg) := by
      simp [Action.tell?, Action.frame?, hread, hfam]
    have hraw := Message.raw_of_read hread
    exact ⟨sender, msg, htell, hraw, hraw ▸ isPresence_of_route htell, hdesk⟩
  | _ => cases hs

theorem answer_broadcast (r : Room) (msg : Message) :
    (r.answer .broadcast msg).2 = r.mobiles.values := by
  unfold Room.answer
  cases msg.id <;> simp [Room.isAnswer]

/-- What the desktop says is what is held for a registered mobile. -/
theorem effectOn_of_saying (hh : h.Seated m) (hrole : m.principal.role = .mobile)
    (hrouting : h.config.routing = .broadcast) (hs : h.saying m a = some text) :
    h.effectOn m a = .text text := by
  obtain ⟨sender, msg, htell, rfl, -, hdesk⟩ := tell?_of_saying hs
  have hask : a.ask? = none := by
    cases hask : a.ask? with
    | none => rfl
    | some ask => simp [Action.tell?_of_ask? hask] at htell
  obtain ⟨d, hd, rfl⟩ := Room.isDesktop_iff.1 hdesk
  have htarget : m ∈ ((h.room m.principal.account).answer h.config.routing msg).2 := by
    rw [hrouting, answer_broadcast]
    exact (hh.mobile_iff _).2 ⟨rfl, hrole⟩
  simp [effectOn, hask, htell, messageEffect, hh.consistent.index_desktop hd, hdesk, htarget]

/-- What else there is for a registered mobile is a notice that a desktop has come or gone. -/
theorem presence_of_silence (hh : h.Seated m) (hrole : m.principal.role = .mobile)
    (hrouted : ∀ sender msg, a ≠ .toMobiles sender msg) (hs : h.saying m a = none)
    (heffect : h.effectOn m a = .text text) : isPresence text = true := by
  have hcauses := causes_effectOn h m a
  rw [heffect] at hcauses
  cases hcauses with
  | presence online d => exact isPresence_presence online d.principal
  | announced online device name => exact isPresence_desktopStatus online device name
  | command sender msg account _ hd =>
    have hdesktop := ((hh.desktop_iff account).1 hd).2
    rw [hrole] at hdesktop
    cases hdesktop
  | message sender msg account htell hdesk htarget =>
    -- whatever goes to the mobiles has been said by their desktop
    obtain ⟨key, hkey⟩ := Room.lookup_of_answer htarget
    obtain ⟨rfl, -⟩ := (hh.mobile_iff account).1 (Table.mem_values.2 ⟨key, hkey⟩)
    cases a with
    | toMobiles => exact absurd rfl (hrouted _ _)
    | route s role t =>
      obtain ⟨msg', hframe, heq⟩ := Option.map_eq_some_iff.1 htell
      cases heq
      obtain ⟨hread, rfl, hfam⟩ := Action.frame?_eq_some.1 hframe
      have hmessage : isMessage t = true := isMessage_iff.2 ⟨msg, hread, hfam⟩
      simp [saying, hh.mem_index, hdesk, hmessage] at hs
    | _ => cases htell

/-! ## One action -/

theorem Effect.told_puts (overflow : Overflow) (b : Outbox) (e : Effect) :
    (e.puts overflow b).filterMap Outbox.Item.text?
      = if b.Takes then e.text?.toList else [] := by
  cases e with
  | nothing | removal => simp [Effect.puts, Effect.text?]
  | dismissal reason =>
    cases hl : b.live <;> simp [Effect.puts, Effect.text?, hl, Outbox.Item.text?]
  | text t =>
    simp only [Effect.puts, Effect.text?, Outbox.Takes]
    by_cases hlive : b.live = true
    · by_cases hroom : b.depth < b.capacity
      · simp [hlive, hroom, Outbox.Item.text?]
      · cases overflow <;> simp [hlive, hroom, Outbox.Item.text?]
    · simp [hlive]

/-- A registered connection's outbox is offered what is held for the connection. -/
theorem Follows.told_offered (hf : Follows m h (a :: as)) (hin : m.id ∈ h.index)
    (hspares : a.Spares m.outbox) :
    ((h.next a).outbox m.outbox).told
      = (h.outbox m.outbox).offered (h.effectOn m a).text? := by
  by_cases hw : a.Writes m.outbox
  · -- nothing but a close can have been put in from elsewhere
    rw [effectOn_of_writes hw]
    cases a with
    | attach | push => exact absurd hw hspares
    | pushClose o reason =>
      exact (told_pushClose h o m.outbox reason).trans (Outbox.offered_none _).symm
    | _ => exact absurd hw id
  · rw [Outbox.told, hf.sent_eq hw, hf.puts_eq_effectOn hin, List.filterMap_append,
      Effect.told_puts]
    unfold Outbox.offered
    split
    · rfl
    · exact List.append_nil _

/-- Nothing is put into the outbox of a connection that is gone. -/
theorem Follows.told_gone (hf : Follows m h (a :: as)) (hout : m.id ∉ h.index)
    (ha : a ≠ .register m) (hspares : a.Spares m.outbox) :
    ((h.next a).outbox m.outbox).told = (h.outbox m.outbox).told := by
  by_cases hw : a.Writes m.outbox
  · cases a with
    | attach | push => exact absurd hw hspares
    | pushClose o reason => exact told_pushClose h o m.outbox reason
    | _ => exact absurd hw id
  · obtain hnil | ⟨heq, -⟩ := hf.puts_eq_nil hout
    · rw [Outbox.told, hf.sent_eq hw, hnil, List.append_nil]
      rfl
    · exact absurd heq ha

/-- In a step a mobile gets what the desktop says, if its outbox takes that, and besides only
notices of the relay. -/
theorem Follows.told_saying (hf : Follows m h (a :: as)) (hrole : m.principal.role = .mobile)
    (hrouting : h.config.routing = .broadcast) (ha : a ≠ .register m)
    (hspares : a.Spares m.outbox) (hrouted : ∀ sender msg, a ≠ .toMobiles sender msg) :
    ∃ news, ((h.next a).outbox m.outbox).told = (h.outbox m.outbox).told ++ news ∧
      news.filter (!isPresence ·)
        = if (h.outbox m.outbox).Takes then (h.saying m a).toList else [] := by
  by_cases hin : m.id ∈ h.index
  · have hh := hf.seated hin
    refine ⟨if (h.outbox m.outbox).Takes then (h.effectOn m a).text?.toList else [], ?_, ?_⟩
    · rw [hf.told_offered hin hspares, Outbox.offered]
      split
      · rfl
      · exact (List.append_nil _).symm
    · split
      · cases hs : h.saying m a with
        | some text =>
          obtain ⟨-, -, -, -, hnot, -⟩ := tell?_of_saying hs
          simp [effectOn_of_saying hh hrole hrouting hs, Effect.text?, hnot]
        | none =>
          cases heffect : h.effectOn m a with
          | text t =>
            simp [Effect.text?, presence_of_silence hh hrole hrouted hs heffect]
          | nothing | dismissal | removal => rfl
      · rfl
  · have hsilent : h.saying m a = none := by
      cases a with
      | route => simp [saying, hin]
      | _ => rfl
    refine ⟨[], ?_, by simp [hsilent]⟩
    rw [hf.told_gone hin ha hspares, List.append_nil]

/-! ## A run -/

/-- The texts that a mobile gets in a run are those that the desktop says and the mobile's
outbox takes, and besides them only notices of the relay. -/
theorem told_sayings (hf : Follows m h as) (hrole : m.principal.role = .mobile)
    (hrouting : h.config.routing = .broadcast) (hnew : .register m ∉ as)
    (hspares : ∀ a ∈ as, a.Spares m.outbox) (hrouted : ∀ sender msg, .toMobiles sender msg ∉ as) :
    ∃ news, ((h.run as).1.outbox m.outbox).told = (h.outbox m.outbox).told ++ news ∧
      news.filter (!isPresence ·) = ((h.sayings m as).filter (·.2)).map (·.1) := by
  induction as generalizing h with
  | nil => exact ⟨[], (List.append_nil _).symm, rfl⟩
  | cons a as ih =>
    obtain ⟨hspare, hspares⟩ := List.forall_mem_cons.1 hspares
    obtain ⟨first, hfirst, hsaid⟩ := hf.told_saying hrole hrouting
      (fun heq => hnew (heq ▸ List.mem_cons_self)) hspare
      (fun sender msg heq => hrouted sender msg (heq ▸ List.mem_cons_self))
    obtain ⟨rest, hrest, hlater⟩ := ih hf.next ((gains_next h a).config ▸ hrouting)
      (fun hmem => hnew (List.mem_cons_of_mem _ hmem)) hspares
      (fun sender msg hmem => hrouted sender msg (List.mem_cons_of_mem _ hmem))
    refine ⟨first ++ rest, ?_, ?_⟩
    · rw [run_cons, hrest, hfirst, List.append_assoc]
    · rw [List.filter_append, hsaid, hlater, sayings, List.filter_append, List.map_append]
      congr 1
      cases h.saying m a with
      | none => simp
      | some text =>
        by_cases htakes : (h.outbox m.outbox).Takes <;> simp [htakes]

/-- If those who do not keep up are closed, a mobile that is still registered has taken all. -/
theorem taken_of_registered (hf : Follows m h as) (hrole : m.principal.role = .mobile)
    (hrouting : h.config.routing = .broadcast) (hnew : .register m ∉ as)
    (hover : h.config.overflow = .close) (hin : m.id ∈ (h.run as).1.index) :
    ∀ s ∈ h.sayings m as, s.2 = true := by
  induction as generalizing h with
  | nil => simp [sayings]
  | cons a as ih =>
    have hconfig := (gains_next h a).config
    have hnew' : .register m ∉ as := fun hmem => hnew (List.mem_cons_of_mem _ hmem)
    have hnow : m.id ∈ h.index := mem_index_of_run hin (hf.not_mem_arrivals hnew)
    have hnext : m.id ∈ (h.next a).index := mem_index_of_run hin (hf.next.not_mem_arrivals hnew')
    have hlater := ih hf.next (hconfig ▸ hrouting) hnew' (hconfig ▸ hover) hin
    rw [sayings, List.forall_mem_append]
    refine ⟨?_, hlater⟩
    cases hs : h.saying m a with
    | none => simp
    | some text =>
      -- it stays, so the text did not find the outbox full
      have hh := hf.seated hnow
      have hstays := (mem_index_next hh (hf.others hnow)).1 hnext
      rw [effectOn_of_saying hh hrole hrouting hs, hover] at hstays
      obtain ⟨hlive, hroom | hdrop⟩ := hstays
      · simp [Outbox.Takes, hlive, hroom]
      · cases hdrop

/-- If responses go to all mobiles, then of all that whoever is the desktop of a mobile's account
says while the mobile is registered, the mobile gets what its outbox takes, behind its
greeting, unchanged, each once and in that order; besides that it gets only notices of the
relay.  If those who do not keep up are closed, a mobile that is still registered has got all
of it.  Whoever is not the registered desktop of the account has no part in it: a frame of
theirs gives the mobile no more than such a notice. -/
theorem broadcast_complete {config : Config} {before after : List Action} {m : Connection}
    (hrouting : config.routing = .broadcast) (hrole : m.principal.role = .mobile)
    (hfresh : (arrivals (before ++ .register m :: after)).Nodup)
    (hown : ∀ c ∈ newcomers (before ++ .register m :: after), c.outbox = m.outbox → c = m)
    (hspares : ∀ a ∈ after, a.Spares m.outbox)
    (hrouted : ∀ sender msg, .toMobiles sender msg ∉ after) :
    let h := ((empty config).run before).1
    let g := h.next (.register m)
    (h.refusal? m = none → (g.outbox m.outbox).told
      = (h.outbox m.outbox).offered (some (Notice.greeting m.id).render)) ∧
    (∃ news, ((g.run after).1.outbox m.outbox).told = (g.outbox m.outbox).told ++ news ∧
      news.filter (!isPresence ·) = ((g.sayings m after).filter (·.2)).map (·.1) ∧
      (news.filter (!isPresence ·)).Sublist ((g.sayings m after).map (·.1)) ∧
      (config.overflow = .close → m.id ∈ (g.run after).1.index →
        news.filter (!isPresence ·) = (g.sayings m after).map (·.1))) ∧
    ∀ earlier sender role text later, after = earlier ++ .route sender role text :: later →
      let k := (g.run earlier).1
      (k.room m.principal.account).isDesktop sender = false ∨ m.id ∉ k.index →
      ∃ news, ((k.next (.route sender role text)).outbox m.outbox).told
          = (k.outbox m.outbox).told ++ news ∧ ∀ notice ∈ news, isPresence notice = true := by
  intro h g
  have hall := follows config hfresh (mem_newcomers.2 (by simp)) hown
  have hstart : Follows m h (.register m :: after) := hall.run
  have hf : Follows m g after := hstart.next
  have hnew : .register m ∉ after := fun hmem =>
    (List.nodup_cons.1 hstart.fresh).1 (mem_arrivals_of_register hmem)
  have hconfig : g.config = config :=
    (gains_next h (.register m)).config.trans (gains_run (empty config) before).config
  refine ⟨fun hr => ?_, ?_, ?_⟩
  · -- a mobile replaces nobody, so it is let in and that is all
    have hmobile : m.principal.isDesktop = false := by simp [Principal.isDesktop, hrole]
    have hletIn : g = h.letIn m := by
      change (h.register m).1 = _
      rw [register_eq, hr]
      simp [hmobile]
    rw [hletIn, told_letIn, if_pos rfl]
  · -- `told_sayings` goes along the run, one action after the other
    obtain ⟨news, htold, hnews⟩ :=
      told_sayings hf hrole (hconfig ▸ hrouting) hnew hspares hrouted
    refine ⟨news, htold, hnews, ?_, fun hover hin => ?_⟩
    · rw [hnews]
      exact List.filter_sublist.map _
    · have htaken := taken_of_registered hf hrole (hconfig ▸ hrouting) hnew (hconfig ▸ hover) hin
      rw [hnews, List.filter_eq_self.2 htaken]
  · -- what is no saying leaves only notices of the relay
    rintro earlier sender role text later rfl k hstranger
    have hmem : .route sender role text ∈ earlier ++ .route sender role text :: later := by simp
    have hk : Follows m k (.route sender role text :: later) := hf.run
    have hrouting' : k.config.routing = .broadcast := by
      rw [(gains_run g earlier).config, hconfig, hrouting]
    have hsilent : k.saying m (.route sender role text) = none := by
      obtain hdesk | hout := hstranger
      · simp [saying, hdesk]
      · simp [saying, hout]
    obtain ⟨news, htold, hnews⟩ := hk.told_saying hrole hrouting' (by simp)
      (hspares _ hmem) (by simp)
    refine ⟨news, htold, fun notice hnotice => ?_⟩
    rw [hsilent, Option.toList_none, ite_self, List.filter_eq_nil_iff] at hnews
    simpa using hnews notice hnotice

/-- A list of jobs, which is a response. -/
def jobs (id : String) : String :=
  (Json.object [("type", .string "jobs_list"), ("id", .string id)]).render

/-- A mobile that comes when the desktop is there gets what the desktop says from then on, and
not what a desktop says that has been replaced. -/
theorem broadcast_complete_jobs :
    let m : Connection := ⟨⟨1⟩, .mobile ⟨10⟩, 1⟩
    let before : List Action :=
      [.attach 1 16, .attach 2 16, .attach 3 16, .register ⟨⟨2⟩, .desktop ⟨10⟩ ⟨20⟩ "old", 2⟩]
    let after : List Action :=
      [.route ⟨2⟩ .desktop (jobs "1"), .register ⟨⟨3⟩, .desktop ⟨10⟩ ⟨21⟩ "new", 3⟩,
        .route ⟨2⟩ .desktop (jobs "2"), .route ⟨3⟩ .desktop (jobs "3")]
    let g := (((empty {}).run before).1.next (.register m))
    (arrivals (before ++ .register m :: after)).Nodup ∧
      (∀ c ∈ newcomers (before ++ .register m :: after), c.outbox = m.outbox → c = m) ∧
      m.id ∈ (g.run after).1.index ∧
      (g.outbox m.outbox).told = [(Notice.greeting m.id).render] ∧
      ∃ news, ((g.run after).1.outbox m.outbox).told = (g.outbox m.outbox).told ++ news ∧
        news.filter (!isPresence ·) = [jobs "1", jobs "3"] := by
  intro m before after g
  have hfresh : (arrivals (before ++ .register m :: after)).Nodup := by decide
  have hown : ∀ c ∈ newcomers (before ++ .register m :: after), c.outbox = m.outbox → c = m := by
    decide
  have hsaid : g.sayings m after = [(jobs "1", true), (jobs "3", true)] := by decide +kernel
  obtain ⟨hgreeted, ⟨news, htold, hnews, -⟩, -⟩ :=
    @broadcast_complete {} before after m rfl rfl hfresh hown (by simp [after, Action.Spares])
      (by simp [after])
  have hletIn : ((empty {}).run before).1.refusal? m = none := by decide +kernel
  refine ⟨hfresh, hown, by decide +kernel, (hgreeted hletIn).trans ?_, news, htold, ?_⟩
  · decide +kernel
  · rw [hnews, hsaid]
    rfl

end Hub

end Switchboard
