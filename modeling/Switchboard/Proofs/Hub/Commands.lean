import Switchboard.Proofs.Hub.Offers
import Switchboard.Proofs.Notice

/-! # What reaches a desktop

A desktop is told nothing but the frames of its account's mobiles, and of these exactly the
ones that nobody is told about: a mobile gets an answer if and only if its command has not
been put into the desktop's outbox.  So the texts of a desktop are, behind its greeting,
the frames that were routed without an answer, in their order.

* `isCommand`, `frame`, `frames` — the frames for a desktop, of an action and of a run;
* `frame_eq` — a frame without an answer is what the action puts into the outbox;
* `told_frame`, `told_frames` — the outbox of a desktop after an action, and after a run;
* `Spurned`, `spurned_of_reply` — what an answer means;
* `Routed`, `commands_delivered` — runs of routed frames.
-/

namespace Switchboard.Hub

/-! ## Frames for a desktop -/

/-- A frame is a message from a mobile to the desktop. -/
def isCommand (text : String) : Bool :=
  match Message.read text with
  | .ok m => m.family.toDesktop
  | .error _ => false

/-- A frame that a mobile routes to the desktop of its account, and for which it gets no
answer. -/
def frame (h : Hub) (d : Connection) : Action → Option String
  | .route c role text =>
    if (h.room d.principal.account).desktop = some d ∧ c ∈ (h.room d.principal.account).mobiles ∧
        role = .mobile ∧ isCommand text = true ∧ (h.route c role text).2 = none then
      some text
    else none
  | _ => none

/-- The frames for a desktop along a run. -/
def frames (h : Hub) (d : Connection) : List Action → List String
  | [] => []
  | a :: as => (h.frame d a).toList ++ (h.next a).frames d as

variable {h : Hub} {cs : List Connection} {a : Action} {as : List Action} {c d : Connection}
  {sender : ConnectionId} {account : AccountId} {text : String} {m : Message}

theorem isCommand_iff : isCommand text = true ↔
    ∃ m, Message.read text = .ok m ∧ m.family.toDesktop = true := by
  unfold isCommand
  cases Message.read text with
  | ok m => simp
  | error e => simp

theorem route_reply (hread : Message.read text = .ok m) (hfam : m.family.toDesktop = true) :
    (h.route sender .mobile text).2 =
      match (h.toDesktop sender m).2 with
      | .ok _ => none
      | .error e => commandReply m.id e := by
  unfold route
  rw [hread]
  dsimp only
  unfold pass
  rw [if_pos ⟨rfl, hfam⟩]
  generalize h.toDesktop sender m = out
  obtain ⟨g, r⟩ := out
  cases r <;> rfl

theorem ask?_route (hread : Message.read text = .ok m) (hfam : m.family.toDesktop = true) :
    (Action.route sender .mobile text).ask? = some (sender, m) := by
  simp [Action.ask?, Action.frame?, hread, hfam]

theorem route_of_ask? (hask : a.ask? = some (sender, m)) (hrouted : ∀ c m, a ≠ .toDesktop c m) :
    ∃ text, a = .route sender .mobile text ∧ Message.read text = .ok m ∧
      m.family.toDesktop = true := by
  cases a with
  | toDesktop c m' => exact absurd rfl (hrouted c m')
  | route c role text =>
    obtain ⟨m', hframe, heq⟩ := Option.map_eq_some_iff.1 hask
    cases heq
    obtain ⟨hread, rfl, hfam⟩ := Action.frame?_eq_some.1 hframe
    exact ⟨text, rfl, hread, hfam⟩
  | _ => cases hask

/-! ## Passed on or refused -/

/-- A command that is passed on comes from a mobile and goes to the desktop of its account,
whose outbox takes it. -/
theorem toDesktop_ok (hok : (h.toDesktop sender m).2 = .ok ()) :
    ∃ account d, h.index[sender]? = some account ∧ sender ∈ (h.room account).mobiles ∧
      (h.room account).desktop = some d ∧ (h.outbox d.outbox).Takes := by
  have hcases := commanding h sender m
  generalize h.toDesktop sender m = out at hcases hok
  cases hcases with
  | passed account d b hi hm hd hb => exact ⟨account, d, hi, hm, hd, Outbox.takes_of_pushText hb⟩
  | unknown | stranger | offline | busy | lost => cases hok

/-- A registered mobile is never told that it is not registered. -/
theorem toDesktop_error {e : Refusal} (hi : h.index[sender]? = some account)
    (hm : sender ∈ (h.room account).mobiles) (he : (h.toDesktop sender m).2 = .error e) :
    e = .desktopBusy ∨ e = .desktopOffline := by
  have hcases := commanding h sender m
  generalize h.toDesktop sender m = out at hcases he
  cases hcases with
  | unknown hi' =>
    rw [hi] at hi'
    cases hi'
  | stranger account' hi' hnot =>
    rw [hi] at hi'
    cases hi'
    exact absurd hm hnot
  | passed => cases he
  | busy =>
    cases he
    exact .inl rfl
  | offline | lost =>
    cases he
    exact .inr rfl

/-- A routed frame for which there is no answer is what is put into the desktop's outbox. -/
theorem frame_eq (hc : h.Consistent) (hrouted : ∀ c m, a ≠ .toDesktop c m) (d : Connection) :
    h.frame d a = (h.handed a).bind fun (d', m) => if d' = d then some m.raw else none := by
  cases hhanded : h.handed a with
  | some dm =>
    obtain ⟨d', m⟩ := dm
    obtain ⟨sender, account, hask, hi, hd, hok⟩ := handed_eq_some.1 hhanded
    obtain ⟨text, rfl, hread, hfam⟩ := route_of_ask? hask hrouted
    obtain ⟨account', d'', hi', hm, hd'', -⟩ := toDesktop_ok hok
    cases hi.symm.trans hi'
    have hreply : (h.route sender .mobile text).2 = none := by rw [route_reply hread hfam, hok]
    have hcommand : isCommand text = true := isCommand_iff.2 ⟨m, hread, hfam⟩
    simp only [frame, Option.bind_some]
    by_cases hdd : d' = d
    · subst hdd
      obtain rfl := ((hc.wellFormed account).desktop d' hd).1
      rw [if_pos ⟨hd, hm, trivial, hcommand, hreply⟩, if_pos rfl, Message.raw_of_read hread]
    · rw [if_neg hdd, if_neg]
      -- the sender is in one room only, where another desktop is
      rintro ⟨hd', hm', -⟩
      obtain rfl := hc.eq_of_holds (.inr hm) (.inr hm')
      exact hdd (Option.some.inj (hd.symm.trans hd'))
  | none =>
    cases a with
    | route sender role text =>
      simp only [frame, Option.bind_none, ite_eq_right_iff]
      rintro ⟨hd, hm, rfl, hcommand, hreply⟩
      obtain ⟨m, hread, hfam⟩ := isCommand_iff.1 hcommand
      have hi := hc.index_mobile hm
      rw [route_reply hread hfam] at hreply
      -- no answer means that the command was passed on, as every refusal is answered
      cases hres : (h.toDesktop sender m).2 with
      | ok u =>
        rw [handed_of_ok (ask?_route hread hfam) hres hi hd] at hhanded
        cases hhanded
      | error e =>
        rw [hres] at hreply
        obtain rfl | rfl := toDesktop_error hi hm hres <;> cases hreply
    | _ => rfl

/-- A command of a registered mobile for which there is no answer is a frame for the desktop. -/
theorem frame_of_no_reply (hc : h.Consistent) (hi : h.index[sender]? = some account)
    (hm : sender ∈ (h.room account).mobiles) (hread : Message.read text = .ok m)
    (hfam : m.family.toDesktop = true) (hreply : (h.route sender .mobile text).2 = none) :
    ∃ d, (h.room account).desktop = some d ∧
      h.frame d (.route sender .mobile text) = some text := by
  have hres := hreply
  rw [route_reply hread hfam] at hres
  cases hok : (h.toDesktop sender m).2 with
  | ok u =>
    obtain ⟨account', d, hi', -, hd, -⟩ := toDesktop_ok hok
    cases hi.symm.trans hi'
    obtain rfl := ((hc.wellFormed account).desktop d hd).1
    exact ⟨d, hd, if_pos ⟨hd, hm, rfl, isCommand_iff.2 ⟨m, hread, hfam⟩, hreply⟩⟩
  | error e =>
    rw [hok] at hres
    obtain rfl | rfl := toDesktop_error hi hm hok <;> cases hres

/-! ## One action -/

/-- Nobody but a desktop itself listens with its outbox. -/
theorem not_listens (hs : Settled cs h) (hd : d ∈ cs) (hrole : d.principal.role = .desktop)
    (account : AccountId) : (h.room account).listens d.outbox = false := by
  rw [Bool.eq_false_iff]
  intro hl
  obtain ⟨k, m, hm, ho⟩ := Room.listens_iff.1 hl
  obtain rfl := hs.eq_of_outbox (hs.peopled.mobile account k m hm) hd ho
  rw [((hs.consistent.wellFormed account).mobile k m hm).2.2] at hrole
  cases hrole

/-- An action puts a frame into a desktop's outbox, or nothing. -/
theorem told_frame (hs : Settled cs h) (hnew : ∀ c, a = .register c → c ∈ cs ∧ c.id ∉ h.index)
    (hd : d ∈ cs) (hrole : d.principal.role = .desktop) (hspares : a.Spares d.outbox)
    (hrouted : ∀ c m, a ≠ .toDesktop c m) (hother : a ≠ .register d) :
    ((h.next a).outbox d.outbox).told = (h.outbox d.outbox).told ++ (h.frame d a).toList := by
  -- a desktop's outbox is no mobile's, so what mobiles are told does not get there
  have hsilent : ∀ account text, h.mobilesOf account text d.outbox = none := by
    intro account text
    simp [mobilesOf, not_listens hs hd hrole]
  have hframe := frame_eq hs.consistent hrouted d
  have htells := tells_next hs hnew
  generalize h.next a = g at htells
  cases htells with
  | nothing _ hhanded _ htold => simp [hframe, hhanded, htold _ hspares]
  | arrived c ha _ hoffers =>
    have hhanded : h.handed a = none := by rw [ha]; rfl
    have hne : c.outbox ≠ d.outbox := by
      intro ho
      exact hother (hs.eq_of_outbox (hnew c ha).1 hd ho ▸ ha)
    simp [hframe, hhanded, hoffers.told, arrivalOffer, hne, hsilent]
  | announced account online device name _ ha hoffers =>
    have hhanded : h.handed a = none := by rw [ha]; rfl
    simp [hframe, hhanded, hoffers.told, hsilent]
  | left account d' _ hhanded _ _ hoffers => simp [hframe, hhanded, hoffers.told, hsilent]
  | handed d' m _ hhanded _ hoffers =>
    obtain ⟨sender, account, -, hi, hd', hok⟩ := handed_eq_some.1 hhanded
    rw [hoffers.told, hframe, hhanded, Option.bind_some]
    by_cases hdd : d' = d
    · subst hdd
      obtain ⟨account', d'', hi', -, hd'', htakes⟩ := toDesktop_ok hok
      cases hi.symm.trans hi'
      cases hd'.symm.trans hd''
      simp [Outbox.offered_of_takes htakes]
    · have hne : d'.outbox ≠ d.outbox :=
        fun ho => hdd (hs.eq_of_outbox (hs.peopled.desktop account d' hd') hd ho)
      simp [hdd, hne]
  | spoken account m _ hhanded _ hoffers =>
    -- the targets of an answer are mobiles
    have hnobody : ((h.room account).answer h.config.routing m).2.any (·.outbox = d.outbox)
        = false := by
      rw [Bool.eq_false_iff]
      intro hany
      obtain ⟨t, ht, ho⟩ := List.any_eq_true.1 hany
      obtain ⟨k, hk⟩ := Room.lookup_of_answer ht
      have hl : (h.room account).listens d.outbox = true :=
        Room.listens_iff.2 ⟨k, t, hk, by simpa using ho⟩
      rw [not_listens hs hd hrole] at hl
      cases hl
    simp [hframe, hhanded, hoffers.told, hnobody]

/-! ## A run -/

/-- Whatever a desktop is told along a run are the frames for it, in their order. -/
theorem told_frames (hu : Underway cs h as) (hd : d ∈ cs) (hrole : d.principal.role = .desktop)
    (hspares : ∀ a ∈ as, a.Spares d.outbox) (hrouted : ∀ c m, .toDesktop c m ∉ as)
    (hother : .register d ∉ as) :
    ((h.run as).1.outbox d.outbox).told = (h.outbox d.outbox).told ++ h.frames d as := by
  induction as generalizing h with
  | nil => simp [frames, run]
  | cons a as ih =>
    obtain ⟨hspare, hspares⟩ := List.forall_mem_cons.1 hspares
    have hstep := told_frame hu.toSettled hu.newcomer hd hrole hspare
      (fun c m heq => hrouted c m (heq ▸ List.mem_cons_self))
      (fun heq => hother (heq ▸ List.mem_cons_self))
    rw [run_cons, ih hu.next hspares (fun c m hmem => hrouted c m (List.mem_cons_of_mem _ hmem))
      (fun hmem => hother (List.mem_cons_of_mem _ hmem)), hstep, frames, List.append_assoc]

/-! ## Answers -/

/-- What a mobile of an account is told whose command has not been passed on: the desktop is
still there and has no room for it, or there is no desktop any more. -/
inductive Spurned (g : Hub) (account : AccountId) (id : Option String) : Option Notice → Prop
  | busy (d : Connection) (message : String) : (g.room account).desktop = some d →
      d.id ∈ g.index → (g.outbox d.outbox).live = true →
      (g.outbox d.outbox).capacity ≤ (g.outbox d.outbox).depth →
      g.config.overflow = .dropNewest →
      Spurned g account id (some (.error id desktopBusy message))
  | offline (message : String) : (g.room account).desktop = none →
      Spurned g account id (some (.error id desktopOffline message))

theorem spurned_of_reply (hs : Settled cs h) (hi : h.index[sender]? = some account)
    (hm : sender ∈ (h.room account).mobiles) (hread : Message.read text = .ok m)
    (hfam : m.family.toDesktop = true) (hreply : (h.route sender .mobile text).2 ≠ none) :
    Spurned (h.next (.route sender .mobile text)) account m.id
      (h.route sender .mobile text).2 := by
  have hask : (Action.route sender .mobile text).ask? = some (sender, m) := ask?_route hread hfam
  have hs' : Settled cs (h.next (.route sender .mobile text)) := hs.next (by simp)
  have hnext : h.next (.route sender .mobile text) = (h.toDesktop sender m).1 := next_of_ask? hask
  have hgains : Gains (fun _ => False) _ h (h.toDesktop sender m).1 := gains_toDesktop h sender m
  rw [route_reply hread hfam] at hreply ⊢
  rw [hnext] at hs' ⊢
  have hcases := commanding h sender m
  generalize h.toDesktop sender m = out at hcases hreply hs' hgains
  cases hcases with
  | unknown hi' =>
    rw [hi] at hi'
    cases hi'
  | stranger account' hi' hnot =>
    rw [hi] at hi'
    cases hi'
    exact absurd hm hnot
  | offline account' hi' _ hd =>
    cases hi.symm.trans hi'
    exact .offline _ hd
  | passed => exact absurd rfl hreply
  | busy account' d hi' _ hd hfull hover =>
    cases hi.symm.trans hi'
    have hd' := (offers_undone h account sender m).desktop account
    obtain ⟨hlive, hcap⟩ := Outbox.pushText_eq_full.1 hfull
    -- the desktop is still there, and its outbox is as full as it was
    refine .busy d _ (hd'.trans hd) (hs'.mem_index (hd'.trans hd)) ?_ ?_ ?_
    · rw [outbox_forget]
      exact hlive
    · rw [outbox_forget]
      exact hcap
    · rw [hgains.config, hover]
  | lost account' d k hi' _ hd _ hgone =>
    cases hi.symm.trans hi'
    -- it has left the index, and nobody can have come meanwhile
    refine .offline _ (hs'.desktop_eq_none hgains hd ?_)
    rw [forget_index]
    exact hgone

/-- A command that is answered has been put nowhere: whatever else is told because of it, is a
notice of the relay. -/
theorem count_told_of_reply (hs : Settled cs h) (hread : Message.read text = .ok m)
    (hfam : m.family.toDesktop = true) (hreply : (h.route sender .mobile text).2 ≠ none)
    (o : OutboxId) :
    ((h.next (.route sender .mobile text)).outbox o).told.count text
      = (h.outbox o).told.count text := by
  have hask : (Action.route sender .mobile text).ask? = some (sender, m) := ask?_route hread hfam
  have htells : Tells h (.route sender .mobile text) (h.next (.route sender .mobile text)) :=
    tells_next hs (by simp)
  generalize h.next (.route sender .mobile text) = g at htells
  cases htells with
  | nothing _ _ _ htold => rw [htold o trivial]
  | arrived _ ha => cases ha
  | announced _ _ _ _ _ ha => cases ha
  | left account d _ _ _ _ hoffers =>
    -- the mobiles are told that the desktop is gone, and no notice is a command
    have hne : (presence false d.principal).render ≠ text := by
      intro heq
      have hnotice := Notice.read_render (presence false d.principal)
      rw [heq, hread] at hnotice
      cases hnotice
      cases hfam
    rw [hoffers.told, mobilesOf]
    split
    · unfold Outbox.offered
      split
      · simp [List.count_append, hne]
      · rfl
    · rw [Outbox.offered_none]
  | handed d m' _ hhanded =>
    obtain ⟨s, _, hask', -, -, hok⟩ := handed_eq_some.1 hhanded
    cases hask.symm.trans hask'
    rw [route_reply hread hfam, hok] at hreply
    exact absurd rfl hreply
  | spoken account m' _ _ hspoken =>
    rw [spoken, Action.tell?_of_ask? hask] at hspoken
    cases hspoken

/-! ## Runs of routed frames -/

/-- A run in which connections have names and outboxes of their own, in which nobody but the
hub writes to the outbox of a connection that has registered, and in which commands come as
frames only. -/
structure Routed (as : List Action) : Prop where
  named : (arrivals as).Nodup
  owned : ((newcomers as).map (·.outbox)).Nodup
  spared : as.Pairwise fun a b => ∀ c, a = .register c → b.Spares c.outbox
  framed : ∀ c m, .toDesktop c m ∉ as

theorem told_registered (hs : Settled cs h) (hd : d ∈ cs) (hnew : d.id ∉ h.index)
    (hr : h.refusal? d = none) :
    ((h.next (.register d)).outbox d.outbox).told
      = (h.outbox d.outbox).offered (some (Notice.greeting d.id).render) := by
  have hoffers := offers_register (hs.consistent.letIn hr hnew)
    ((hs.peopled.letIn hd).separate hs.owned) hr
  rw [next, step]
  exact (hoffers.told d.outbox).trans (by rw [arrivalOffer, if_pos rfl])

/-- Behind its greeting a desktop is told the frames that the mobiles of its account have
routed to it without getting an answer, unchanged, each once and in their order.  Any other
command of a registered mobile has been put nowhere, and the answer, which has the id of the
frame, says truly that the desktop has no room for it or that there is none any more. -/
theorem commands_delivered (config : Config) {as : List Action} (hr : Routed as) :
    (∀ before d after, as = before ++ .register d :: after → d.principal.role = .desktop →
      let h := ((empty config).run before).1
      let g := h.next (.register d)
      ((g.run after).1.outbox d.outbox).told = (g.outbox d.outbox).told ++ g.frames d after ∧
      (h.refusal? d = none → (g.outbox d.outbox).told
        = (h.outbox d.outbox).offered (some (Notice.greeting d.id).render))) ∧
    ∀ before c text after m,
      as = before ++ .route c.id c.principal.role text :: after → c ∈ newcomers as →
      c.principal.role = .mobile → c.id ∈ ((empty config).run before).1.index →
      Message.read text = .ok m → m.family.toDesktop = true →
      let h := ((empty config).run before).1
      let g := h.next (.route c.id c.principal.role text)
      let reply := (h.route c.id c.principal.role text).2
      (∃ d, (h.room c.principal.account).desktop = some d ∧
        h.frame d (.route c.id c.principal.role text) = some text) ∨
      Spurned g c.principal.account m.id reply ∧
        ∀ o, (g.outbox o).told.count text = (h.outbox o).told.count text := by
  have hall := underway config hr.named hr.owned
  refine ⟨?_, ?_⟩
  · rintro before d after rfl hrole h g
    have hu : Underway _ h (.register d :: after) := hall.run
    have hd := hu.known d (mem_newcomers.2 List.mem_cons_self)
    have hnew : d.id ∉ h.index := hu.new d.id List.mem_cons_self
    have hspares := (List.pairwise_cons.1 (List.pairwise_append.1 hr.spared).2.1).1
    refine ⟨told_frames hu.next hd hrole (fun a ha => hspares a ha d rfl) ?_ ?_,
      told_registered hu.toSettled hd hnew⟩
    · intro c m hmem
      exact hr.framed c m (List.mem_append_right _ (List.mem_cons_of_mem _ hmem))
    · -- no name comes twice
      intro hmem
      have hfresh := hu.fresh
      rw [arrivals_cons] at hfresh
      refine (List.nodup_append.1 hfresh).2.2 d.id List.mem_cons_self d.id ?_ rfl
      rw [arrivals_eq]
      exact List.mem_map_of_mem (mem_newcomers.2 hmem)
  · rintro before c text after m rfl hc hrole hin hread hfam h g reply
    -- the step of the frame alone decides: it is handed on, or the mobile is told why not
    have hu : Underway _ h (.route c.id c.principal.role text :: after) := hall.run
    have hs := hu.toSettled
    have hmem := Table.mem_of_lookup (hs.mobile hc hrole hin)
    have hi := hs.consistent.index_mobile hmem
    subst g reply
    rw [hrole] at hu ⊢
    by_cases hreply : (h.route c.id .mobile text).2 = none
    · exact .inl (frame_of_no_reply hs.consistent hi hmem hread hfam hreply)
    · exact .inr ⟨spurned_of_reply hs hi hmem hread hfam hreply,
        count_told_of_reply hs hread hfam hreply⟩

/-- A command with an id. -/
def listing (id : String) : String :=
  (Json.object [("type", .string "list_jobs"), ("id", .string id)]).render

/-- A mobile comes. -/
def waiting : List Action := [.attach 1 16, .attach 2 16, .register ⟨⟨1⟩, .mobile ⟨10⟩, 1⟩]

/-- The mobile sends a command, a desktop comes, and the mobile sends another one. -/
def asking : List Action :=
  [.route ⟨1⟩ .mobile (listing "1"), .register ⟨⟨2⟩, .desktop ⟨10⟩ ⟨20⟩ "desk", 2⟩,
    .route ⟨1⟩ .mobile (listing "2")]

/-- The mobile is told that there is no desktop for the first command, and the desktop gets
the second one. -/
theorem commands_delivered_late :
    Routed (waiting ++ asking) ∧
      (((empty {}).run (waiting ++ asking)).1.outbox 2).told
        = [(Notice.greeting ⟨2⟩).render, listing "2"] ∧
      Spurned (((empty {}).run waiting).1.next (.route ⟨1⟩ .mobile (listing "1"))) ⟨10⟩ (some "1")
        (((empty {}).run waiting).1.route ⟨1⟩ .mobile (listing "1")).2 := by
  have hrouted : Routed (waiting ++ asking) :=
    ⟨by decide, by decide, by simp [waiting, asking, Action.Spares], by simp [waiting, asking]⟩
  obtain ⟨hdesktop, hmobile⟩ := commands_delivered {} hrouted
  refine ⟨hrouted, ?_, ?_⟩
  · have htold := (hdesktop (waiting ++ [.route ⟨1⟩ .mobile (listing "1")])
      ⟨⟨2⟩, .desktop ⟨10⟩ ⟨20⟩ "desk", 2⟩ _ rfl rfl).1
    exact htold.trans (by decide +kernel)
  · have hparse : Json.parse (listing "1")
        = .ok (.object [("type", .string "list_jobs"), ("id", .string "1")]) :=
      Json.parse_render (Json.reads_object (by simp [Json.reads_string]))
    have hread : Message.read (listing "1") = .ok ⟨.listJobs, some "1", listing "1"⟩ := by
      rw [Message.read, hparse]
      rfl
    obtain ⟨d, hd, -⟩ | ⟨hspurned, -⟩ := hmobile waiting ⟨⟨1⟩, .mobile ⟨10⟩, 1⟩
      (listing "1") _ _ rfl (by decide) rfl (by decide +kernel) hread rfl
    · have hnone : (((empty {}).run waiting).1.room ⟨10⟩).desktop = none := by decide +kernel
      cases hnone.symm.trans hd
    · exact hspurned

end Switchboard.Hub
