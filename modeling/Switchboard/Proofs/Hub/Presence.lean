import Switchboard.Proofs.Hub.Offers
import Switchboard.Proofs.Hub.Turns
import Switchboard.Proofs.Notice

/-! # What mobiles are told of the desktop is true

A mobile is told two sorts of things: that the desktop has changed, and what the desktop
says.  An action gives it one of them at most, and gives it exactly that if the mobile's
outbox takes it.  So the texts that a mobile has got since it registered are the changes of
desktop in that time, each told once and when it came, with the desktop's messages among them.

* `MobileNews`, `mobileNews`, `mobileNewsAlong` — what a mobile is told, by an action and along a
  run;
* `told_mobileNews`, `told_mobileNewsAlong` — the outbox of a mobile after an action, and after a
  run;
* `isPresence` — a frame that tells of a desktop;
* `Informed`, `mobile_informed` — what a mobile has been told is true.
-/

namespace Switchboard.Hub

/-! ## What a mobile is told -/

/-- What a mobile is told: that a desktop is there or gone, or what the desktop says. -/
inductive MobileNews where
  | presence (online : Bool) (d : Connection)
  | message (m : Message)

/-- The text of what is told. -/
def MobileNews.text : MobileNews → String
  | .presence online d => (Hub.presence online d.principal).render
  | .message m => m.raw

/-- The change of desktop that is told, if that is what it is about. -/
def MobileNews.presence? : MobileNews → Option (Bool × Connection)
  | .presence online d => some (online, d)
  | .message _ => none

/-- What an action has to tell a mobile. -/
def mobileNews (h : Hub) (m : Connection) (a : Action) : Option MobileNews :=
  match turn (h.desk m.principal.account) ((h.next a).desk m.principal.account) with
  | some (online, d) => some (.presence online d)
  | none => (h.spoken a).bind fun (account, msg) =>
    if account = m.principal.account ∧ m ∈ ((h.room account).answer h.config.routing msg).2 then
      some (.message msg)
    else none

/-- What there is to tell a mobile along a run. -/
def mobileNewsAlong (h : Hub) (m : Connection) : List Action → List MobileNews
  | [] => []
  | a :: as => (h.mobileNews m a).toList ++ (h.next a).mobileNewsAlong m as

/-- An action has something to tell a mobile whose outbox does not take it. -/
def Refuses (m : Connection) (h : Hub) (a : Action) : Prop :=
  h.mobileNews m a ≠ none ∧ ¬ (h.outbox m.outbox).Takes

variable {h : Hub} {cs : List Connection} {a : Action} {as : List Action} {m : Connection}

theorem mobileNews_of_turn {online : Bool} {d : Connection}
    (ht : turn (h.desk m.principal.account) ((h.next a).desk m.principal.account)
      = some (online, d)) : h.mobileNews m a = some (.presence online d) := by
  simp [mobileNews, ht]

theorem mobileNews_of_same (hd : (h.next a).desk m.principal.account = h.desk m.principal.account) :
    h.mobileNews m a = (h.spoken a).bind fun (account, msg) =>
      if account = m.principal.account ∧ m ∈ ((h.room account).answer h.config.routing msg).2 then
        some (.message msg)
      else none := by
  simp only [mobileNews, hd, turn_self]

theorem presences_mobileNewsAlong (h : Hub) (m : Connection) (as : List Action) :
    (h.mobileNewsAlong m as).filterMap MobileNews.presence? = h.turns m.principal.account as := by
  induction as generalizing h with
  | nil => rfl
  | cons a as ih =>
    rw [mobileNewsAlong, turns, List.filterMap_append, ih]
    congr 1
    cases ht : turn (h.desk m.principal.account) ((h.next a).desk m.principal.account) with
    | some e => simp [mobileNews_of_turn ht, MobileNews.presence?]
    | none =>
      rw [mobileNews_of_same (turn_eq_none.1 ht).symm]
      cases h.spoken a with
      | none => rfl
      | some s =>
        simp only [Option.bind_some]
        split <;> rfl

/-! ## One action -/

/-- Only in the room of its own account does somebody listen with a mobile's outbox. -/
theorem mobilesOf_eq (hs : Settled cs h)
    (hm : (h.room m.principal.account).mobiles[m.id]? = some m) (account : AccountId)
    (text : String) :
    h.mobilesOf account text m.outbox
      = if account = m.principal.account then some text else none := by
  have hiff : (h.room account).listens m.outbox = true ↔ account = m.principal.account := by
    rw [Room.listens_iff]
    constructor
    · rintro ⟨k, m', hm', ho⟩
      obtain rfl := hs.eq_of_outbox (hs.peopled.mobile account k m' hm')
        (hs.peopled.mobile _ _ m hm) ho
      exact ((hs.consistent.wellFormed account).mobile k m' hm').2.1.symm
    · rintro rfl
      exact ⟨m.id, m, hm, rfl⟩
  rw [mobilesOf]
  simp only [hiff]

/-- The mobiles that are there are told of a newcomer if it is the desktop of their account. -/
theorem arrivalOffer_eq (hs : Settled cs h)
    (hm : (h.room m.principal.account).mobiles[m.id]? = some m) {c : Connection}
    (hne : c.outbox ≠ m.outbox) :
    h.arrivalOffer c m.outbox =
      if c.principal.account = m.principal.account ∧ c.principal.isDesktop = true then
        some (presence true c.principal).render
      else none := by
  rw [arrivalOffer, if_neg hne, mobilesOf_eq hs hm]
  cases c.principal.isDesktop <;> simp

/-- A message is offered to a mobile's outbox if it goes to the mobile. -/
theorem targets_any_iff (hs : Settled cs h) (hm : m ∈ cs) (account : AccountId) (msg : Message) :
    ((h.room account).answer h.config.routing msg).2.any (·.outbox = m.outbox) = true ↔
      account = m.principal.account ∧ m ∈ ((h.room account).answer h.config.routing msg).2 := by
  rw [List.any_eq_true]
  constructor
  · rintro ⟨t, ht, ho⟩
    obtain ⟨k, hk⟩ := Room.lookup_of_answer ht
    obtain rfl := hs.eq_of_outbox (hs.peopled.mobile account k t hk) hm (by simpa using ho)
    exact ⟨((hs.consistent.wellFormed account).mobile k t hk).2.1.symm, ht⟩
  · rintro ⟨-, ht⟩
    exact ⟨m, ht, by simp⟩

/-- An action offers a mobile's outbox what it has to tell the mobile, and nothing else. -/
theorem told_mobileNews (hs : Settled cs h) (hnew : ∀ c, a = .register c → c ∈ cs ∧ c.id ∉ h.index)
    (hm : (h.room m.principal.account).mobiles[m.id]? = some m) (hspares : a.Spares m.outbox)
    (hcall : ∀ online device name, a ≠ .announce m.principal.account online device name) :
    ((h.next a).outbox m.outbox).told
      = (h.outbox m.outbox).offered ((h.mobileNews m a).map MobileNews.text) := by
  have hmcs := hs.peopled.mobile _ _ m hm
  have hin : m.id ∈ h.index :=
    Table.mem_of_lookup (hs.consistent.index_mobile (Table.mem_of_lookup hm))
  -- the desktop changes and this is told, or it stays and may have something to say
  have hturn : ∀ online d, turn (h.desk m.principal.account)
      ((h.next a).desk m.principal.account) = some (online, d) →
        h.mobileNews m a = some (.presence online d) := fun _ _ => mobileNews_of_turn
  have hsame := mobileNews_of_same (h := h) (a := a) (m := m)
  have hnone : (h.next a).desk m.principal.account = h.desk m.principal.account →
      h.spoken a = none → h.mobileNews m a = none := fun hd hs => by rw [hsame hd, hs]; rfl
  have htells := tells_next hs hnew
  generalize h.next a = g at htells hturn hsame hnone
  cases htells with
  | nothing _ _ hspoken htold hdesk =>
    rw [hnone (hdesk _) hspoken, htold _ hspares]
    exact (Outbox.offered_none _).symm
  | arrived c ha hr hoffers =>
    obtain ⟨hc, hcnew⟩ := hnew c ha
    have hspoken : h.spoken a = none := by rw [ha]; rfl
    have hne : c.outbox ≠ m.outbox := by
      intro ho
      rw [hs.eq_of_outbox hc hmcs ho] at hcnew
      exact hcnew hin
    have hslot := hoffers.desktop m.principal.account
    rw [hoffers.told, arrivalOffer_eq hs hm hne]
    split
    · next hk =>
      -- the newcomer was not the desktop before, since its name is new
      rw [if_pos hk] at hslot
      have hother : h.desk m.principal.account ≠ (h.register c).1.desk m.principal.account := by
        intro heq
        exact hcnew (hs.mem_index (heq.trans hslot))
      rw [hturn true c (turn_eq_some.2 ⟨hother, .inl ⟨rfl, hslot⟩⟩)]
      rfl
    · next hk =>
      rw [if_neg hk] at hslot
      rw [hnone hslot hspoken]
      rfl
  | announced account online device name _ ha hoffers =>
    have hspoken : h.spoken a = none := by rw [ha]; rfl
    have hne : account ≠ m.principal.account := by
      rintro rfl
      exact hcall online device name ha
    rw [hnone (hoffers.desktop _) hspoken, hoffers.told, mobilesOf_eq hs hm, if_neg hne]
    rfl
  | left account d _ _ hspoken hd hoffers =>
    -- of another account's desktop the mobile is not told
    have hslot := hoffers.desktop m.principal.account
    unfold desktopsBut at hslot
    rw [hoffers.told, mobilesOf_eq hs hm]
    split
    · next heq =>
      subst heq
      rw [if_pos rfl] at hslot
      have hother : h.desk m.principal.account ≠ g.desk m.principal.account := by
        intro heq
        cases hd.symm.trans (heq.trans hslot)
      rw [hturn false d (turn_eq_some.2 ⟨hother, .inr ⟨rfl, hslot, hd⟩⟩)]
      rfl
    · next hne =>
      rw [if_neg hne] at hslot
      rw [hnone hslot hspoken]
      rfl
  | handed d msg _ hhanded hspoken hoffers =>
    obtain ⟨-, account, -, -, hd, -⟩ := handed_eq_some.1 hhanded
    have hne : d.outbox ≠ m.outbox := hs.outbox_ne hd hm
    rw [hnone (hoffers.desktop _) hspoken, hoffers.told, if_neg hne]
    rfl
  | spoken account msg _ _ hspoken hoffers =>
    rw [hsame (hoffers.desktop _), hspoken, hoffers.told]
    simp only [targets_any_iff hs hmcs, Option.bind_some]
    split <;> rfl

/-! ## A run -/

/-- A mobile that is still registered at the end of a run has got what there was to tell it,
in that order, if its outbox refused nothing. -/
theorem told_mobileNewsAlong (hu : Underway cs h as) (hm : m ∈ cs)
    (hrole : m.principal.role = .mobile)
    (hin : m.id ∈ (h.run as).1.index) (hnew : m.id ∉ arrivals as)
    (hspares : ∀ a ∈ as, a.Spares m.outbox)
    (hcall : ∀ online device name, .announce m.principal.account online device name ∉ as)
    (hkept : ¬ Occurs next (Refuses m) h as) :
    ((h.run as).1.outbox m.outbox).told
      = (h.outbox m.outbox).told ++ (h.mobileNewsAlong m as).map MobileNews.text := by
  induction as generalizing h with
  | nil => simp [mobileNewsAlong, run]
  | cons a as ih =>
    have hmobile := hu.mobile hm hrole (mem_index_of_run hin hnew)
    rw [arrivals_cons, List.mem_append, not_or] at hnew
    rw [Occurs, not_or] at hkept
    obtain ⟨hspare, hspares⟩ := List.forall_mem_cons.1 hspares
    have hstep := told_mobileNews hu.toSettled hu.newcomer hmobile hspare
      fun online device name heq => hcall online device name (heq ▸ List.mem_cons_self)
    rw [run_cons, ih hu.next hin hnew.2 hspares
      (fun online device name hmem => hcall online device name (List.mem_cons_of_mem _ hmem))
      hkept.2, hstep, mobileNewsAlong, List.map_append, ← List.append_assoc]
    congr 1
    cases ht : h.mobileNews m a with
    | none => simp
    | some t =>
      -- what there is to tell has been taken, or something would have been refused
      have htakes : (h.outbox m.outbox).Takes := by
        by_contra hfull
        exact hkept.1 ⟨by simp [ht], hfull⟩
      simp [Outbox.offered_of_takes htakes]

/-! ## Frames that tell of a desktop -/

/-- A frame tells that a desktop is there or gone. -/
def isPresence (text : String) : Bool :=
  match Message.read text with
  | .ok m => m.kind = .desktopStatus
  | .error _ => false

theorem isPresence_desktopStatus (online : Bool) (device : Option DeviceId)
    (name : Option String) :
    isPresence (Notice.desktopStatus online device name).render = true := by
  unfold isPresence
  rw [Notice.read_render]
  rfl

theorem isPresence_presence (online : Bool) (p : Principal) :
    isPresence (presence online p).render = true :=
  isPresence_desktopStatus online p.device p.deviceName

/-- What a desktop sends as a frame never passes for a notice of the relay. -/
theorem isPresence_of_route {sender c : ConnectionId} {role : Role} {text : String}
    {msg : Message} (htell : (Action.route sender role text).tell? = some (c, msg)) :
    isPresence msg.raw = false := by
  obtain ⟨m', hframe, heq⟩ := Option.map_eq_some_iff.1 htell
  cases heq
  obtain ⟨hread, -, hfam⟩ := Action.frame?_eq_some.1 hframe
  -- a frame is passed on by its family, and a notice of the relay is of another one
  rw [Message.raw_of_read hread, isPresence, hread]
  simp only [decide_eq_false_iff_not]
  intro hkind
  rw [Message.family, hkind] at hfam
  cases hfam

theorem isPresence_of_tell? {sender : ConnectionId} {msg : Message}
    (htell : a.tell? = some (sender, msg))
    (hplain : a = .toMobiles sender msg → isPresence msg.raw = false) :
    isPresence msg.raw = false := by
  cases a with
  | toMobiles s m' =>
    cases htell
    exact hplain rfl
  | route s role text => exact isPresence_of_route htell
  | _ => cases htell

theorem tell?_of_message {msg : Message} (ht : h.mobileNews m a = some (.message msg)) :
    ∃ sender, a.tell? = some (sender, msg) := by
  unfold mobileNews at ht
  split at ht
  · cases ht
  · obtain ⟨⟨account, msg'⟩, hspoken, ht⟩ := Option.bind_eq_some_iff.1 ht
    obtain ⟨⟨sender, msg''⟩, htell, hspoken⟩ := Option.bind_eq_some_iff.1 hspoken
    obtain ⟨account', -, hspoken⟩ := Option.bind_eq_some_iff.1 hspoken
    split at hspoken
    · cases hspoken
      dsimp only at ht
      split at ht
      · cases ht
        exact ⟨sender, htell⟩
      · cases ht
    · cases hspoken

/-- Among the texts for a mobile, the frames that tell of a desktop are the changes of desktop. -/
theorem filter_mobileNewsAlong
    (hplain : ∀ sender msg, .toMobiles sender msg ∈ as → isPresence msg.raw = false) :
    ((h.mobileNewsAlong m as).map MobileNews.text).filter isPresence
      = ((h.mobileNewsAlong m as).filterMap MobileNews.presence?).map
        fun e => (presence e.1 e.2.principal).render := by
  induction as generalizing h with
  | nil => rfl
  | cons a as ih =>
    have hrest := ih (h := h.next a) fun sender msg hmem =>
      hplain sender msg (List.mem_cons_of_mem _ hmem)
    rw [mobileNewsAlong, List.map_append, List.filter_append, List.filterMap_append,
      List.map_append, hrest]
    congr 1
    cases ht : h.mobileNews m a with
    | none => rfl
    | some t =>
      cases t with
      | presence online d => simp [MobileNews.text, MobileNews.presence?, isPresence_presence]
      | message msg =>
        obtain ⟨sender, htell⟩ := tell?_of_message ht
        have hnot := isPresence_of_tell? htell fun heq =>
          hplain sender msg (heq ▸ List.mem_cons_self)
        simp [MobileNews.text, MobileNews.presence?, hnot]

/-! ## What has been told is true -/

/-- What a mobile has been told along a run is true.  The changes of desktop that it knows of
are none if there were none; otherwise the last one says who is the desktop in the end, or
who was the last one to leave, and it was never told twice in a row that somebody is gone. -/
structure Informed (h : Hub) (m : Connection) (as : List Action) : Prop where
  told : ((h.run as).1.outbox m.outbox).told
    = (h.outbox m.outbox).told ++ (h.mobileNewsAlong m as).map MobileNews.text
  unchanged : ¬ Occurs next (Turns m.principal.account) h as →
    (h.mobileNewsAlong m as).filterMap MobileNews.presence? = []
  there : Occurs next (Turns m.principal.account) h as →
    ∀ d, (h.run as).1.desk m.principal.account = some d →
      ((h.mobileNewsAlong m as).filterMap MobileNews.presence?).getLast? = some (true, d)
  gone : Occurs next (Turns m.principal.account) h as →
    (h.run as).1.desk m.principal.account = none →
    ∃ d, ((h.mobileNewsAlong m as).filterMap MobileNews.presence?).getLast? = some (false, d) ∧
      ∃ earlier a later, as = earlier ++ a :: later ∧
        (h.run earlier).1.desk m.principal.account = some d ∧
        ((h.run earlier).1.next a).desk m.principal.account = none ∧
        ¬ Occurs next (Turns m.principal.account) ((h.run earlier).1.next a) later
  alternating : ((h.mobileNewsAlong m as).filterMap MobileNews.presence?).IsChain
    fun s t => s.1 = true ∨ t.1 = true
  frames : (∀ sender msg, .toMobiles sender msg ∈ as → isPresence msg.raw = false) →
    (((h.run as).1.outbox m.outbox).told.drop (h.outbox m.outbox).told.length).filter isPresence
      = ((h.mobileNewsAlong m as).filterMap MobileNews.presence?).map
        fun e => (presence e.1 e.2.principal).render

/-- A mobile of an account whose desktop has come before it. -/
def visitor : Connection := ⟨⟨1⟩, .mobile ⟨10⟩, 1⟩

/-- The desktop that takes the place of the one before. -/
def successor : Connection := ⟨⟨3⟩, .desktop ⟨10⟩ ⟨21⟩ "second", 3⟩

/-- What comes before the mobile. -/
def opening : List Action :=
  [.attach 1 16, .attach 2 16, .attach 3 16, .register ⟨⟨2⟩, .desktop ⟨10⟩ ⟨20⟩ "first", 2⟩]

/-- Behind the mobile another desktop takes the place of the first one and is sent away. -/
def changing : List Action := [.register successor, .evict ⟨10⟩ ⟨21⟩]

end Switchboard.Hub
