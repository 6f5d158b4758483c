import Switchboard.Proofs.Hub.Departures
import Switchboard.Proofs.Notice

/-! # Who is let in

Whether a connection is let in is settled by the limits and by who is there already, and whoever
is not let in leaves no trace.  Whoever is let in is greeted, once in its life and before
anything else, takes the place of the desktop before it if it is one, and costs others their
place only if they cannot be told that it has come.

* `Rivals`, `crowd` — a desktop that may not come, and how full a room is for a newcomer;
* `refusal?_eq`, `Decides`, `decides` — who is let in;
* `openRoom`, `dropEmptyRoom`, `registerOpening_eq` — the room that is opened for a newcomer, and
  dropped again if nobody is in it, leaves no trace;
* `Seats`, `seats_register` — the newcomer and the desktop before it;
* `Hears`, `Keeps`, `Follows.keeps` — the other members of the hub;
* `IsWelcome`, `posted` — frames that welcome somebody, and all that the hub puts into an outbox
  in a run;
* `Follows.welcome_mem_puts`, `Follows.posted_after` — nobody is welcomed later on;
* `admits_within_limits` — all of it, in every run.
-/

namespace Switchboard.Hub

variable {h g : Hub} {c m : Connection} {a : Action} {as bs : List Action} {text : String}

/-! ## Limits -/

/-- A desktop comes to an account that has one, which may not be replaced. -/
def Rivals (h : Hub) (c : Connection) : Prop :=
  c.principal.isDesktop = true ∧ h.hasDesktop c.principal.account = true ∧
    h.config.conflict = .reject

/-- How many are in the room that a connection comes to, without the desktop whose place it
would take. -/
def crowd (h : Hub) (c : Connection) : Nat :=
  if c.principal.isDesktop then (h.room c.principal.account).mobiles.size
  else (h.room c.principal.account).size

instance (h : Hub) (c : Connection) : Decidable (h.Rivals c) := inferInstanceAs (Decidable (_ ∧ _))

theorem refusal?_eq (h : Hub) (c : Connection) :
    h.refusal? c =
      if h.Rivals c then some .desktopConnected
      else if h.config.maxConnections ≤ h.crowd c then some (.tooMany h.config.maxConnections)
      else none := by
  have hcrowd : (h.room c.principal.account).size
      - (if c.principal.isDesktop = true ∧ (h.room c.principal.account).desktop.isSome = true
          then 1 else 0) = h.crowd c := by
    unfold crowd Room.size
    cases c.principal.isDesktop <;> cases (h.room c.principal.account).desktop.isSome <;> simp
  unfold refusal?
  simp only [hcrowd]
  exact if_congr and_assoc rfl rfl

/-- Who is let in, and with what the others are turned away. -/
structure Decides (h : Hub) (c : Connection) : Prop where
  rival : (h.register c).2 = .error .desktopConnected ↔ h.Rivals c
  crowded : ∀ n, (h.register c).2 = .error (.tooMany n) ↔
    n = h.config.maxConnections ∧ ¬ h.Rivals c ∧ h.config.maxConnections ≤ h.crowd c
  admitted : ∀ i, (h.register c).2 = .ok i ↔
    i = c.id ∧ ¬ h.Rivals c ∧ h.crowd c < h.config.maxConnections
  untouched : ∀ e, (h.register c).2 = .error e → (h.register c).1 = h

theorem register_rival (hr : h.Rivals c) : h.register c = (h, .error .desktopConnected) := by
  rw [register_eq, refusal?_eq, if_pos hr]

theorem register_crowded (hr : ¬ h.Rivals c) (hfull : h.config.maxConnections ≤ h.crowd c) :
    h.register c = (h, .error (.tooMany h.config.maxConnections)) := by
  rw [register_eq, refusal?_eq, if_neg hr, if_pos hfull]

theorem refusal?_eq_none :
    h.refusal? c = none ↔ ¬ h.Rivals c ∧ h.crowd c < h.config.maxConnections := by
  rw [refusal?_eq]
  by_cases hr : h.Rivals c
  · simp [hr]
  · by_cases hfull : h.config.maxConnections ≤ h.crowd c
    · simp [hr, hfull, Nat.not_lt.2 hfull]
    · simp [hr, hfull, Nat.not_le.1 hfull]

theorem register_admitted (hr : h.refusal? c = none) : (h.register c).2 = .ok c.id := by
  rw [register_eq, hr]
  dsimp only
  split <;> rfl

theorem decides (h : Hub) (c : Connection) : h.Decides c := by
  by_cases hr : h.Rivals c
  · have hout := register_rival hr
    constructor <;> simp [hout, hr]
  · by_cases hfull : h.config.maxConnections ≤ h.crowd c
    · have hout := register_crowded hr hfull
      constructor <;> simp [hout, hr, hfull, Nat.not_lt.2 hfull, eq_comm]
    · have hroom := Nat.not_le.1 hfull
      have hout := register_admitted (refusal?_eq_none.2 ⟨hr, hroom⟩)
      constructor <;> simp [hout, hr, hfull, hroom, eq_comm]

/-! ## The room of a newcomer

The room of an account is opened for whoever comes, before it is decided who is let in.  If a
connection is turned away and nobody is in the room, the room is dropped again.  `register` does
without these steps; `registerOpening` takes them, and is the same in every hub in which no empty
room is kept. -/

/-- The hub with a room for an account, which is empty if there was none. -/
def openRoom (h : Hub) (account : AccountId) : Hub :=
  { h with rooms := h.rooms.insert account (h.room account) }

/-- The hub without the room of an account, if nobody is in it. -/
def dropEmptyRoom (h : Hub) (account : AccountId) : Hub :=
  if (h.room account).isEmpty then { h with rooms := h.rooms.erase account } else h

/-- Registering with the room of the account opened first.  Whoever is turned away leaves it to be
dropped, if nobody is in it. -/
def registerOpening (h : Hub) (c : Connection) : Hub × Except Refusal ConnectionId :=
  match (h.openRoom c.principal.account).register c with
  | (k, .error e) => (k.dropEmptyRoom c.principal.account, .error e)
  | (k, .ok i) => (k, .ok i)

theorem room_openRoom (h : Hub) (account other : AccountId) :
    (h.openRoom account).room other = h.room other := by
  rw [room_eq, openRoom, Table.lookup_insert]
  by_cases ha : account = other
  · rw [if_pos ha, ha]
    rfl
  · rw [if_neg ha, room_eq]

theorem refusal?_openRoom (h : Hub) (account : AccountId) (c : Connection) :
    (h.openRoom account).refusal? c = h.refusal? c := by
  unfold refusal?
  rw [room_openRoom]
  rfl

/-- A room that is opened for somebody and dropped again has left no trace. -/
theorem dropEmptyRoom_openRoom (hc : h.Consistent) (account : AccountId) :
    (h.openRoom account).dropEmptyRoom account = h := by
  rw [dropEmptyRoom, room_openRoom, openRoom]
  cases hr : h.rooms[account]? with
  | none =>
    -- it was opened empty
    have hempty : (h.room account).isEmpty = true := by
      rw [room_of_lookup_none hr]
      rfl
    have habsent : account ∉ h.rooms := by simp [Table.mem_iff_lookup, hr]
    rw [if_pos hempty, Table.erase_insert, Table.erase_of_not_mem habsent]
  | some r =>
    -- somebody was there before, as no empty room is kept
    have hkept : (h.room account).isEmpty = false := by
      rw [room_of_lookup hr]
      exact hc.occupied account r hr
    rw [if_neg (Bool.eq_false_iff.1 hkept), room_of_lookup hr, Table.insert_of_lookup hr]

theorem greet_openRoom (h : Hub) (account : AccountId) (c : Connection) :
    (h.openRoom account).greet c = (h.greet c).openRoom account := by
  have houtbox : (h.openRoom account).outbox c.outbox = h.outbox c.outbox := rfl
  unfold greet push
  rw [houtbox]
  cases (h.outbox c.outbox).pushText (Notice.greeting c.id).render <;> rfl

/-- Whoever enters is put into its room, so it does not matter whether the room was there. -/
theorem enter_openRoom (h : Hub) (c : Connection) :
    (h.openRoom c.principal.account).enter c = h.enter c := by
  have hentered : (if c.principal.isDesktop then (h.room c.principal.account).withDesktop c
      else (h.room c.principal.account).withMobile c).isEmpty = false := by
    cases c.principal.isDesktop with
    | true => exact Room.isEmpty_of_holds (Room.holds_withDesktop.2 (.inl rfl))
    | false => exact Room.isEmpty_of_holds (Room.holds_withMobile.2 (.inl rfl))
  simp only [enter, setRoom, room_openRoom]
  rw [hentered]
  simp [openRoom, Table.insert_insert]

theorem letIn_openRoom (h : Hub) (c : Connection) :
    (h.openRoom c.principal.account).letIn c = h.letIn c := by
  simp only [letIn, greet_openRoom, enter_openRoom, room_openRoom]

theorem registerOpening_eq (hc : h.Consistent) (c : Connection) :
    h.registerOpening c = h.register c := by
  unfold registerOpening
  rw [register_eq, register_eq, refusal?_openRoom, letIn_openRoom]
  cases h.refusal? c with
  | some e =>
    dsimp only
    rw [dropEmptyRoom_openRoom hc]
  | none => cases c.principal.isDesktop <;> rfl

/-! ## The newcomer -/

/-- A newcomer that was let in is there, and the desktop whose place it has taken is not. -/
structure Seats (h : Hub) (c : Connection) (g : Hub) : Prop where
  listed : g.index[c.id]? = some c.principal.account
  member : g.Member c
  replaced : ∀ old, c.principal.isDesktop = true →
    (h.room c.principal.account).desktop = some old →
      old.id ∉ g.index ∧ ∀ account, ¬ (g.room account).Holds old.id

theorem not_mem_letIn (hc : h.Consistent) (hr : h.refusal? c = none) (hnew : c.id ∉ h.index)
    (hdesk : c.principal.isDesktop = true) {old : Connection}
    (hold : (h.room c.principal.account).desktop = some old) : old.id ∉ (h.letIn c).index := by
  intro hin
  have hi := hc.index_desktop hold
  obtain ⟨account, hin⟩ := Table.mem_iff_lookup.1 hin
  have hholds := ((hc.letIn hr hnew).index_iff old.id account).1 hin
  simp only [room_letIn, hdesk, if_true] at hholds
  split at hholds
  · next haccount =>
    subst haccount
    rw [Room.holds_withDesktop] at hholds
    obtain hid | hmobile := hholds
    · exact hnew (hid ▸ Table.mem_of_lookup hi)
    · exact (hc.wellFormed _).apart old hold hmobile
  · next haccount =>
    -- it is the desktop of one account, so it is in no other room
    exact haccount (hc.eq_of_holds ((hc.index_iff old.id _).1 hi) hholds)

theorem seats_register (hc : h.Consistent) (hr : h.refusal? c = none) (hnew : c.id ∉ h.index) :
    h.Seats c (h.register c).1 := by
  have hletIn := hc.letIn hr hnew
  have hmember := member_letIn h c
  have hcases := registering h c
  generalize h.register c = out at hcases
  cases hcases with
  | refused e hr' =>
    rw [hr] at hr'
    cases hr'
  | mobile _ hmobile =>
    refine ⟨hletIn.index_member hmember, hmember, fun old hdesk => ?_⟩
    rw [hmobile] at hdesk
    cases hdesk
  | desktop _ hdesk =>
    rw [announce_fst]
    have htold : ((h.letIn c).tell c.principal.account
        (presence true c.principal).render).Consistent :=
      Consistent.keptByDelivery.deliverAll _ hletIn
    have hseat : ((h.letIn c).tell c.principal.account
        (presence true c.principal).render).Member c := by
      refine ⟨c.principal.account, .inl ?_⟩
      rw [desktop_tell hletIn, desktop_letIn, if_pos ⟨rfl, hdesk⟩]
    refine ⟨htold.index_member hseat, hseat, fun old _ hold => ?_⟩
    have hgone := (tell_recedes (h.letIn c) c.principal.account
      (presence true c.principal).render).not_mem (not_mem_letIn hc hr hnew hdesk hold)
    exact ⟨hgone, htold.not_holds hgone⟩

/-! ## The others -/

/-- Whoever is told that a connection has come: the mobiles of a desktop. -/
def Hears (c m : Connection) : Prop :=
  c.principal.isDesktop = true ∧ m.principal.account = c.principal.account ∧
    m.principal.role = .mobile

/-- A member of a hub stays when somebody is let in, unless the newcomer takes its place, or it
is told of the newcomer and does not keep up. -/
def Keeps (h : Hub) (c : Connection) (g : Hub) (m : Connection) : Prop :=
  ¬ (c.principal.isDesktop = true ∧ (h.room c.principal.account).desktop = some m) →
    (g.Member m ↔ (Hears c m → (h.outbox m.outbox).Bears h.config.overflow))

/-- Nobody else in a run has the outbox of this connection. -/
def Owns (as : List Action) (m : Connection) : Prop :=
  ∀ c ∈ newcomers as, c.outbox = m.outbox → c = m

/-- Whoever does not lose its place to the newcomer stays if it bears what it is told. -/
theorem stays_arrivalEffect (hr : h.refusal? c = none)
    (hkept : ¬ (c.principal.isDesktop = true ∧
      (h.room c.principal.account).desktop = some m)) {overflow : Overflow} {b : Outbox} :
    (h.arrivalEffect m c).Stays overflow b ↔ (Hears c m → b.Bears overflow) := by
  unfold arrivalEffect Hears
  by_cases hdesk : c.principal.isDesktop = true
  · rw [if_pos ⟨hr, hdesk⟩, if_neg fun hold => hkept ⟨hdesk, hold⟩]
    unfold toldEffect
    by_cases hm : m.principal.account = c.principal.account ∧ m.principal.role = .mobile
    · simp [hm, hdesk, Effect.Stays]
    · rw [if_neg hm]
      exact iff_of_true trivial fun hh => absurd hh.2 hm
  · rw [if_neg fun hh => hdesk hh.2]
    exact iff_of_true trivial fun hh => absurd hh.1 hdesk

theorem Follows.member_iff (hf : Follows m h as) : h.Member m ↔ m.id ∈ h.index :=
  ⟨fun hm => Table.mem_of_lookup (hf.consistent.index_member hm), fun hin => (hf.seated hin).member⟩

theorem Follows.keeps (hf : Follows m h (.register c :: as)) (hr : h.refusal? c = none)
    (hm : h.Member m) : h.Keeps c (h.register c).1 m := by
  intro hkept
  have hin := hf.member_iff.1 hm
  obtain ⟨hnew, hne⟩ := hf.others hin c rfl
  have hnext : Follows m (h.register c).1 as := hf.next
  rw [hnext.member_iff, (hasEffect_register (hf.seated hin) hnew hne).index,
    stays_arrivalEffect hr hkept]

/-! ## The greeting -/

/-- A frame that welcomes somebody. -/
def IsWelcome (text : String) : Prop := ∃ m, Message.read text = .ok m ∧ m.kind = .welcome

/-- All that the hub puts into an outbox in a run. -/
def posted (o : OutboxId) (h : Hub) : List Action → List Outbox.Item
  | [] => []
  | a :: as => h.puts a o ++ posted o (h.next a) as

theorem isWelcome_greeting (i : ConnectionId) : IsWelcome (Notice.greeting i).render :=
  ⟨_, Notice.read_render _, rfl⟩

theorem not_isWelcome_desktopStatus (online : Bool) (device : Option DeviceId)
    (name : Option String) : ¬ IsWelcome (Notice.desktopStatus online device name).render := by
  rintro ⟨m, hread, hkind⟩
  rw [Notice.read_render] at hread
  cases hread
  cases hkind

/-- A message that is handed to the hub by itself, and was not read from a frame on the way. -/
def Action.Hands (a : Action) (m : Message) : Prop :=
  ∃ sender, a = .toDesktop sender m ∨ a = .toMobiles sender m

/-- What comes as a frame and is passed on welcomes nobody. -/
theorem not_isWelcome_of_frame {role wanted : Role} {goes : Message.Family → Bool} {msg : Message}
    (hframe : Action.frame? role wanted goes text = some msg) (hgoes : goes .control = false) :
    ¬ IsWelcome msg.raw := by
  rintro ⟨m', hread', hkind⟩
  obtain ⟨hread, -, hfam⟩ := Action.frame?_eq_some.1 hframe
  rw [Message.raw_of_read hread, hread] at hread'
  cases hread'
  rw [Message.family, hkind] at hfam
  exact Bool.false_ne_true (hgoes.symm.trans hfam)

theorem hands_of_ask? {sender : ConnectionId} {msg : Message}
    (hask : a.ask? = some (sender, msg)) (hw : IsWelcome msg.raw) : a.Hands msg := by
  cases a with
  | toDesktop s msg' =>
    cases hask
    exact ⟨_, .inl rfl⟩
  | route s role text =>
    obtain ⟨m', hframe, heq⟩ := Option.map_eq_some_iff.1 hask
    cases heq
    exact absurd hw (not_isWelcome_of_frame hframe rfl)
  | _ => cases hask

theorem hands_of_tell? {sender : ConnectionId} {msg : Message}
    (htell : a.tell? = some (sender, msg)) (hw : IsWelcome msg.raw) : a.Hands msg := by
  cases a with
  | toMobiles s msg' =>
    cases htell
    exact ⟨_, .inr rfl⟩
  | route s role text =>
    obtain ⟨m', hframe, heq⟩ := Option.map_eq_some_iff.1 htell
    cases heq
    exact absurd hw (not_isWelcome_of_frame hframe rfl)
  | _ => cases htell

theorem Effect.text_of_mem_puts {overflow : Overflow} {b : Outbox} {e : Effect}
    (hmem : .text text ∈ e.puts overflow b) : e = .text text := by
  cases e with
  | nothing | removal => cases hmem
  | dismissal reason =>
    rw [Effect.puts] at hmem
    split at hmem <;> simp at hmem
  | text t =>
    rw [Effect.puts] at hmem
    repeat' split at hmem
    all_goals simp at hmem
    rw [hmem]

/-- No action holds a welcome for anybody who is there already. -/
theorem Causes.hands {e : Effect} (hm : Causes h c a e) (he : e = .text text)
    (hw : IsWelcome text) :
    ∃ msg, a.Hands msg ∧ msg.raw = text := by
  cases hm with
  | nothing | replaced | evicted | removed => cases he
  | presence online d =>
    cases he
    exact absurd hw (not_isWelcome_desktopStatus _ _ _)
  | announced online device name =>
    cases he
    exact absurd hw (not_isWelcome_desktopStatus _ _ _)
  | command sender msg account hask =>
    cases he
    exact ⟨msg, hands_of_ask? hask hw, rfl⟩
  | message sender msg account htell =>
    cases he
    exact ⟨msg, hands_of_tell? htell hw, rfl⟩

namespace Follows

/-- Nobody is welcomed but when it registers. -/
theorem welcome_mem_puts (hf : Follows c h (a :: as)) (ha : a ≠ .register c)
    (hmem : .text text ∈ h.puts a c.outbox) (hw : IsWelcome text) :
    ∃ msg, a.Hands msg ∧ msg.raw = text := by
  by_cases hin : c.id ∈ h.index
  · rw [hf.puts_eq_effectOn hin] at hmem
    exact (causes_effectOn h c a).hands (Effect.text_of_mem_puts hmem) hw
  · obtain hnil | ⟨heq, -⟩ := hf.puts_eq_nil hin
    · rw [hnil] at hmem
      cases hmem
    · exact absurd heq ha

theorem posted_after (hf : Follows c h as) (hnew : .register c ∉ as)
    (hmem : .text text ∈ posted c.outbox h as) (hw : IsWelcome text) :
    ∃ a ∈ as, ∃ msg, a.Hands msg ∧ msg.raw = text := by
  induction as generalizing h with
  | nil => cases hmem
  | cons a as ih =>
    rw [List.mem_cons, not_or] at hnew
    obtain hnow | hlater := List.mem_append.1 hmem
    · exact ⟨a, List.mem_cons_self, hf.welcome_mem_puts (Ne.symm hnew.1) hnow hw⟩
    · obtain ⟨b, hb, hhands⟩ := ih hf.next hnew.2 hlater
      exact ⟨b, List.mem_cons_of_mem _ hb, hhands⟩

/-- Nothing is put into the outbox of a connection that is still to come. -/
theorem posted_before (hf : Follows c h (as ++ .register c :: bs)) :
    posted c.outbox h as = [] := by
  induction as generalizing h with
  | nil => rfl
  | cons a as ih =>
    have hcoming : c.id ∈ arrivals (as ++ .register c :: bs) :=
      mem_arrivals_of_register (List.mem_append_right _ List.mem_cons_self)
    have hout : c.id ∉ h.index := by
      refine hf.new c.id ?_
      rw [List.cons_append, arrivals_cons]
      exact List.mem_append_right _ hcoming
    have ha : a ≠ .register c := by
      rintro rfl
      have hfresh := hf.fresh
      rw [List.cons_append, arrivals_cons] at hfresh
      exact (List.nodup_append.1 hfresh).2.2 c.id (List.mem_singleton_self _) c.id hcoming rfl
    have hnow : h.puts a c.outbox = [] :=
      (Follows.puts_eq_nil hf hout).resolve_right fun hgreeted => ha hgreeted.1
    rw [posted, hnow, ih (Follows.next hf)]
    rfl

theorem puts_register (hf : Follows c h (.register c :: as)) (hr : h.refusal? c = none) :
    h.puts (.register c) c.outbox =
      if (h.outbox c.outbox).Takes then [.text (Notice.greeting c.id).render] else [] := by
  refine puts_eq id ?_
  change ((h.register c).1.outbox c.outbox).sent = _
  rw [(hf.arrival hr).1]
  unfold greet
  split
  · next g hpush =>
    obtain ⟨b, hb, rfl⟩ := push_eq_ok.1 hpush
    rw [if_pos (Outbox.takes_of_pushText hb), outbox_setOutbox_self,
      (Outbox.pushText_eq_ok.1 hb).2.2]
  · next e hpush =>
    rw [if_neg (Outbox.not_takes_of_pushText (push_eq_error.1 hpush)), List.append_nil]

end Follows

theorem posted_append (o : OutboxId) (h : Hub) (as bs : List Action) :
    posted o h (as ++ bs) = posted o h as ++ posted o (h.run as).1 bs := by
  induction as generalizing h with
  | nil => rfl
  | cons a as ih =>
    rw [List.cons_append, posted, posted, ih, List.append_assoc]
    rfl

/-! ## Every run -/

/-- Who is let in, at any point of any run.  A connection is turned away as a second desktop
where the first may not be replaced, and otherwise if the room is full without the desktop that
would be replaced; whoever is turned away leaves the hub as it is, and no empty room behind, even if
the room was opened for it.  Whoever is let in is there, and the others stay as they keep up, each
with an outbox of its own, with what they are told.  In the whole run the hub's first word to the
newcomer is the greeting, if its outbox takes it, and no welcome follows, unless one is handed to
the hub as a message of somebody else's. -/
theorem admits_within_limits (config : Config) {before after : List Action} {c : Connection}
    (hfresh : (arrivals (before ++ .register c :: after)).Nodup) :
    let h := ((empty config).run before).1
    let g := (h.register c).1
    h.config = config ∧ h.Decides c ∧ h.registerOpening c = h.register c ∧
    (∀ (account : AccountId) (r : Room), g.rooms[account]? = some r → r.isEmpty = false) ∧
    ((h.register c).2 = .ok c.id →
      h.Seats c g ∧
      (∀ m, h.Member m → Owns (before ++ .register c :: after) m → h.Keeps c g m) ∧
      (Owns (before ++ .register c :: after) c →
        IsWelcome (Notice.greeting c.id).render ∧
        ∃ later, posted c.outbox (empty config) (before ++ .register c :: after)
            = (if (h.outbox c.outbox).Takes then [.text (Notice.greeting c.id).render] else [])
              ++ later ∧
          ∀ text, .text text ∈ later → IsWelcome text →
            ∃ a ∈ after, ∃ msg, a.Hands msg ∧ msg.raw = text)) := by
  intro h g
  have hpeopled : Peopled (fun _ m => m ∈ newcomers (before ++ .register c :: after)) h :=
    (Peopled.empty config).run fun m hm =>
      mem_newcomers.2 (List.mem_append_left _ (mem_newcomers.1 hm))
  have hnames := hfresh
  rw [arrivals_append, arrivals_cons, List.nodup_append] at hnames
  obtain ⟨hbefore, hrest, hapart⟩ := hnames
  have hc : h.Consistent := consistent_of_run config hbefore
  have hnew : c.id ∉ h.index := by
    intro hin
    have hempty : c.id ∉ (empty config).index := by simp [empty]
    refine hempty (mem_index_of_run hin fun hmem => ?_)
    exact hapart c.id hmem c.id List.mem_cons_self rfl
  have honce : .register c ∉ after := fun hagain =>
    (List.nodup_append.1 hrest).2.2 c.id (List.mem_singleton_self _) c.id
      (mem_arrivals_of_register hagain) rfl
  have hg : g.Consistent := hc.next (a := .register c) fun i hi => Option.some.inj hi ▸ hnew
  refine ⟨(gains_run (empty config) before).config, decides h c, registerOpening_eq hc c,
    hg.occupied, fun hok => ?_⟩
  have hr : h.refusal? c = none := refusal?_eq_none.2 (((decides h c).admitted c.id).1 hok).2
  refine ⟨seats_register hc hr hnew, fun m hm howned => ?_, fun howned => ?_⟩
  · obtain ⟨-, hmem⟩ := hpeopled.member hm
    have hf : Follows m h (.register c :: after) := (follows config hfresh hmem howned).run
    exact hf.keeps hr hm
  · have hmem : c ∈ newcomers (before ++ .register c :: after) :=
      mem_newcomers.2 (List.mem_append_right _ List.mem_cons_self)
    have hf := follows config hfresh hmem howned
    have hstep : Follows c h (.register c :: after) := hf.run
    have hafter : Follows c g after := hstep.next
    refine ⟨isWelcome_greeting c.id, posted c.outbox g after, ?_,
      fun text hposted hw => hafter.posted_after honce hposted hw⟩
    rw [posted_append, hf.posted_before, List.nil_append, posted, hstep.puts_register hr]
    rfl

/-- A desktop takes the place of another one in a room that is full, and a mobile that does not
keep up loses its own. -/
theorem admits_within_limits_replaced :
    let config : Config := { maxConnections := 2 }
    let mobile : Connection := ⟨⟨1⟩, .mobile ⟨10⟩, 0⟩
    let old : Connection := ⟨⟨2⟩, .desktop ⟨10⟩ ⟨20⟩ "old", 1⟩
    let c : Connection := ⟨⟨3⟩, .desktop ⟨10⟩ ⟨21⟩ "new", 2⟩
    let before : List Action :=
      [.attach 0 2, .attach 1 4, .attach 2 4, .register mobile, .register old]
    let after : List Action := [.deregister ⟨1⟩, .announce ⟨10⟩ true none none]
    let h := ((empty config).run before).1
    let g := (h.register c).1
    (arrivals (before ++ .register c :: after)).Nodup ∧
      (h.room ⟨10⟩).size = config.maxConnections ∧ (h.register c).2 = .ok ⟨3⟩ ∧
      g.Member c ∧ old.id ∉ g.index ∧ ¬ g.Member mobile ∧
      ∃ later, posted 2 (empty config) (before ++ .register c :: after)
        = .text (Notice.greeting ⟨3⟩).render :: later ∧
        ∀ text, .text text ∈ later → ¬ IsWelcome text := by
  intro config mobile old c before after h g
  have hfresh : (arrivals (before ++ .register c :: after)).Nodup := by decide
  have hok : (h.register c).2 = .ok c.id := by decide +kernel
  have hdesk : (h.room c.principal.account).desktop = some old := by decide +kernel
  have hmobile : (h.room ⟨10⟩).mobiles[mobile.id]? = some mobile := by decide +kernel
  obtain ⟨-, -, -, -, hadmitted⟩ := admits_within_limits config hfresh
  obtain ⟨hseated, hkeeps, hwelcome⟩ := hadmitted hok
  have hseats : h.Seats c g := hseated
  have hfull : (h.room ⟨10⟩).size = config.maxConnections := by decide +kernel
  have hgone : old.id ∉ g.index := (hseats.replaced old (by decide) hdesk).1
  have hlost : ¬ g.Member mobile := by
    have hother : (h.room c.principal.account).desktop ≠ some mobile := by
      rw [hdesk]
      decide
    have hmember : h.Member mobile := ⟨⟨10⟩, .inr ⟨mobile.id, hmobile⟩⟩
    have howned : Owns (before ++ .register c :: after) mobile := by unfold Owns; decide
    have hhears : Hears c mobile := by unfold Hears; decide
    have hrefuses : ¬ (h.outbox mobile.outbox).Bears h.config.overflow := by decide +kernel
    have hkept : h.Keeps c g mobile := hkeeps mobile hmember howned
    rw [hkept fun hsame => hother hsame.2]
    exact fun hbears => hrefuses (hbears hhears)
  have howned : Owns (before ++ .register c :: after) c := by unfold Owns; decide
  obtain ⟨-, later, hposted, hlater⟩ := hwelcome howned
  refine ⟨hfresh, hfull, hok, hseats.member, hgone, hlost, later, ?_, fun text htext hw => ?_⟩
  · have htakes : (h.outbox c.outbox).Takes := by decide +kernel
    rw [if_pos htakes] at hposted
    exact hposted
  · obtain ⟨a, ha, msg, ⟨sender, rfl | rfl⟩, -⟩ := hlater text htext hw <;> simp [after] at ha

end Switchboard.Hub
