import Switchboard.Hub.Run
import Switchboard.Proofs.History
import Switchboard.Proofs.Hub.Census
import Switchboard.Proofs.Hub.Provenance

/-! # Runs of a hub

Thirteen actions come down to six calls, or to something that concerns outboxes only;
`Stepping` says which.  Two things are followed along a run: that the tables agree, and
where what is in them comes from.

* `Action.arrival?`, `arrivals` — the names that connections bring along;
* `Action.newcomer?`, `newcomers` — the connections that are registered;
* `Action.ask?`, `Action.tell?` — what an action hands to the desktop, or to the mobiles;
* `Stepping` — what an action can do to the rooms and the index;
* `gains_run`, `Peopled.run` — where members, index entries and awaited ids come from;
* `Consistent.run`, `tables_agree` — rooms and index agree in every state of every run.
-/

namespace Switchboard.Hub

/-! ## Actions -/

/-- The hub after an action. -/
def next (h : Hub) (a : Action) : Hub := (h.step a).1

theorem run_fst (h : Hub) (as : List Action) : (h.run as).1 = as.foldl next h := by
  induction as generalizing h with
  | nil => rfl
  | cons a as ih =>
    rw [List.foldl_cons, ← ih]
    rfl

theorem run_cons (h : Hub) (a : Action) (as : List Action) :
    (h.run (a :: as)).1 = ((h.next a).run as).1 := rfl

theorem run_append (h : Hub) (as bs : List Action) :
    (h.run (as ++ bs)).1 = ((h.run as).1.run bs).1 := by
  rw [run_fst, run_fst, run_fst, List.foldl_append]

theorem run_concat (h : Hub) (as : List Action) (a : Action) :
    (h.run (as ++ [a])).1 = (h.run as).1.next a := by
  rw [run_append]
  rfl

namespace Action

/-- The name of the connection that an action registers. -/
def arrival? : Action → Option ConnectionId
  | .register c => some c.id
  | _ => none

/-- The connection that an action registers. -/
def newcomer? : Action → Option Connection
  | .register c => some c
  | _ => none

/-- The message that a frame is, if it may go in a direction. -/
def frame? (role wanted : Role) (goes : Message.Family → Bool) (text : String) :
    Option Message :=
  match Message.read text with
  | .ok m => if role = wanted ∧ goes m.family = true then some m else none
  | .error _ => none

/-- What an action hands to the desktop, and for whom. -/
def ask? : Action → Option (ConnectionId × Message)
  | .toDesktop sender m => some (sender, m)
  | .route sender role text =>
    (frame? role .mobile Message.Family.toDesktop text).map fun m => (sender, m)
  | _ => none

/-- What an action hands to the mobiles, and for whom. -/
def tell? : Action → Option (ConnectionId × Message)
  | .toMobiles sender m => some (sender, m)
  | .route sender role text =>
    (frame? role .desktop Message.Family.toMobiles text).map fun m => (sender, m)
  | _ => none

end Action

/-- The names that connections bring along in a run. -/
def arrivals (as : List Action) : List ConnectionId := as.filterMap Action.arrival?

/-- The connections that are registered in a run. -/
def newcomers (as : List Action) : List Connection := as.filterMap Action.newcomer?

theorem mem_newcomers {as : List Action} {c : Connection} :
    c ∈ newcomers as ↔ .register c ∈ as := by
  unfold newcomers
  rw [List.mem_filterMap]
  constructor
  · rintro ⟨a, ha, hc⟩
    cases a <;> cases hc
    exact ha
  · exact fun h => ⟨_, h, rfl⟩

theorem arrivals_eq (as : List Action) : arrivals as = (newcomers as).map (·.id) := by
  unfold arrivals newcomers
  rw [List.map_filterMap]
  congr 1
  funext a
  cases a <;> rfl

/-- What an action can do to the rooms and to the index. -/
inductive Stepping (h : Hub) (a : Action) : Hub → Prop
  | quiet (g : Hub) : g.config = h.config → g.rooms = h.rooms → g.index = h.index →
      Stepping h a g
  | register (c : Connection) : a = .register c → Stepping h a (h.register c).1
  | deregister (c : ConnectionId) : Stepping h a (h.deregister c).1
  | toDesktop (sender : ConnectionId) (m : Message) : a.ask? = some (sender, m) →
      Stepping h a (h.toDesktop sender m).1
  | toMobiles (sender : ConnectionId) (m : Message) : a.tell? = some (sender, m) →
      Stepping h a (h.toMobiles sender m).1
  | announce (account : AccountId) (n : Notice) : Stepping h a (h.announce account n).1
  | evict (account : AccountId) (device : DeviceId) : Stepping h a (h.evict account device).1

theorem pass_toDesktop {h : Hub} {sender : ConnectionId} {role : Role} {m : Message}
    (hd : role = .mobile ∧ m.family.toDesktop = true) :
    (h.pass sender role m).1 = (h.toDesktop sender m).1 := by
  unfold pass
  rw [if_pos hd]
  generalize h.toDesktop sender m = out
  obtain ⟨g, r⟩ := out
  cases r <;> rfl

theorem pass_toMobiles {h : Hub} {sender : ConnectionId} {role : Role} {m : Message}
    (hm : role = .desktop ∧ m.family.toMobiles = true) :
    (h.pass sender role m).1 = (h.toMobiles sender m).1 := by
  have hd : ¬ (role = .mobile ∧ m.family.toDesktop = true) := by
    rintro ⟨hrole, -⟩
    rw [hm.1] at hrole
    cases hrole
  unfold pass
  rw [if_neg hd, if_pos hm]

/-- A frame goes to the desktop, or to the mobiles, or nowhere. -/
theorem route_cases (h : Hub) (sender : ConnectionId) (role : Role) (text : String) :
    ((Action.route sender role text).ask? = none ∧ (Action.route sender role text).tell? = none ∧
        (h.route sender role text).1 = h) ∨
      (∃ m, (Action.route sender role text).ask? = some (sender, m) ∧
        (h.route sender role text).1 = (h.toDesktop sender m).1) ∨
      ∃ m, (Action.route sender role text).tell? = some (sender, m) ∧
        (h.route sender role text).1 = (h.toMobiles sender m).1 := by
  unfold route
  cases hread : Message.read text with
  | error fault =>
    left
    simp [Action.ask?, Action.tell?, Action.frame?, hread]
  | ok m =>
    dsimp only
    by_cases hd : role = .mobile ∧ m.family.toDesktop = true
    · refine .inr (.inl ⟨m, ?_, pass_toDesktop hd⟩)
      simp [Action.ask?, Action.frame?, hread, hd.1, hd.2]
    · by_cases hm : role = .desktop ∧ m.family.toMobiles = true
      · refine .inr (.inr ⟨m, ?_, pass_toMobiles hm⟩)
        simp [Action.tell?, Action.frame?, hread, hm.1, hm.2]
      · left
        unfold pass
        rw [if_neg hd, if_neg hm]
        simp [Action.ask?, Action.tell?, Action.frame?, hread, hd, hm]

theorem stepping_route (h : Hub) (sender : ConnectionId) (role : Role) (text : String) :
    Stepping h (.route sender role text) (h.route sender role text).1 := by
  obtain ⟨-, -, heq⟩ | ⟨m, hask, heq⟩ | ⟨m, htell, heq⟩ := route_cases h sender role text <;>
    rw [heq]
  · exact .quiet h rfl rfl rfl
  · exact .toDesktop sender m hask
  · exact .toMobiles sender m htell

theorem stepping (h : Hub) (a : Action) : Stepping h a (h.next a) := by
  cases a with
  | attach o capacity => exact .quiet _ rfl rfl rfl
  | register c => exact .register c rfl
  | deregister c => exact .deregister c
  | toDesktop sender m => exact .toDesktop sender m rfl
  | toMobiles sender m => exact .toMobiles sender m rfl
  | route sender role text => exact stepping_route h sender role text
  | announce account online device deviceName => exact .announce account _
  | evict account device => exact .evict account device
  | push o text =>
    simp only [next, step]
    split
    · rename_i h' hp
      obtain ⟨b, -, rfl⟩ := push_eq_ok.1 hp
      exact .quiet _ rfl rfl rfl
    · exact .quiet h rfl rfl rfl
  | pushClose o reason =>
    exact .quiet _ (pushClose_config h o reason) (pushClose_rooms h o reason)
      (pushClose_index h o reason)
  | handle o release =>
    simp only [next, step]
    split
    · exact .quiet _ rfl rfl rfl
    · exact .quiet h rfl rfl rfl
  | release o => exact .quiet _ rfl rfl rfl
  | stop o => exact .quiet _ rfl rfl rfl

theorem Action.frame?_eq_some {role wanted : Role} {goes : Message.Family → Bool} {text : String}
    {m : Message} : Action.frame? role wanted goes text = some m ↔
      Message.read text = .ok m ∧ role = wanted ∧ goes m.family = true := by
  unfold Action.frame?
  cases Message.read text with
  | error fault => simp
  | ok m' =>
    dsimp only
    split
    · rename_i hgoes
      rw [Option.some.injEq, Except.ok.injEq]
      constructor
      · rintro rfl
        exact ⟨rfl, hgoes⟩
      · exact And.left
    · rename_i hgoes
      rw [Except.ok.injEq]
      constructor
      · intro hnone
        cases hnone
      · rintro ⟨rfl, hgoes'⟩
        exact absurd hgoes' hgoes

/-- However a message gets to the hub, what is handed to the desktop is what is passed on. -/
theorem next_of_ask? {h : Hub} {a : Action} {sender : ConnectionId} {m : Message}
    (hask : a.ask? = some (sender, m)) : h.next a = (h.toDesktop sender m).1 := by
  cases a with
  | toDesktop sender' m' =>
    cases hask
    rfl
  | route sender' role text =>
    obtain ⟨m', hframe, heq⟩ := Option.map_eq_some_iff.1 hask
    cases heq
    obtain ⟨hread, hd⟩ := Action.frame?_eq_some.1 hframe
    change (h.route sender role text).1 = _
    unfold route
    rw [hread]
    exact pass_toDesktop hd
  | _ => cases hask

theorem next_of_tell? {h : Hub} {a : Action} {sender : ConnectionId} {m : Message}
    (htell : a.tell? = some (sender, m)) : h.next a = (h.toMobiles sender m).1 := by
  cases a with
  | toMobiles sender' m' =>
    cases htell
    rfl
  | route sender' role text =>
    obtain ⟨m', hframe, heq⟩ := Option.map_eq_some_iff.1 htell
    cases heq
    obtain ⟨hread, hm⟩ := Action.frame?_eq_some.1 hframe
    change (h.route sender role text).1 = _
    unfold route
    rw [hread]
    exact pass_toMobiles hm
  | _ => cases htell

/-! ## Rooms and index agree -/

theorem Consistent.next {h : Hub} (hc : h.Consistent) {a : Action}
    (hnew : ∀ c, a.arrival? = some c → c ∉ h.index) : (h.next a).Consistent := by
  have hstep := stepping h a
  generalize h.next a = g at hstep
  cases hstep with
  | quiet g hconf hrooms hindex => exact hc.of_tables hconf hrooms hindex
  | register c ha => exact hc.register (hnew c.id (ha ▸ rfl))
  | deregister c => exact keptByDelivery.deregister c hc
  | toDesktop sender m => exact hc.toDesktop sender m
  | toMobiles sender m => exact hc.toMobiles sender m
  | announce account n => exact keptByDelivery.announce account n hc
  | evict account device => exact hc.evict account device

theorem arrivals_cons (a : Action) (as : List Action) :
    arrivals (a :: as) = a.arrival?.toList ++ arrivals as := by
  unfold arrivals
  rw [List.filterMap_cons]
  cases a.arrival? <;> rfl

theorem arrivals_append (as bs : List Action) :
    arrivals (as ++ bs) = arrivals as ++ arrivals bs :=
  List.filterMap_append

/-! ## Where what is in the tables comes from -/

/-- An action asks with an id on behalf of a connection: it hands a command with that id
to the desktop of the connection's account, and the desktop gets it. -/
def Asks (account : AccountId) (id : String) (c : ConnectionId) (h : Hub) (a : Action) : Prop :=
  ∃ m, a.ask? = some (c, m) ∧ h.index[c]? = some account ∧ (h.toDesktop c m).2 = .ok () ∧
    m.id = some id ∧ m.family = .command

theorem gains_next (h : Hub) (a : Action) :
    Gains (a.arrival? = some ·) (fun account id c => Asks account id c h a) h (h.next a) := by
  have hstep := stepping h a
  generalize h.next a = g at hstep
  cases hstep with
  | quiet g hconf hrooms hindex => exact .of_tables hconf hrooms hindex
  | register c ha =>
    refine (gains_register h c).imp ?_ fun _ _ _ hasked => hasked
    rintro c' rfl
    rw [ha]
    rfl
  | deregister c => exact ((Recedes.keptByDelivery h).deregister c (.refl h)).gains
  | toDesktop sender m hask =>
    refine (gains_toDesktop h sender m).imp (fun _ hnew => hnew) ?_
    rintro account id c ⟨hi, rfl, hok, hid, hfam⟩
    exact ⟨m, hask, hi, hok, hid, hfam⟩
  | toMobiles sender m => exact gains_toMobiles h sender m
  | announce account n => exact (deliver_recedes _ _).gains
  | evict account device => exact gains_evict h account device

/-- What is in the tables after a run was there before it, or came in with a connection
that registered or with a command that was passed on. -/
theorem gains_run (h : Hub) (as : List Action) :
    Gains (· ∈ arrivals as) (fun account id c => Occurs next (Asks account id c) h as)
      h (h.run as).1 := by
  rw [run_fst]
  -- the first action gains what it brings in, and the rest of the run the remainder
  induction as generalizing h with
  | nil => exact (Recedes.refl h).gains
  | cons a as ih =>
    refine Gains.trans ((gains_next h a).imp ?_ ?_) ((ih (h.next a)).imp ?_ ?_)
    · intro c harr
      rw [arrivals_cons, harr]
      exact List.mem_cons_self
    · intro account id c hask
      exact .inl hask
    · intro c hmem
      rw [arrivals_cons]
      exact List.mem_append_right _ hmem
    · intro account id c hocc
      exact .inr hocc

/-- Who is registered after a run and has not come in it was registered before. -/
theorem mem_index_of_run {h : Hub} {as : List Action} {c : ConnectionId}
    (hin : c ∈ (h.run as).1.index) (hold : c ∉ arrivals as) : c ∈ h.index := by
  obtain ⟨account, hi⟩ := Table.mem_iff_lookup.1 hin
  exact Table.mem_of_lookup (((gains_run h as).index c account hi).resolve_right hold)

theorem Peopled.next {P : AccountId → Connection → Prop} {h : Hub} (hp : Peopled P h) {a : Action}
    (hnew : ∀ c, a = .register c → P c.principal.account c) : Peopled P (h.next a) := by
  have hstep := stepping h a
  generalize h.next a = g at hstep
  cases hstep with
  | quiet g hconf hrooms hindex =>
    have hg : Gains (fun _ => False) (fun _ _ _ => False) h g := .of_tables hconf hrooms hindex
    exact hp.gains hg
  | register c ha => exact hp.register (hnew c ha)
  | deregister c => exact hp.recedes ((Recedes.keptByDelivery h).deregister c (.refl h))
  | toDesktop sender m => exact hp.gains (gains_toDesktop h sender m)
  | toMobiles sender m =>
    have hg : Gains (fun _ => False) (fun _ _ _ => False) h _ := gains_toMobiles h sender m
    exact hp.gains hg
  | announce account n => exact hp.recedes (deliver_recedes _ _)
  | evict account device =>
    have hg : Gains (fun _ => False) (fun _ _ _ => False) h _ := gains_evict h account device
    exact hp.gains hg

theorem Peopled.run {P : AccountId → Connection → Prop} {h : Hub} (hp : Peopled P h)
    {as : List Action} (hnew : ∀ c ∈ newcomers as, P c.principal.account c) :
    Peopled P (h.run as).1 := by
  rw [run_fst]
  induction as generalizing h with
  | nil => exact hp
  | cons a as ih =>
    refine ih (hp.next fun c ha => hnew c ?_) fun c hc => hnew c ?_
    · rw [ha]
      exact mem_newcomers.2 List.mem_cons_self
    · exact mem_newcomers.2 (List.mem_cons_of_mem _ (mem_newcomers.1 hc))

/-! ## Every run -/

/-- Names that come once, and are not in use before they come, stay so. -/
theorem new_next {h : Hub} {a : Action} {as : List Action} (hfresh : (arrivals (a :: as)).Nodup)
    (hnew : ∀ c ∈ arrivals (a :: as), c ∉ h.index) :
    (arrivals as).Nodup ∧ ∀ c ∈ arrivals as, c ∉ (h.next a).index := by
  rw [arrivals_cons] at hfresh hnew
  obtain ⟨-, hfresh', hapart⟩ := List.nodup_append.1 hfresh
  refine ⟨hfresh', fun c hmem hin => ?_⟩
  obtain ⟨account, hi⟩ := Table.mem_iff_lookup.1 hin
  -- a name that is still to come is neither in use nor the one that came just now
  obtain hold | harr := (gains_next h a).index c account hi
  · exact hnew c (List.mem_append_right _ hmem) (Table.mem_of_lookup hold)
  · exact hapart c (by simp [harr]) c hmem rfl

theorem Consistent.run {h : Hub} (hc : h.Consistent) {as : List Action}
    (hfresh : (arrivals as).Nodup) (hnew : ∀ c ∈ arrivals as, c ∉ h.index) :
    (h.run as).1.Consistent := by
  rw [run_fst]
  induction as generalizing h with
  | nil => exact hc
  | cons a as ih =>
    obtain ⟨hfresh', hnew'⟩ := new_next hfresh hnew
    refine ih (hc.next fun c harr => hnew c ?_) hfresh' hnew'
    rw [arrivals_cons, harr]
    exact List.mem_cons_self

theorem consistent_of_run (config : Config) {as : List Action} (hfresh : (arrivals as).Nodup) :
    ((empty config).run as).1.Consistent :=
  (Consistent.empty config).run hfresh fun c _ => by simp [empty]

/-- Rooms and index agree in every state of a hub that connections with new names come
to: the index leads to the one room that holds a connection, everybody is where they
belong, no room is stored empty or filled over the limit, and everybody is counted once. -/
theorem tables_agree (config : Config) (as : List Action) (hfresh : (arrivals as).Nodup) :
    let h := ((empty config).run as).1
    (∀ (c : ConnectionId) (account : AccountId),
      h.index[c]? = some account ↔ ∃ r, h.rooms[account]? = some r ∧ r.Holds c) ∧
    (∀ (account : AccountId) (r : Room), h.rooms[account]? = some r →
      r.WellFormed account ∧ r.isEmpty = false ∧ r.size ≤ config.maxConnections) ∧
    h.stats.accounts = h.rooms.size ∧ h.stats.desktops + h.stats.mobiles = h.index.size := by
  intro h
  have hc : h.Consistent := consistent_of_run config hfresh
  refine ⟨fun c account => ?_, fun account r hr => ?_, rfl, hc.desktops_add_mobiles⟩
  · rw [hc.index_iff]
    constructor
    · intro hh
      exact ⟨h.room account, lookup_room_of_holds hh, hh⟩
    · rintro ⟨r, hr, hh⟩
      rw [room_of_lookup hr]
      exact hh
  · -- the limit is that of the configuration, which no action changes
    have hroom := room_of_lookup hr
    refine ⟨hroom ▸ hc.wellFormed account, hc.occupied account r hr, ?_⟩
    have hcap := hc.capped account
    rw [hroom, (gains_run (empty config) as).config] at hcap
    exact hcap

/-- A desktop takes the place of another one while a mobile is there: the index has lost
the old one, and everybody who is left is counted. -/
theorem tables_agree_replaced :
    let as : List Action :=
      [.attach 0 4, .attach 1 4, .attach 2 4, .register ⟨⟨1⟩, .mobile ⟨10⟩, 0⟩,
        .register ⟨⟨2⟩, .desktop ⟨10⟩ ⟨20⟩ "old", 1⟩, .register ⟨⟨3⟩, .desktop ⟨10⟩ ⟨21⟩ "new", 2⟩]
    let h := ((empty {}).run as).1
    (arrivals as).Nodup ∧ ⟨2⟩ ∉ h.index ∧ h.index.size = 2 ∧
      h.stats.desktops + h.stats.mobiles = h.index.size := by
  intro as h
  have hfresh : (arrivals as).Nodup := by decide
  exact ⟨hfresh, by decide +kernel, by decide +kernel, (tables_agree {} as hfresh).2.2.2⟩

end Switchboard.Hub
