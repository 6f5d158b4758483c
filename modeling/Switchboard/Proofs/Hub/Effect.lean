import Switchboard.Proofs.Hub.Reception
import Switchboard.Proofs.Hub.Runs

/-! # The effect of an action on a connection

Seen from one connection that is registered, an action of the hub does one of four things:
nothing, it tells the connection something, it sends the connection away, or it takes it out
without a word.  `effectOn` says which, from the hub before the action alone.

* `Effect` — what can happen to a connection, and what becomes of its outbox and of its place;
* `effectOn` — the effect of an action on a connection;
* `Causes`, `causes_effectOn` — the actions that can have an effect, and in which hubs.
-/

namespace Switchboard.Hub

/-! ## Effects -/

/-- What an action can do to a registered connection. -/
inductive Effect where
  | nothing
  | text (text : String)
  /-- It is sent away, for a reason that it is told. -/
  | dismissal (reason : String)
  /-- It is taken out of the hub without a word. -/
  | removal
deriving DecidableEq, Repr

namespace Effect

/-- What becomes of the connection's outbox. -/
def outbox (overflow : Overflow) (b : Outbox) : Effect → Outbox
  | .nothing | .removal => b
  | .text t => b.receive overflow t
  | .dismissal reason => b.pushClose reason

/-- Whether the connection stays registered. -/
def Stays (overflow : Overflow) (b : Outbox) : Effect → Prop
  | .nothing => True
  | .text _ => b.Bears overflow
  | .dismissal _ | .removal => False

end Effect

/-- A mobile is told what all mobiles of its account are told. -/
def toldEffect (c : Connection) (account : AccountId) (text : String) : Effect :=
  if c.principal.account = account ∧ c.principal.role = .mobile then .text text else .nothing

/-- Somebody is let in: a desktop takes the place of the one before it. -/
def arrivalEffect (h : Hub) (c d : Connection) : Effect :=
  if h.refusal? d = none ∧ d.principal.isDesktop then
    if (h.room d.principal.account).desktop = some c then .dismissal replacedReason
    else toldEffect c d.principal.account (presence true d.principal).render
  else .nothing

/-- Somebody leaves, and if that was a desktop, its mobiles hear of it. -/
def departureEffect (h : Hub) (c : Connection) (i : ConnectionId) : Effect :=
  if c.id = i then .removal
  else
    match h.index[i]? with
    | some account =>
      match (h.room account).desktop with
      | some d =>
        if d.id = i then toldEffect c account (presence false d.principal).render else .nothing
      | none => .nothing
    | none => .nothing

/-- The desktop that runs on a device is sent away. -/
def evictionEffect (h : Hub) (c : Connection) (account : AccountId) (device : DeviceId) : Effect :=
  match (h.room account).desktop with
  | some d =>
    if d.principal.device = some device then
      if d = c then .dismissal unpairedReason
      else toldEffect c account (presence false d.principal).render
    else .nothing
  | none => .nothing

/-- Somebody has something for the desktop of an account, which takes it, or drops it, or
leaves, and then its mobiles hear of it. -/
def desktopEffect (h : Hub) (c d : Connection) (account : AccountId) (text : String) : Effect :=
  if d = c then .text text
  else if (h.outbox d.outbox).Bears h.config.overflow then .nothing
  else toldEffect c account (presence false d.principal).render

/-- A mobile has something for the desktop. -/
def commandEffect (h : Hub) (c : Connection) (sender : ConnectionId) (m : Message) : Effect :=
  match h.index[sender]? with
  | some account =>
    match (h.room account).desktop with
    | some d =>
      if sender ∈ (h.room account).mobiles then h.desktopEffect c d account m.raw else .nothing
    | none => .nothing
  | none => .nothing

/-- The desktop has something for the mobiles. -/
def messageEffect (h : Hub) (c : Connection) (sender : ConnectionId) (m : Message) : Effect :=
  match h.index[sender]? with
  | some account =>
    if (h.room account).isDesktop sender ∧ c ∈ ((h.room account).answer h.config.routing m).2
    then .text m.raw else .nothing
  | none => .nothing

/-- The effect of an action on a connection that is registered, seen from the hub before it. -/
def effectOn (h : Hub) (c : Connection) (a : Action) : Effect :=
  match a.ask?, a.tell? with
  | some (sender, m), _ => h.commandEffect c sender m
  | none, some (sender, m) => h.messageEffect c sender m
  | none, none =>
    match a with
    | .register d => h.arrivalEffect c d
    | .deregister i => h.departureEffect c i
    | .evict account device => h.evictionEffect c account device
    | .announce account online device name =>
      toldEffect c account (Notice.desktopStatus online device name).render
    | _ => .nothing

/-! ## All that there can be -/

variable {h : Hub} {c : Connection} {a : Action}

/-- In `h` the action `a` has a certain effect on `c`: one case for every way to one.  A `text`
comes from a change of the desktop, from an announcement, or from the other side of the room; a
`dismissal` only from a new desktop or from unpairing. -/
inductive Causes (h : Hub) (c : Connection) (a : Action) : Effect → Prop
  | nothing : Causes h c a .nothing
  | presence (online : Bool) (d : Connection) : c.principal.role = .mobile →
      Causes h c a (.text (presence online d.principal).render)
  | announced (online : Bool) (device : Option DeviceId) (name : Option String) :
      c.principal.role = .mobile →
      Causes h c a (.text (Notice.desktopStatus online device name).render)
  | command (sender : ConnectionId) (m : Message) (account : AccountId) :
      a.ask? = some (sender, m) → (h.room account).desktop = some c → Causes h c a (.text m.raw)
  | message (sender : ConnectionId) (m : Message) (account : AccountId) :
      a.tell? = some (sender, m) → (h.room account).isDesktop sender = true →
      c ∈ ((h.room account).answer h.config.routing m).2 → Causes h c a (.text m.raw)
  | replaced (d : Connection) : a = .register d → h.refusal? d = none →
      d.principal.isDesktop = true → (h.room d.principal.account).desktop = some c →
      Causes h c a (.dismissal replacedReason)
  | evicted (account : AccountId) (device : DeviceId) : a = .evict account device →
      (h.room account).desktop = some c → c.principal.device = some device →
      Causes h c a (.dismissal unpairedReason)
  | removed : a = .deregister c.id → Causes h c a .removal

theorem causes_told {text : String}
    (ht : c.principal.role = .mobile → Causes h c a (.text text)) (account : AccountId) :
    Causes h c a (toldEffect c account text) := by
  unfold toldEffect
  split
  · rename_i hmobile
    exact ht hmobile.2
  · exact .nothing

theorem causes_command {sender : ConnectionId} {m : Message}
    (hask : a.ask? = some (sender, m)) : Causes h c a (h.commandEffect c sender m) := by
  unfold commandEffect
  split
  · rename_i account _
    split
    · rename_i d hd
      split
      · unfold desktopEffect
        split
        · rename_i hdc
          exact .command sender m account hask (hdc ▸ hd)
        · split
          · exact .nothing
          · exact causes_told (.presence false d) account
      · exact .nothing
    · exact .nothing
  · exact .nothing

theorem causes_message {sender : ConnectionId} {m : Message}
    (htell : a.tell? = some (sender, m)) : Causes h c a (h.messageEffect c sender m) := by
  unfold messageEffect
  split
  · rename_i account _
    split
    · rename_i htarget
      exact .message sender m account htell htarget.1 htarget.2
    · exact .nothing
  · exact .nothing

theorem causes_arrival (h : Hub) (c d : Connection) :
    Causes h c (.register d) (h.arrivalEffect c d) := by
  unfold arrivalEffect
  split
  · rename_i hlet
    split
    · rename_i hold
      exact .replaced d rfl hlet.1 hlet.2 hold
    · exact causes_told (.presence true d) _
  · exact .nothing

theorem causes_departure (h : Hub) (c : Connection) (i : ConnectionId) :
    Causes h c (.deregister i) (h.departureEffect c i) := by
  unfold departureEffect
  split
  · rename_i hid
    exact .removed (by rw [hid])
  · split
    · split
      · rename_i d _
        split
        · exact causes_told (.presence false d) _
        · exact .nothing
      · exact .nothing
    · exact .nothing

theorem causes_eviction (h : Hub) (c : Connection) (account : AccountId) (device : DeviceId) :
    Causes h c (.evict account device) (h.evictionEffect c account device) := by
  unfold evictionEffect
  split
  · rename_i d hd
    split
    · rename_i hdevice
      split
      · rename_i hdc
        subst hdc
        exact .evicted account device rfl hd hdevice
      · exact causes_told (.presence false d) account
    · exact .nothing
  · exact .nothing

theorem causes_effectOn (h : Hub) (c : Connection) (a : Action) :
    Causes h c a (h.effectOn c a) := by
  unfold effectOn
  split
  · rename_i hask
    exact causes_command hask
  · rename_i htell
    exact causes_message htell
  · split
    · exact causes_arrival h c _
    · exact causes_departure h c _
    · exact causes_eviction h c _ _
    · exact causes_told (.announced _ _ _) _
    · exact .nothing

end Switchboard.Hub
