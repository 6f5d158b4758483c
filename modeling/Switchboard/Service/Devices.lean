import Switchboard.Service.Basic

/-! # The devices of an account

* `Service.pair` — a new device;
* `Service.devices` — all devices, and whether they are connected;
* `Service.unpair` — a device is removed, and its desktop sent away;
* `Service.identify` — the principal of whoever wants to connect. -/

namespace Switchboard.Service

/-- A device that has just been paired.  This is the only time that its token is shown. -/
structure Paired where
  device : DeviceId
  token : String
deriving DecidableEq, Repr

def Paired.toJson (p : Paired) : Json :=
  .object [("device_id", .string p.device.render), ("device_token", .string p.token)]

structure Listed where
  device : Identity.Device
  online : Bool
deriving DecidableEq, Repr

def Listed.toJson (l : Listed) : Json :=
  .object
    [("id", .string l.device.id.render), ("name", .string l.device.name),
     ("created_at", .string (Calendar.render l.device.created)),
     ("last_seen", .ofString? (l.device.lastSeen.map Calendar.render)),
     ("is_online", .bool l.online)]

def pair (s : Service) (now : Instant) (fresh : Fresh) (account : AccountId) (name : String) :
    Service × Except Problem Paired :=
  match s.identity.pair now fresh.id fresh.token account name with
  | (_, .error e) => (s, .error e.problem)
  | (identity, .ok d) => ({ s with identity }, .ok ⟨d.id, fresh.token⟩)

/-- `Identity.devicesOf`, each with whether its desktop is connected right now. -/
def devices (s : Service) (account : AccountId) : List Listed :=
  (s.identity.devicesOf account).map fun d => ⟨d, s.relay.hub.isOnline account d.id⟩

def unpair (s : Service) (now : Instant) (account : AccountId) (device : DeviceId) :
    Service × Except Problem Unit :=
  match s.identity.unpair account device with
  | (_, .error e) => (s, .error e.problem)
  | (identity, .ok _) =>
    ({ s with identity, relay := (s.relay.step now (.evict account device)).1 }, .ok ())

/-- The principal of whoever wants to connect.  A device token makes its device seen, so the store
may change. -/
def identify (s : Service) (now : Instant) (token deviceToken : Option String) :
    Service × Except Problem Principal :=
  match Access.Credentials.ofQuery token deviceToken with
  | .error e => (s, .error e.problem)
  | .ok credentials =>
    match s.identity.verify s.keys now credentials with
    | (identity, .error e) => ({ s with identity }, .error e.problem)
    | (identity, .ok p) => ({ s with identity }, .ok p)

end Switchboard.Service
