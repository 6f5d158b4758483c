import Switchboard.AccessToken.Verify
import Switchboard.Identity.Accounts

/-! # Paired devices, and whom credentials are for

A device is paired by its account and gets a token that is drawn for it; whoever shows that token is
the desktop on that device.  An access token says for itself which account it is for, and counts as
long as the account is known.

* `Identity.pair` — a new device of an account, known by its token from then on;
* `Identity.devicesOf` — the devices of an account, the oldest first;
* `Identity.unpair` — removes a device of an account;
* `Identity.resolve` — the device of a token, which is seen by that;
* `Identity.verify` — the principal of credentials: a mobile for the access token of an
  account, the desktop on a device for the token of that device. -/

namespace Switchboard.Identity

open Access (Credentials)

/-! ## Devices -/

def nameFlaw? (name : String) : Option Refusal :=
  if name = "" then some .nameMissing
  else if maxNameLength < name.length then some .nameTooLong
  else none

def addDevice (s : Identity) (d : Device) : Identity :=
  { s with
    deviceTokens := s.deviceTokens.insert d.digest d.id
    devices := s.devices.insert d.id d }

def pair (s : Identity) (now : Instant) (id : DeviceId) (token : String) (account : AccountId)
    (name : String) : Identity × Except Refusal Device :=
  let name := Text.trim name
  match nameFlaw? name with
  | some e => (s, .error e)
  | none =>
    let d : Device := ⟨id, account, name, s.scheme.digest token, now, none⟩
    (s.addDevice d, .ok d)

/-- The devices of an account, the oldest first. -/
def devicesOf (s : Identity) (account : AccountId) : List Device :=
  (s.devices.values.filter (·.account = account)).mergeSort
    fun a b => decide (a.created ≤ b.created)

/-- A device of another account is `unknownDevice` like one that is not there. -/
def unpair (s : Identity) (account : AccountId) (id : DeviceId) :
    Identity × Except Refusal Device :=
  match s.devices[id]? with
  | some d =>
    if d.account = account then
      ({ s with
          devices := s.devices.erase id
          deviceTokens := s.deviceTokens.erase d.digest }, .ok d)
    else (s, .error .unknownDevice)
  | none => (s, .error .unknownDevice)

/-! ## Credentials -/

/-- The device of a token, whose `lastSeen` becomes `now`. -/
def resolve (s : Identity) (now : Instant) (token : String) : Identity × Option Device :=
  match (s.deviceTokens[s.scheme.digest token]?).bind fun id => s.devices[id]? with
  | some d =>
    let d := { d with lastSeen := some now }
    ({ s with devices := s.devices.insert d.id d }, some d)
  | none => (s, none)

/-- The principal of credentials.  An access token whose account the store does not know is refused
although its signature is right. -/
def verify (s : Identity) (keys : AccessToken.Keys) (now : Instant) :
    Credentials → Identity × Except Access.Refusal Principal
  | .bearer token =>
    match AccessToken.verifyAccount keys now token with
    | .error e => (s, .error e)
    | .ok (account, _) =>
      if s.hasUser account then (s, .ok (.mobile account)) else (s, .error .unknownAccount)
  | .device token =>
    match s.resolve now token with
    | (s, some d) => (s, .ok (.desktop d.account d.id d.name))
    | (s, none) => (s, .error .unknownDevice)

end Switchboard.Identity
