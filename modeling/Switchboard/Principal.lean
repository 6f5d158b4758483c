import Switchboard.Json.Shape
import Switchboard.Uuid

/-! # Whom a connection speaks for

* `Role` — desktop or mobile;
* `Principal` — the account, the role and, for a desktop, the device;
* `Principal.ofJson`, `Principal.toJson` — a principal as a JSON value. -/

namespace Switchboard

abbrev AccountId := Uuid

abbrev DeviceId := Uuid

abbrev ConnectionId := Uuid

/-- The two sides of the relay. -/
inductive Role where
  | desktop
  | mobile
deriving DecidableEq, Repr

def Role.name : Role → String
  | .desktop => "desktop"
  | .mobile => "mobile"

/-- Whom a connection speaks for, settled when it is opened. -/
structure Principal where
  account : AccountId
  role : Role
  device : Option DeviceId
  deviceName : Option String
deriving DecidableEq, Repr

namespace Principal

def mobile (account : AccountId) : Principal := ⟨account, .mobile, none, none⟩

def desktop (account : AccountId) (device : DeviceId) (name : String) : Principal :=
  ⟨account, .desktop, some device, some name⟩

def isDesktop (p : Principal) : Bool := p.role = .desktop

/-! ## As a JSON value -/

open Json (Decoder Fault Record)

def uuid : Decoder Uuid
  | .string s =>
    match Uuid.parse s with
    | .ok u => .ok u
    | .error e => .error (.refused ("UUID parsing failed: " ++ e.message))
  | v => Json.mistyped v "a formatted UUID string"

def roles : List (String × Role) := [("desktop", .desktop), ("mobile", .mobile)]

def record : Record where
  title := "struct Principal"
  fields :=
    [⟨"account_id", Json.refusal uuid, false⟩,
     ⟨"role", Json.refusal (Decoder.variant roles), false⟩,
     ⟨"device_id", Json.refusal (Decoder.optional uuid), false⟩,
     ⟨"device_name", Json.refusal (Decoder.optional Decoder.string), false⟩]

def ofJson (v : Json) : Except Fault Principal := do
  let members ← record.members v
  let account ← Record.field members "account_id" uuid
  let role ← Record.field members "role" (.variant roles)
  let device ← Record.optionalField members "device_id" uuid
  let name ← Record.optionalField members "device_name" .string
  return ⟨account, role, device, name⟩

def toJson (p : Principal) : Json :=
  .object
    [("account_id", .string p.account.render), ("role", .string p.role.name),
     ("device_id", .ofString? (p.device.map Uuid.render)),
     ("device_name", .ofString? p.deviceName)]

end Principal

end Switchboard
