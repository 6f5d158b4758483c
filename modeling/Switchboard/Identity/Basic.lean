import Switchboard.Base64
import Switchboard.Calendar
import Switchboard.Digest.Sha256
import Switchboard.Hex
import Switchboard.Password.Basic
import Switchboard.Principal
import Switchboard.Problem
import Switchboard.Table

/-! # Who is known

* `Identity` — the accounts, the paired devices and the refresh tokens;
* `Identity.Scheme` — what is kept of passwords and of tokens, which are not kept themselves;
* `Identity.Refusal` — why a request is refused. -/

namespace Switchboard

namespace Identity

/-- What is kept of passwords and tokens, which are not kept themselves: `lock` makes a line of a
salt and a password, `opens` tells whether a password fits a line, and `digest` makes of a token the
key under which it is found. -/
structure Scheme where
  lock : List UInt8 → String → String
  opens : String → String → Bool
  digest : String → String

/-- The digest of a token, in hexadecimal. -/
def tokenDigest (token : String) : String := Hex.encode (Sha256.digest (Bytes.ofString token))

/-- Passwords hashed at a given cost, and digests of tokens. -/
def Scheme.standard (cost : Argon2.Cost) : Scheme :=
  ⟨Password.hash cost, Password.verify, tokenDigest⟩

structure User where
  id : AccountId
  email : String
  password : String
  created : Instant
deriving DecidableEq, Repr

structure Device where
  id : DeviceId
  account : AccountId
  name : String
  digest : String
  created : Instant
  lastSeen : Option Instant
deriving DecidableEq, Repr

/-- A refresh token, which may be spent once.  A `spent` one is kept for a while, so that its reuse
can be told from a token that never was. -/
structure RefreshToken where
  user : AccountId
  created : Instant
  expires : Instant
  spent : Bool
deriving DecidableEq, Repr

end Identity

/-- The accounts by id and by email, the devices by id and by the digests of their tokens, and the
refresh tokens by their digests. -/
structure Identity where
  scheme : Identity.Scheme
  users : Table AccountId Identity.User
  emails : Table String AccountId
  devices : Table DeviceId Identity.Device
  deviceTokens : Table String DeviceId
  refreshTokens : Table String Identity.RefreshToken

namespace Identity

def empty (scheme : Scheme) : Identity := ⟨scheme, ∅, ∅, ∅, ∅, ∅⟩

def tokenOf (bytes : List UInt8) : String := Base64.encode .urlSafe bytes

def deviceTokenBytes : Nat := 48

def refreshTokenBytes : Nat := 64

def saltBytes : Nat := 16

/-! ## Refusals -/

inductive Refusal where
  | invalidEmail
  | shortPassword
  | emailTaken
  | badLogin
  | badRefreshToken
  | nameMissing
  | nameTooLong
  | unknownDevice
deriving DecidableEq, Repr

def minPasswordBytes : Nat := 8

def maxNameLength : Nat := 100

def Refusal.problem : Refusal → Problem
  | .invalidEmail => ⟨.validation, "invalid email"⟩
  | .shortPassword =>
    ⟨.validation, "password must be at least " ++ toString minPasswordBytes ++ " characters"⟩
  | .emailTaken => ⟨.conflict, "email already registered"⟩
  | .badLogin => ⟨.unauthorized, "invalid email or password"⟩
  | .badRefreshToken => ⟨.unauthorized, "invalid refresh token"⟩
  | .nameMissing => ⟨.badRequest, "device_name is required"⟩
  | .nameTooLong =>
    ⟨.badRequest, "device_name must be at most " ++ toString maxNameLength ++ " characters"⟩
  | .unknownDevice => ⟨.notFound, "device not found"⟩

end Identity

end Switchboard
