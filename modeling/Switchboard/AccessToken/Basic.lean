import Switchboard.Access
import Switchboard.Base64
import Switchboard.Calendar
import Switchboard.Digest.Sha256
import Switchboard.Limit
import Switchboard.Principal

/-! # Access tokens

An access token tells which account it was made for and until when it may be used.
It has three parts with points between them: how it is signed, what it says, and a
signature that only holders of the secret can make.

* `AccessToken.Claims` — what a token says;
* `AccessToken.sign` — the token of some claims;
* `AccessToken.issue` — a token for an account. -/

namespace Switchboard.AccessToken

/-- What a token says: `subject` and `email` tell whom it is for, `issued` and `expires` are
seconds. -/
structure Claims where
  subject : String
  expires : Nat
  issued : Nat
  issuer : String
  email : String
  id : String
deriving DecidableEq, Repr

/-- The secret that tokens are signed with, and `minutes`, for which they are good. -/
structure Keys where
  secret : String
  minutes : Int
deriving DecidableEq, Repr

def issuer : String := "job-relay"

def Claims.toJson (c : Claims) : Json :=
  .object
    [("sub", .string c.subject), ("exp", .ofNat c.expires), ("iat", .ofNat c.issued),
     ("iss", .string c.issuer), ("email", .string c.email), ("jti", .string c.id)]

def header : Json := .object [("typ", .string "JWT"), ("alg", .string "HS256")]

def encodePart (s : String) : String := Base64.encode .urlSafe (Bytes.ofString s)

def signature (secret message : String) : String :=
  Base64.encode .urlSafe (Sha256.hmac (Bytes.ofString secret) (Bytes.ofString message))

def sign (secret : String) (claims : Claims) : String :=
  let message := encodePart header.render ++ "." ++ encodePart claims.toJson.render
  message ++ "." ++ signature secret message

/-! ## Issuing -/

/-- What `Keys.lifetime` falls back to where `Keys.minutes` cannot be counted. -/
def defaultMinutes : Int := 60

/-- The longest time, in minutes, whose milliseconds are a number of 64 bits with sign. -/
def maxMinutes : Int := (Limit.bits63 - 1) / 60000

/-- The minutes for which a token is good: `minutes`, or `defaultMinutes` beyond `maxMinutes` on
either side. -/
def Keys.lifetime (k : Keys) : Int :=
  if -maxMinutes ≤ k.minutes ∧ k.minutes ≤ maxMinutes then k.minutes else defaultMinutes

/-- The last second in which a token issued at `now` may be used; `none` if dates do not go that
far, and then no token can be made. -/
def Keys.expiry (k : Keys) (now : Instant) : Option Int :=
  let second : Int := now.seconds + 60 * k.lifetime
  if Calendar.firstSecond ≤ second ∧ second < Calendar.endSecond then some second else none

def Keys.claims (k : Keys) (now : Instant) (account : AccountId) (email : String) (id : Uuid) :
    Except Problem Claims :=
  match k.expiry now with
  | none => .error ⟨.internal, "Failed to calculate JWT expiration time"⟩
  | some second =>
    .ok ⟨account.render, second.toNat, now.seconds, issuer, email, id.render⟩

def issue (k : Keys) (now : Instant) (account : AccountId) (email : String) (id : Uuid) :
    Except Problem String :=
  (k.claims now account email id).map (sign k.secret)

end Switchboard.AccessToken
