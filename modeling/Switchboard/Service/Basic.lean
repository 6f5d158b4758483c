import Switchboard.Identity.Sessions
import Switchboard.Identity.Verify
import Switchboard.Relay.Basic

/-! # The service

What clients may ask for, whatever the form in which they ask.

* `Service` — who is known, how access tokens are signed, and the relay at work;
* `Service.Clock`, `Service.Fresh` — the time, and values that nobody can guess;
* `Service.authenticate` — the account of an access token. -/

namespace Switchboard

/-- Who is known, how access tokens are signed, and the relay at work. -/
structure Service where
  identity : Identity
  keys : AccessToken.Keys
  relay : Relay

namespace Service

/-- The time: that of calendars, which tokens go by, and that of a stopwatch, which
heartbeats and limits go by. -/
structure Clock where
  wall : Instant
  steady : Instant
deriving DecidableEq, Repr

/-- The values that one call may use up, drawn so that nobody can guess them and none comes up
twice. -/
structure Fresh where
  /-- The id of a new account, device or connection. -/
  id : Uuid
  salt : List UInt8
  /-- A new token of a device, or a new refresh token. -/
  token : String
  /-- The id of a new access token. -/
  tokenId : Uuid
  /-- The name of a new outbox. -/
  outbox : OutboxId
deriving DecidableEq, Repr

def empty (scheme : Identity.Scheme) (keys : AccessToken.Keys) (config : Config) : Service :=
  ⟨.empty scheme, keys, .empty config⟩

/-- The account of an access token.  The signature alone is not enough: the store has to know the
account. -/
def authenticate (s : Service) (now : Instant) (token : String) : Except Problem AccountId :=
  match AccessToken.verifyAccount s.keys now token with
  | .error e => .error e.problem
  | .ok (account, _) =>
    if s.identity.hasUser account then .ok account
    else .error ⟨.authentication, "unknown account"⟩

end Service

end Switchboard
