import Switchboard.Service.Basic

/-! # Accounts and their tokens

Whoever registers, logs in or presents a refresh token gets an access token and a
refresh token.

* `Service.Tokens` — the two tokens;
* `Service.register`, `Service.login`, `Service.refresh` — the ways to get them. -/

namespace Switchboard.Service

structure Tokens where
  account : AccountId
  access : String
  refresh : String
deriving DecidableEq, Repr

def Tokens.toJson (t : Tokens) : Json :=
  .object
    [("user_id", .string t.account.render), ("access_token", .string t.access),
     ("refresh_token", .string t.refresh)]

/-- The two tokens of a user who has the refresh token already.  This fails if the access token
cannot be made. -/
def tokens (s : Service) (now : Instant) (tokenId : Uuid) (u : Identity.User) (refresh : String) :
    Except Problem Tokens :=
  (AccessToken.issue s.keys now u.id u.email tokenId).map fun access => ⟨u.id, access, refresh⟩

/-- Issues a refresh token and makes an access token.  The refresh token stays in the store even if
the other one cannot be made. -/
def welcome (s : Service) (now : Instant) (fresh : Fresh) (u : Identity.User) :
    Service × Except Problem Tokens :=
  ({ s with identity := s.identity.issue now fresh.token u.id },
    s.tokens now fresh.tokenId u fresh.token)

/-- Adds a user with `Identity.register`, then `welcome`s it.  If the store refuses, nothing has
changed; if `welcome` fails, the user is there. -/
def register (s : Service) (now : Instant) (fresh : Fresh) (email password : String) :
    Service × Except Problem Tokens :=
  match s.identity.register now fresh.id fresh.salt email password with
  | (_, .error e) => (s, .error e.problem)
  | (identity, .ok u) => { s with identity }.welcome now fresh u

/-- `welcome`s the user whose password it is.  An unknown email and a wrong password are one and the
same error. -/
def login (s : Service) (now : Instant) (fresh : Fresh) (email password : String) :
    Service × Except Problem Tokens :=
  match s.identity.authenticate email password with
  | .error e => (s, .error e.problem)
  | .ok u => s.welcome now fresh u

/-- Rotates the refresh token and makes an access token beside its successor.  The store keeps what
`Identity.rotate` did to it, also where that ends in an error. -/
def refresh (s : Service) (now : Instant) (fresh : Fresh) (token : String) :
    Service × Except Problem Tokens :=
  match s.identity.rotate now fresh.token token with
  | (identity, .error e) => ({ s with identity }, .error e.problem)
  | (identity, .ok (u, successor)) =>
    let s := { s with identity }
    (s, s.tokens now fresh.tokenId u successor)

end Switchboard.Service
