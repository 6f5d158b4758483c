import Switchboard.Identity.Basic

/-! # Refresh tokens

A refresh token is good for one new access token and for its own replacement.  One that
has been spent is kept for a while: if it is presented again, someone has copied it,
and all tokens of its user are revoked.

* `Identity.issue` — a new refresh token;
* `Identity.rotate` — spends a token for a new one;
* `Identity.revoke` — revokes all tokens of a user. -/

namespace Switchboard.Identity

/-- How long a refresh token may be used, in milliseconds. -/
def refreshLifetime : Nat := 30 * 24 * 3600 * 1000

/-- How long a spent token is kept, in milliseconds, counted from when it was issued. -/
def spentRetention : Nat := 60 * 60 * 1000

def issue (s : Identity) (now : Instant) (token : String) (user : AccountId) : Identity :=
  let r : RefreshToken := ⟨user, now, now + refreshLifetime, false⟩
  { s with refreshTokens := s.refreshTokens.insert (s.scheme.digest token) r }

def revoke (s : Identity) (user : AccountId) : Identity :=
  { s with refreshTokens := s.refreshTokens.filter fun _ r => r.user ≠ user }

/-- A token is kept until it expires; a spent one only for `spentRetention` after its `created`. -/
def isKept (now : Instant) (r : RefreshToken) : Bool :=
  now ≤ r.expires ∧ (r.spent = false ∨ now ≤ r.created + spentRetention)

/-- Only the tokens that `isKept` keeps. -/
def prune (s : Identity) (now : Instant) : Identity :=
  { s with refreshTokens := s.refreshTokens.filter fun _ r => isKept now r }

/-- Spends a refresh token for a new one of the same user.  One that was spent before is taken to be
stolen, and costs its user all tokens; one that has expired is forgotten. -/
def rotate (s : Identity) (now : Instant) (fresh token : String) :
    Identity × Except Refusal (User × String) :=
  let key := s.scheme.digest token
  match s.refreshTokens[key]? with
  | none => (s, .error .badRefreshToken)
  | some r =>
    -- looked at before `expires`, so even a spent token that has expired counts as stolen
    if r.spent then (s.revoke r.user, .error .badRefreshToken)
    else if r.expires < now then
      ({ s with refreshTokens := s.refreshTokens.erase key }, .error .badRefreshToken)
    else
      let spent := { s with refreshTokens := s.refreshTokens.insert key { r with spent := true } }
      -- this drops `spent` as well if it was issued longer than `spentRetention` ago
      let s := spent.prune now
      match s.users[r.user]? with
      | some u => (s.issue now fresh r.user, .ok (u, fresh))
      | none => (s, .error .badRefreshToken)

end Switchboard.Identity
