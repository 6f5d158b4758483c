import Switchboard.Problem
import Switchboard.Text.Basic

/-! # Who may open a connection

* `Access.Refusal` — why a client is turned away;
* `Access.Credentials` — what a client shows: an access token or a device token;
* `Access.Credentials.ofQuery` — the one of the two that a request carries. -/

namespace Switchboard.Access

inductive Refusal where
  | missing
  | ambiguous
  | invalidToken (reason : String)
  | expired
  | unknownDevice
  | unknownAccount
deriving DecidableEq, Repr

def Refusal.message : Refusal → String
  | .missing => "missing credentials: provide token or device_token"
  | .ambiguous => "ambiguous credentials: provide only one of token or device_token"
  | .invalidToken reason => "invalid token: " ++ reason
  | .expired => "token expired"
  | .unknownDevice => "unknown or revoked device"
  | .unknownAccount => "unknown account"

def Refusal.problem (r : Refusal) : Problem := ⟨.authentication, r.message⟩

/-- What a client shows to be let in: mobiles an access token, desktops the token of a device. -/
inductive Credentials where
  /-- The access token of an account, shown by mobiles. -/
  | bearer (token : String)
  /-- The token of a paired device, shown by desktops. -/
  | device (token : String)
deriving DecidableEq, Repr

/-- `Text.trim` of a value; one of which nothing is left counts as `none`. -/
def present (value : Option String) : Option String :=
  (value.map Text.trim).filter (· ≠ "")

/-- Exactly one of the two has to be there: `missing` and `ambiguous` are told apart before any
token is looked at. -/
def Credentials.ofQuery (token deviceToken : Option String) : Except Refusal Credentials :=
  match present token, present deviceToken with
  | some t, none => .ok (.bearer t)
  | none, some d => .ok (.device d)
  | some _, some _ => .error .ambiguous
  | none, none => .error .missing

end Switchboard.Access
