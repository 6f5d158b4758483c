import Switchboard.Identity.Basic
import Switchboard.Text.Basic

/-! # Accounts

* `Identity.normalEmail` — the one form of an email under which an account is known;
* `Identity.register` — a new account;
* `Identity.authenticate` — the account of an email and a password. -/

namespace Switchboard.Identity

/-- The form of an email under which an account is known: `Text.trim`, then `Text.lower`. -/
def normalEmail (email : String) : String := Text.lower (Text.trim email)

def registrationFlaw? (email password : String) : Option Refusal :=
  if '@' ∉ email.toList then some .invalidEmail
  else if password.utf8ByteSize < minPasswordBytes then some .shortPassword
  else none

def addUser (s : Identity) (u : User) : Identity :=
  { s with users := s.users.insert u.id u, emails := s.emails.insert u.email u.id }

/-- A new account under `normalEmail email`.  Email and password are judged before it is looked up
whether the email is taken. -/
def register (s : Identity) (now : Instant) (id : AccountId) (salt : List UInt8)
    (email password : String) : Identity × Except Refusal User :=
  let email := normalEmail email
  match registrationFlaw? email password with
  | some e => (s, .error e)
  | none =>
    if email ∈ s.emails then (s, .error .emailTaken)
    else
      let u : User := ⟨id, email, s.scheme.lock salt password, now⟩
      (s.addUser u, .ok u)

def userOf (s : Identity) (email : String) : Option User :=
  (s.emails[normalEmail email]?).bind fun id => s.users[id]?

def authenticate (s : Identity) (email password : String) : Except Refusal User :=
  match s.userOf email with
  | some u => if s.scheme.opens password u.password then .ok u else .error .badLogin
  | none => .error .badLogin

def hasUser (s : Identity) (id : AccountId) : Bool := id ∈ s.users

end Switchboard.Identity
