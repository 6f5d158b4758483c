import Switchboard.Password.Record

/-! # Passwords

* `Password.hash` — a password under a salt, as the line that is kept of it;
* `Password.verify` — whether a password is the one of which a line is kept. -/

namespace Switchboard.Password

/-- The hash of a password with everything that a record says. -/
def hashAs (r : Record) (password : String) : List UInt8 :=
  Argon2.hash
    { variant := r.variant
      version := r.version
      cost := r.cost
      password := Bytes.ofString password
      salt := r.salt
      data := r.data
      size := r.hash.length }

/-- Whether a password is the one behind a line.  The hash is made again with everything that the
line says about it; a line that says nothing sensible fits no password. -/
def verify (password line : String) : Bool :=
  match Record.parse line with
  | some r => hashAs r password = r.hash
  | none => false

def hashSize : Nat := 32

/-- A password under a salt, as the line that is kept of it. -/
def hash (cost : Argon2.Cost) (salt : List UInt8) (password : String) : String :=
  let r : Record := ⟨.mixed, .second, cost, salt, [], List.replicate hashSize 0⟩
  { r with hash := hashAs r password }.render

end Switchboard.Password
