import Switchboard.Identity.Sessions
import Switchboard.Identity.Verify

/-! # The store at work

Calls of the store come one after the other, each at its time.

* `Identity.Action`, `Identity.Answer` — what may be asked of the store, and what comes of it;
* `Identity.step`, `Identity.run` — one action at its time, and several. -/

namespace Switchboard.Identity

/-- What may be asked of the store, with the random values that it draws. -/
inductive Action where
  | register (id : AccountId) (salt : List UInt8) (email password : String)
  | authenticate (email password : String)
  | pair (id : DeviceId) (token : String) (account : AccountId) (name : String)
  | devices (account : AccountId)
  | unpair (account : AccountId) (id : DeviceId)
  | resolve (token : String)
  | issue (token : String) (user : AccountId)
  | rotate (fresh token : String)
  | revoke (user : AccountId)
deriving DecidableEq, Repr

inductive Answer where
  | nothing
  | user (result : Except Refusal User)
  | device (result : Except Refusal Device)
  | devices (ds : List Device)
  | resolved (device : Option Device)
  | rotated (result : Except Refusal (User × String))

def step (s : Identity) (now : Instant) : Action → Identity × Answer
  | .register u salt email password => (s.register now u salt email password).map id .user
  | .authenticate email password => (s, .user (s.authenticate email password))
  | .pair d token account name => (s.pair now d token account name).map id .device
  | .devices account => (s, .devices (s.devicesOf account))
  | .unpair account d => (s.unpair account d).map id .device
  | .resolve token => (s.resolve now token).map id .resolved
  | .issue token user => (s.issue now token user, .nothing)
  | .rotate fresh token => (s.rotate now fresh token).map id .rotated
  | .revoke user => (s.revoke user, .nothing)

/-- Actions one after the other, each at its time, and the answer to each. -/
def run (s : Identity) : List (Instant × Action) → Identity × List Answer
  | [] => (s, [])
  | (now, a) :: as =>
    let (s, answer) := s.step now a
    let (s, answers) := s.run as
    (s, answer :: answers)

end Switchboard.Identity
