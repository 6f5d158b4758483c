import Switchboard.Service.Accounts
import Switchboard.Service.Devices

/-! # The service at work

* `Service.Call`, `Service.Reply` — what clients ask for, and what they are answered;
* `Service.call` — the answer to a call;
* `Service.Event`, `Service.step` — calls and what happens on connections, one at a time. -/

namespace Switchboard.Service

/-- What clients ask for. -/
inductive Call where
  | register (email password : String)
  | login (email password : String)
  | refresh (token : String)
  | pair (bearer name : String)
  | devices (bearer : String)
  | unpair (bearer : String) (device : DeviceId)
  | connect (token deviceToken : Option String)
deriving DecidableEq, Repr

inductive Reply where
  | tokens (tokens : Tokens)
  | paired (paired : Paired)
  | devices (devices : List Listed)
  | unpaired
  /-- The connection is open; a close may have been sent at once. -/
  | connected (sent : Relay.Sent)

/-- Starts a socket for a principal that `identify` has admitted. -/
def connect (s : Service) (clock : Clock) (fresh : Fresh) (p : Principal) : Service × Relay.Sent :=
  let (relay, sent) := s.relay.start clock.steady ⟨fresh.id, p, fresh.outbox⟩
  ({ s with relay }, sent)

def withAccount {α : Type} (s : Service) (now : Instant) (bearer : String)
    (f : AccountId → Service × Except Problem α) : Service × Except Problem α :=
  match s.authenticate now bearer with
  | .error e => (s, .error e)
  | .ok account => f account

def mapReply {α β : Type} (f : α → β) (r : Service × Except Problem α) :
    Service × Except Problem β :=
  (r.1, r.2.map f)

def call (s : Service) (clock : Clock) (fresh : Fresh) : Call → Service × Except Problem Reply
  | .register email password => mapReply .tokens (s.register clock.wall fresh email password)
  | .login email password => mapReply .tokens (s.login clock.wall fresh email password)
  | .refresh token => mapReply .tokens (s.refresh clock.wall fresh token)
  | .pair bearer name =>
    s.withAccount clock.wall bearer fun account =>
      mapReply .paired (s.pair clock.wall fresh account name)
  | .devices bearer =>
    s.withAccount clock.wall bearer fun account => (s, .ok (.devices (s.devices account)))
  | .unpair bearer device =>
    s.withAccount clock.wall bearer fun account =>
      mapReply (fun _ => .unpaired) (s.unpair clock.steady account device)
  | .connect token deviceToken =>
    match s.identify clock.wall token deviceToken with
    | (s, .error e) => (s, .error e)
    | (s, .ok p) =>
      let (s, sent) := s.connect clock fresh p
      (s, .ok (.connected sent))

/-- What may happen: a call, or something on a connection. -/
inductive Event where
  | call (fresh : Fresh) (call : Call)
  | move (o : OutboxId) (move : Socket.Move)

def step (s : Service) (clock : Clock) : Event → Service
  | .call fresh c => (s.call clock fresh c).1
  | .move o move => { s with relay := (s.relay.step clock.steady (.move o move)).1 }

end Switchboard.Service
