import Switchboard.Access
import Switchboard.AccessToken.Audience
import Switchboard.AccessToken.Basic
import Switchboard.AccessToken.Key
import Switchboard.AccessToken.Verify
import Switchboard.Address
import Switchboard.Base64
import Switchboard.Calendar
import Switchboard.Config
import Switchboard.Decimal.Basic
import Switchboard.Decimal.Binary
import Switchboard.Digest.Blake2b
import Switchboard.Digest.Bytes
import Switchboard.Digest.Sha1
import Switchboard.Digest.Sha256
import Switchboard.Digest.Words
import Switchboard.Frame.Basic
import Switchboard.Frame.Reader
import Switchboard.Frame.Writer
import Switchboard.Hex
import Switchboard.Http.Basic
import Switchboard.Http.Body
import Switchboard.Http.Cors
import Switchboard.Http.Headers
import Switchboard.Http.Percent
import Switchboard.Http.Upgrade
import Switchboard.Hub.Basic
import Switchboard.Hub.Delivery
import Switchboard.Hub.Forward
import Switchboard.Hub.Membership
import Switchboard.Hub.Outbox
import Switchboard.Hub.Room
import Switchboard.Hub.Route
import Switchboard.Hub.Run
import Switchboard.Identity.Accounts
import Switchboard.Identity.Basic
import Switchboard.Identity.Run
import Switchboard.Identity.Sessions
import Switchboard.Identity.Verify
import Switchboard.Json.Basic
import Switchboard.Json.Fault
import Switchboard.Json.Form
import Switchboard.Json.Reader
import Switchboard.Json.Reader.Arrays
import Switchboard.Json.Reader.Basic
import Switchboard.Json.Reader.Numbers
import Switchboard.Json.Reader.Objects
import Switchboard.Json.Reader.Passing
import Switchboard.Json.Reader.Strings
import Switchboard.Json.Shape
import Switchboard.Limit
import Switchboard.Limits.Bucket
import Switchboard.Limits.Window
import Switchboard.Limits.Words
import Switchboard.Message.Basic
import Switchboard.Message.Kind
import Switchboard.Notice.Basic
import Switchboard.Notice.Reader
import Switchboard.Password.Argon2
import Switchboard.Password.Basic
import Switchboard.Password.Record
import Switchboard.Policy
import Switchboard.Principal
import Switchboard.Problem
import Switchboard.Proofs.History
import Switchboard.Proofs.Hub.Attachment
import Switchboard.Proofs.Hub.Broadcast
import Switchboard.Proofs.Hub.Bystanders
import Switchboard.Proofs.Hub.Calls
import Switchboard.Proofs.Hub.Census
import Switchboard.Proofs.Hub.Commands
import Switchboard.Proofs.Hub.Consistency
import Switchboard.Proofs.Hub.Delivery
import Switchboard.Proofs.Hub.Departures
import Switchboard.Proofs.Hub.Fanout
import Switchboard.Proofs.Hub.HasEffect
import Switchboard.Proofs.Hub.Following
import Switchboard.Proofs.Hub.Isolation
import Switchboard.Proofs.Hub.Effect
import Switchboard.Proofs.Hub.Originator
import Switchboard.Proofs.Hub.Outstanding
import Switchboard.Proofs.Hub.Presence
import Switchboard.Proofs.Hub.Reception
import Switchboard.Proofs.Hub.Refusal
import Switchboard.Proofs.Hub.Rooms
import Switchboard.Proofs.Hub.Runs
import Switchboard.Proofs.Hub.Texts
import Switchboard.Proofs.Hub.Offers
import Switchboard.Proofs.Hub.Turns
import Switchboard.Proofs.Identity.Replay
import Switchboard.Proofs.Identity.Rotation
import Switchboard.Proofs.Identity.Runs
import Switchboard.Proofs.Identity.Sessions
import Switchboard.Proofs.Json.Strings
import Switchboard.Proofs.Json.Written
import Switchboard.Proofs.Notice
import Switchboard.Proofs.Relay.Agreement
import Switchboard.Proofs.Socket.Accord
import Switchboard.Proofs.Socket.Transition
import Switchboard.Relay.Basic
import Switchboard.Relay.Settle
import Switchboard.Server.Basic
import Switchboard.Server.Route
import Switchboard.Service.Accounts
import Switchboard.Service.Basic
import Switchboard.Service.Devices
import Switchboard.Service.Run
import Switchboard.Settings
import Switchboard.Socket.Basic
import Switchboard.Table
import Switchboard.Text.Basic
import Switchboard.Text.LetterCase
import Switchboard.Text.Numeral
import Switchboard.Text.Quoted
import Switchboard.Text.Unseen
import Switchboard.Text.Utf8
import Switchboard.Uuid
import Switchboard.Proofs.Uuid
import Switchboard.Proofs.Base64
import Switchboard.Proofs.Json.Numbers
import Switchboard.Proofs.Json.Passing
import Switchboard.Proofs.AccessToken
import Switchboard.Proofs.Identity.Pairing
import Switchboard.Proofs.Identity.Devices
import Switchboard.Proofs.Identity.Admission
import Switchboard.Proofs.Relay.Membership
import Switchboard.Proofs.Service.Turns
import Switchboard.Proofs.Server.Requests
import Switchboard.Proofs.Service.Unpairing
import Switchboard.Proofs.Server.Presence
import Switchboard.Proofs.Server.Bearer
import Switchboard.Proofs.Identity.Accounts
import Switchboard.Proofs.Hub.Registration
import Switchboard.Proofs.Hub.Commuting
import Switchboard.Proofs.Hub.Orders
import Switchboard.Proofs.Decimal
import Switchboard.Proofs.Json.Decimals
import Switchboard.Proofs.Json.Values
import Switchboard.Proofs.Message
import Switchboard.Proofs.Limits.Asking
import Switchboard.Proofs.Limits.Words
import Switchboard.Proofs.Limits.Bucket
import Switchboard.Proofs.Limits.Window
import Switchboard.Proofs.Limits.Nominal
import Switchboard.Proofs.Socket.Hearing
import Switchboard.Proofs.Relay.Pace
import Switchboard.Proofs.Hub.Filling
import Switchboard.Proofs.Socket.Backlog
import Switchboard.Proofs.Limits.Alone
import Switchboard.Proofs.Hub.Replies
import Switchboard.Proofs.Relay.Replies
import Switchboard.Proofs.Socket.Signs
import Switchboard.Proofs.Relay.Heartbeat
import Switchboard.Proofs.Server.Lifetimes
import Switchboard.Proofs.Hub.Nesting
import Switchboard.Proofs.Identity.Enrolment
import Switchboard.Proofs.Service.Failures
