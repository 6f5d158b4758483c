import Switchboard.AccessToken.Audience
import Switchboard.AccessToken.Basic
import Switchboard.AccessToken.Key
import Switchboard.Json.Shape
import Switchboard.Limit

/-! # Accepting a token

* `AccessToken.signedPart` — what a token says, if the signature is right;
* `AccessToken.Claims.ofPart` — the claims in what it says;
* `AccessToken.flaw?` — what stands against claims that are signed: their time, their
  issuer, or that they are meant for someone else;
* `AccessToken.verify`, `AccessToken.verifyAccount` — the claims of a token that may be
  used, and the account that it is for. -/

namespace Switchboard.AccessToken

open Json (Decoder Record)
open Access (Refusal)

/-- A token that does not even have the form of one. -/
def malformed : Refusal := .invalidToken "malformed token"

/-! ## How a token is signed -/

def algorithms : List String :=
  ["HS256", "HS384", "HS512", "ES256", "ES384", "RS256", "RS384", "RS512",
   "PS256", "PS384", "PS512", "EdDSA"]

def headerRecord : Record where
  title := "header"
  fields :=
    let text := Json.refusal (Decoder.optional Decoder.string)
    [⟨"typ", text, false⟩,
     ⟨"alg", Json.refusal (Decoder.variant (algorithms.map fun a => (a, a))), false⟩,
     ⟨"cty", text, false⟩, ⟨"jku", text, false⟩,
     ⟨"jwk", Json.refusal (Decoder.optional Key.check), false⟩,
     ⟨"kid", text, false⟩, ⟨"x5u", text, false⟩,
     ⟨"x5c", Json.refusal (Decoder.optional Decoder.strings), false⟩,
     ⟨"x5t", text, false⟩, ⟨"x5t#S256", text, false⟩]

/-- The members of a value that has the shape of a record, in which no field is told twice. -/
def membersOf (r : Record) (v : Json) : Option (List (String × Json)) :=
  match v with
  | .object members => ((Record.checkWritten r.fields [] members).map fun _ => members).toOption
  | .array items => (r.ofItems "" items).toOption
  | _ => none

/-- The way in which a token says that it is signed, read in the bytes of its first part. -/
def algorithmOf (part : List UInt8) : Option String := do
  let header ← (Json.parseOnly (headerRecord.fields.map (·.name)) part).toOption
  let members ← membersOf headerRecord header
  (Record.field members "alg" (.variant (algorithms.map fun a => (a, a)))).toOption

/-! ## What a token says -/

def claimsRecord : Record where
  title := "claims"
  fields :=
    let text := Json.refusal Decoder.string
    let number := Json.refusal (Decoder.natBelow Limit.bits64 "usize")
    [⟨"sub", text, false⟩, ⟨"exp", number, false⟩, ⟨"iat", number, false⟩,
     ⟨"iss", text, false⟩, ⟨"email", text, false⟩, ⟨"jti", text, false⟩]

def Claims.ofMembers (members : List (String × Json)) : Option Claims := do
  let _ ← membersOf claimsRecord (.object members)
  let text (name : String) : Option String := (Record.field members name .string).toOption
  let number (name : String) : Option Nat :=
    (Record.field members name (.natBelow Limit.bits64 "")).toOption
  return ⟨← text "sub", ← number "exp", ← number "iat", ← text "iss", ← text "email", ← text "jti"⟩

def Claims.ofPart (part : List UInt8) : Option Claims := do
  let v ← (Json.parseOnly (claimsRecord.fields.map (·.name)) part).toOption
  Claims.ofMembers (← v.asObject?)

/-! ## Checking -/

/-- Seconds by which clocks may differ. -/
def leeway : Nat := 60

/-- The earliest expiry that is accepted at `now`, `leeway` before it.  Seconds are words of 64
bits, so in the first minute of all the subtraction wraps and the result lies far ahead. -/
def earliestExpiry (now : Instant) : Nat :=
  if now.seconds < leeway then now.seconds + Limit.bits64 - leeway else now.seconds - leeway

/-- What stands against claims whose signature is right.  Expiry goes first, so that an old token is
told to be old whatever else is wrong with it. -/
def flaw? (now : Instant) (claims : Claims) (addressed : Bool) : Option Refusal :=
  if claims.expires < earliestExpiry now then some .expired
  else if claims.issuer ≠ issuer then some (.invalidToken "invalid issuer")
  else if addressed then some malformed
  else none

/-- The three parts of a token: those between its last two points, and what is before. -/
def parts (token : String) : Option (String × String × String) :=
  match (token.toList.splitOn '.').reverse with
  | last :: middle :: first =>
    if first.isEmpty then none
    else
      some (String.ofList (List.intercalate ['.'] first.reverse), String.ofList middle,
        String.ofList last)
  | _ => none

/-- The bytes of what a token says.  Its algorithm is looked at before its signature, and the
signature before anything that it says. -/
def signedPart (secret token : String) : Except Refusal (List UInt8) :=
  match parts token with
  | none => .error malformed
  | some (first, middle, last) =>
    if (Base64.decode .urlSafe first).bind algorithmOf ≠ some "HS256" then .error malformed
    else if signature secret (first ++ "." ++ middle) ≠ last then
      .error (.invalidToken "invalid signature")
    else
      match Base64.decode .urlSafe middle with
      | some part => .ok part
      | none => .error malformed

/-- The claims of a token that may be used now: `signedPart`, `Claims.ofPart` and `flaw?`, one after
the other. -/
def verify (k : Keys) (now : Instant) (token : String) : Except Refusal Claims :=
  match signedPart k.secret token with
  | .error e => .error e
  | .ok part =>
    match Claims.ofPart part, isAddressed? part with
    | some claims, some addressed =>
      match flaw? now claims addressed with
      | some e => .error e
      | none => .ok claims
    | _, _ => .error malformed

/-- The account that a token is for, if it may be used now, and its claims. -/
def verifyAccount (k : Keys) (now : Instant) (token : String) :
    Except Refusal (AccountId × Claims) :=
  match verify k now token with
  | .error e => .error e
  | .ok claims =>
    match Uuid.parse claims.subject with
    | .ok account => .ok (account, claims)
    | .error _ => .error (.invalidToken "subject is not an account id")

end Switchboard.AccessToken
