import Switchboard.Json.Shape

/-! # Keys that tokens bring with them

A token may tell a key in its first part.  The key has to have the form of one, and that
is all: it has no effect.

* `AccessToken.Key.general` — what a key of any kind may tell of itself;
* `AccessToken.Key.kinds` — the kinds of keys, with what each of them has to tell;
* `AccessToken.Key.check` — whether a value has the form of a key. -/

namespace Switchboard.AccessToken.Key

open Json (Decoder Record)

/-- What may stand beside the name of an algorithm: null, or an object without members.
Beside a kind or a curve only null may stand. -/
def isNothing : Json → Bool
  | .null => true
  | .object [] => true
  | _ => false

/-- Names that stand for themselves. -/
def selfNamed (names : List String) : List (String × String) := names.map fun a => (a, a)

def algorithms : List String :=
  ["HS256", "HS384", "HS512", "ES256", "ES384", "RS256", "RS384", "RS512",
   "PS256", "PS384", "PS512", "EdDSA", "RSA1_5", "RSA-OAEP", "RSA-OAEP-256"]

def curves : List String := ["P-256", "P-384", "P-521", "Ed25519"]

/-- What a key of any kind may tell of itself. -/
def general : Record where
  title := "key"
  fields :=
    let text := Json.refusal (Decoder.optional Decoder.string)
    let texts := Json.refusal (Decoder.optional Decoder.strings)
    [⟨"use", text, true⟩, ⟨"key_ops", texts, true⟩,
     ⟨"alg", Json.refusal (Decoder.optional (.variantWhere isNothing (selfNamed algorithms))),
       true⟩,
     ⟨"kid", text, true⟩, ⟨"x5u", text, true⟩, ⟨"x5c", texts, true⟩,
     ⟨"x5t", text, true⟩, ⟨"x5t#S256", text, true⟩]

/-- A kind of keys: its name, whether its keys lie on a curve, and the texts they consist of. -/
def kind (name : String) (curved : Bool) (texts : List String) : Record where
  title := name
  fields :=
    ⟨"kty", Json.refusal (Decoder.variant (selfNamed [name])), false⟩ ::
      ((if curved then [⟨"crv", Json.refusal (Decoder.variant (selfNamed curves)), false⟩]
        else []) ++
        texts.map fun text => ⟨text, Json.refusal Decoder.string, false⟩)

def kinds : List Record :=
  [kind "EC" true ["x", "y"], kind "RSA" false ["n", "e"], kind "oct" false ["k"],
   kind "OKP" true ["x"]]

/-- Whether the members of an object are those of a kind of keys, each of them once.  Other
members do not matter. -/
def isOf (members : List (String × Json)) (r : Record) : Bool :=
  (Record.checkWritten r.fields [] members).isOk &&
    r.fields.all fun field => (Json.lookup field.name members).isSome

/-- Whether a value has the form of a key. -/
def check : Decoder Unit
  | .object members =>
    match Record.checkWritten general.fields [] members with
    | .error e => .error e
    | .ok _ => if kinds.any (isOf members) then .ok () else Json.mistyped (.object members) "a key"
  | v => Json.mistyped v "a key"

end Switchboard.AccessToken.Key
