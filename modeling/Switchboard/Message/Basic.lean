import Switchboard.Json.Reader
import Switchboard.Message.Kind

/-! # Messages from clients

The relay looks at two members of a message, `type` and `id`, and passes the
text on as it came.

* `Message` — a text that has been classified;
* `Message.Fault` — why a text is no message, with its wording;
* `Message.read` — the message that a text writes;
* `Message.peekId` — the id of a text that may be no message. -/

namespace Switchboard

/-- A classified message.  `raw` is the text as it came, and what is passed on. -/
structure Message where
  kind : Message.Kind
  id : Option String
  raw : String
deriving DecidableEq, Repr

namespace Message

/-- The family of a message is that of its kind. -/
def family (m : Message) : Family := m.kind.family

inductive Fault where
  | malformed (error : Json.Error)
  | notAnObject
  | missingType
  | unknownType (tag : String)
  | missingId (kind : Kind)
  | binary
deriving DecidableEq, Repr

def Fault.message : Fault → String
  | .malformed e => "malformed JSON: " ++ e.message
  | .notAnObject => "frame must be a JSON object"
  | .missingType => "missing string field `type`"
  | .unknownType tag => "unknown message type `" ++ tag ++ "`"
  | .missingId kind => "`" ++ kind.tag ++ "` requires a string `id`"
  | .binary => "binary frames are not supported"

def stringMember (name : String) (v : Json) : Option String :=
  (v.get? name).bind Json.asString?

/-- The kind of a tag, or the tag as the fault. -/
def kindOf (tag : String) : Except Fault Kind :=
  match Kind.ofTag? tag with
  | some kind => .ok kind
  | none => .error (.unknownType tag)

/-- Classifies an object that was read from `raw` by its `type` and its `id` alone.  Only commands
and responses need an id. -/
def classify (raw : String) (v : Json) : Except Fault Message :=
  match stringMember "type" v with
  | none => .error .missingType
  | some tag =>
    match kindOf tag with
    | .error e => .error e
    | .ok kind =>
      let id := stringMember "id" v
      if kind.family.needsId ∧ id = none then .error (.missingId kind)
      else .ok ⟨kind, id, raw⟩

def read (text : String) : Except Fault Message :=
  match Json.parse text with
  | .error e => .error (.malformed e)
  | .ok v =>
    match v.asObject? with
    | none => .error .notAnObject
    | some _ => classify text v

/-- The `id` of a text that need not be a message, for the answer that says what is wrong with
it. -/
def peekId (text : String) : Option String :=
  match Json.parse text with
  | .error _ => none
  | .ok v => stringMember "id" v

end Message

end Switchboard
