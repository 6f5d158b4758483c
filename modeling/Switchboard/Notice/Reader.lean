import Switchboard.Json.Reader
import Switchboard.Json.Shape
import Switchboard.Notice.Basic

/-! # Reading a notice

A notice is an object with its type among the members, or an array with its type
in front.  The type is read as it is met; the other members are kept until the
end, when the type is known, and what is wrong with them has no place any more.

* `Notice.Tag` — the types of notices;
* `Notice.read` — the notice that a text writes. -/

namespace Switchboard.Notice

open Switchboard.Bytes (ascii)
open Json
  (Decoder Failure Fault MemberRule Outcome Reader Record failAt failOn failWithin skipBlanks)

inductive Tag where
  | welcome
  | error
  | desktopStatus
deriving DecidableEq, Repr

namespace Tag

def names : List (String × Tag) :=
  [("welcome", .welcome), ("error", .error), ("desktop_status", .desktopStatus)]

/-- The members of each type. -/
def record : Tag → Record
  | .welcome =>
    ⟨"struct variant ServerMessage::Welcome",
      [⟨"connection_id", Json.refusal Decoder.string, false⟩,
       ⟨"server_version", Json.refusal Decoder.string, false⟩]⟩
  | .error =>
    ⟨"struct variant ServerMessage::Error",
      [⟨"id", Json.refusal (Decoder.optional Decoder.string), true⟩,
       ⟨"code", Json.refusal Decoder.string, false⟩,
       ⟨"message", Json.refusal Decoder.string, false⟩]⟩
  | .desktopStatus =>
    ⟨"struct variant ServerMessage::DesktopStatus",
      [⟨"online", Json.refusal Decoder.boolean, false⟩,
       ⟨"device_id", Json.refusal (Decoder.optional Principal.uuid), true⟩,
       ⟨"device_name", Json.refusal (Decoder.optional Decoder.string), true⟩]⟩

def read (s : List UInt8) : Outcome Tag :=
  match skipBlanks s with
  | [] => failOn .eofInValue []
  | c :: t =>
    if c = ascii '"' then
      match Json.stringBody [] t with
      | .error e => .error e
      | .ok (name, r) =>
        match names.lookup name with
        | some tag => .ok (tag, r)
        | none => failAt (.unknownVariant name (names.map Prod.fst)) r
    else if c = ascii '[' then failAt (.wrongType "sequence" "variant identifier") (c :: t)
    else if c = ascii '{' then failAt (.wrongType "map" "variant identifier") (c :: t)
    else
      match Json.valueFrom none c t with
      | .error e => .error e
      | .ok (v, r) => failAt (.wrongType v.described "variant identifier") r

theorem length_lt_of_read {s r : List UInt8} {tag : Tag} (h : read s = .ok (tag, r)) :
    r.length < s.length := by
  unfold read at h
  split at h
  · simp [failOn] at h
  · rename_i c t ht
    have := Json.length_lt_of_skipBlanks ht
    split at h
    · split at h
      · simp at h
      · rename_i name u hu
        have := Json.length_lt_of_stringBody hu
        split at h
        · simp only [Except.ok.injEq, Prod.mk.injEq] at h
          rw [← h.2]
          omega
        · simp [failAt] at h
    · split at h
      · simp [failAt] at h
      · split at h
        · simp [failAt] at h
        · split at h <;> simp [failAt] at h

end Tag

/-! ## The members -/

/-- What has been read of an object: the type, if it has been met, and the other
members, the last one first. -/
structure Draft where
  tag : Option Tag
  members : List (String × Json)

/-- The values inside a notice. -/
def inner : Reader Json := Json.value (Json.maxDepth - 1)

/-- Reads the type as such and keeps all other members. -/
def memberRule : MemberRule Draft where
  run draft name s :=
    if name = "type" then
      if draft.tag.isSome then failWithin (.duplicateField "type") s
      else
        match Json.colon s with
        | .error e => .error e
        | .ok (_, r) =>
          match Tag.read r with
          | .error e => .error e
          | .ok (tag, r') => .ok (⟨some tag, draft.members⟩, r')
    else
      match (Json.keep inner).run draft.members name s with
      | .error e => .error e
      | .ok (members, r) => .ok (⟨draft.tag, members⟩, r)
  shrinks := by
    intro draft draft' name s r h
    split at h
    · split at h
      · simp [failWithin] at h
      · split at h
        · simp at h
        · rename_i u t ht
          have := Json.length_lt_of_colon ht
          split at h
          · simp at h
          · rename_i tag w hw
            have := Tag.length_lt_of_read hw
            simp only [Except.ok.injEq, Prod.mk.injEq] at h
            rw [← h.2]
            omega
    · split at h
      · simp at h
      · rename_i members t ht
        have := (Json.keep inner).shrinks ht
        simp only [Except.ok.injEq, Prod.mk.injEq] at h
        rw [← h.2]
        exact this

/-! ## The two forms -/

/-- The members by name, as an object has them, or in order, as an array does. -/
inductive Content where
  | named (members : List (String × Json))
  | listed (items : List Json)

/-- An array with the type in front, read after its bracket. -/
def readListed (s : List UInt8) : Outcome (Tag × Content) :=
  match skipBlanks s with
  | [] => failOn .eofInList []
  | c :: t =>
    if c = ascii ']' then failAt (.missingField "type") t
    else
      match Tag.read (c :: t) with
      | .error e => .error e
      | .ok (tag, r) =>
        match Json.listTail inner [] r with
        | .error e => .error e
        | .ok (items, r') => .ok ((tag, .listed items), r')

/-- An object with the type among its members, read after its brace. -/
def readNamed (s : List UInt8) : Outcome (Tag × Content) :=
  match Json.fields memberRule ⟨none, []⟩ s with
  | .error e => .error e
  | .ok (⟨none, _⟩, r) => failAt (.missingField "type") r
  | .ok (⟨some tag, members⟩, r) => .ok ((tag, .named members.reverse), r)

/-- The type and the members of a notice. -/
def readContent (s : List UInt8) : Outcome (Tag × Content) :=
  match skipBlanks s with
  | [] => failOn .eofInValue []
  | c :: t =>
    if c = ascii '[' then readListed t
    else if c = ascii '{' then readNamed t
    else
      match Json.valueFrom none c t with
      | .error e => .error e
      | .ok (v, r) =>
        failAt (.wrongType v.described "internally tagged enum ServerMessage") r

/-! ## Notices -/

def itemCount (n : Nat) : String :=
  toString n ++ (if n = 1 then " element" else " elements") ++ " in sequence"

/-- The members of a notice by name, each of the right kind. -/
def Content.members (r : Record) : Content → Except Fault (List (String × Json))
  | .named members => (Record.checkWritten r.fields [] members).map fun _ => members
  | .listed items => r.ofItems (itemCount r.fields.length) items

/-- The notice of a type and its members. -/
def ofContent (tag : Tag) (content : Content) : Except Fault Notice := do
  let members ← content.members tag.record
  match tag with
  | .welcome =>
    let connection ← Record.field members "connection_id" .string
    let version ← Record.field members "server_version" .string
    return .welcome connection version
  | .error =>
    let id ← Record.optionalField members "id" .string
    let code ← Record.field members "code" .string
    let message ← Record.field members "message" .string
    return .error id code message
  | .desktopStatus =>
    let online ← Record.field members "online" .boolean
    let device ← Record.optionalField members "device_id" Principal.uuid
    let name ← Record.optionalField members "device_name" .string
    return .desktopStatus online device name

def read (text : String) : Except Json.Error Notice :=
  let bytes := Bytes.ofString text
  match readContent bytes with
  | .error e => .error (e.toError bytes)
  | .ok ((tag, content), r) =>
    match ofContent tag content with
    | .error fault => .error ⟨fault, none⟩
    | .ok notice =>
      match Json.ending r with
      | .error e => .error (e.toError bytes)
      | .ok _ => .ok notice

end Switchboard.Notice
