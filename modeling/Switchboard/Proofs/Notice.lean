import Switchboard.Notice.Reader
import Switchboard.Proofs.Json.Written
import Switchboard.Proofs.Uuid

/-! # Notices are messages

What the relay writes itself reads as a message of the kind that the notice is, with the id
of the frame that an error is about.  So a notice is never taken for a command or for
anything that a desktop says.  A client that reads it as a notice gets back what was written.

* `Notice.id?`, `Notice.tag` — the id that a notice carries, and its type;
* `Notice.parse_render` — the text of a notice is that of a JSON object;
* `Notice.read_render` — the message that the text of a notice is;
* `Notice.readContent_render`, `Notice.ofContent_members` — type and members, as they are
  met in the text, and the notice that they make;
* `Notice.reads_back` — both ways of reading a notice.
-/

namespace Switchboard

theorem Message.raw_of_read {text : String} {m : Message} (h : Message.read text = .ok m) :
    m.raw = text := by
  unfold read at h
  split at h
  · cases h
  split at h
  · cases h
  unfold classify at h
  split at h
  · cases h
  split at h
  · cases h
  dsimp only at h
  split at h
  · cases h
  · cases h
    rfl

namespace Notice

open Bytes (ascii ofChars)
open Json (Decoder Record Reads Takes TakesAll quote)

/-! ## Read as a message -/

/-- The id of the frame that a notice is about. -/
def id? : Notice → Option String
  | .error id _ _ => id
  | _ => none

theorem reads_optionalMember (depth : Nat) (name : String) (s : Option String) :
    ∀ e ∈ optionalMember name s, Reads (Json.value depth) e.2 := by
  cases s with
  | none => simp [optionalMember]
  | some s => simpa [optionalMember] using Json.reads_string depth s

theorem reads_members (depth : Nat) (n : Notice) :
    ∀ e ∈ n.members, Reads (Json.value depth) e.2 := by
  have hstring := Json.reads_string depth
  cases n with
  | welcome connection version => simp [members, hstring]
  | error id code message =>
    intro e he
    obtain hid | he := List.mem_append.1 he
    · exact reads_optionalMember depth _ id e hid
    · simp only [List.mem_cons, List.not_mem_nil, or_false] at he
      obtain rfl | rfl := he <;> exact hstring _
  | desktopStatus online device name =>
    intro e he
    obtain rfl | he := List.mem_cons.1 he
    · exact Json.reads_bool depth online
    · obtain he | he := List.mem_append.1 he <;> exact reads_optionalMember depth _ _ e he

theorem parse_render (n : Notice) : Json.parse n.render = .ok n.toJson := by
  refine Json.parse_render (Json.reads_object fun e he => ?_)
  obtain rfl | he := List.mem_cons.1 he
  · exact Json.reads_string _ _
  · exact reads_members _ n e he

theorem stringMember_type (n : Notice) :
    Message.stringMember "type" n.toJson = some n.kind.tag := by
  cases n with
  | welcome connection version => rfl
  | error id code message => cases id <;> rfl
  | desktopStatus online device name => cases device <;> cases name <;> rfl

theorem stringMember_id (n : Notice) : Message.stringMember "id" n.toJson = n.id? := by
  cases n with
  | welcome connection version => rfl
  | error id code message => cases id <;> rfl
  | desktopStatus online device name => cases device <;> cases name <;> rfl

theorem family_kind (n : Notice) : n.kind.family = .control := by
  cases n <;> rfl

theorem read_render (n : Notice) : Message.read n.render = .ok ⟨n.kind, n.id?, n.render⟩ := by
  have hkind : Message.kindOf n.kind.tag = .ok n.kind := by
    rw [Message.kindOf, Message.Kind.ofTag?_tag]
  have hid : ¬ (n.kind.family.needsId = true ∧ n.id? = none) := by
    rw [family_kind]
    simp [Message.Family.needsId]
  unfold Message.read
  rw [parse_render]
  simp only [toJson, Json.asObject?]
  change Message.classify n.render n.toJson = _
  rw [Message.classify, stringMember_type]
  simp only [hkind, stringMember_id, hid, if_false]

/-! ## Read as a notice -/

/-- The type of a notice. -/
def tag : Notice → Tag
  | .welcome .. => .welcome
  | .error .. => .error
  | .desktopStatus .. => .desktopStatus

theorem lookup_tag (n : Notice) : Tag.names.lookup n.kind.tag = some n.tag := by
  cases n <;> rfl

theorem tag_read_quote {name : String} {tag : Tag} (hname : Tag.names.lookup name = some tag)
    (rest : List UInt8) :
    Tag.read (ofChars (quote name) ++ rest) = .ok (tag, rest) := by
  rw [quote, Json.ofChars_ascii (by decide), List.cons_append, Tag.read,
    Json.skipBlanks_of_not_blank (by decide)]
  simp only [if_true, Json.stringBody_quote, hname]

theorem takes_type {name : String} {tag : Tag} (hname : Tag.names.lookup name = some tag)
    (done : List (String × Json)) :
    Takes memberRule ⟨none, done⟩ "type" (.string name) ⟨some tag, done⟩ := by
  intro rest _
  simp [memberRule, Json.colon_text, Json.text, tag_read_quote hname]

theorem name_ne_type (n : Notice) : ∀ e ∈ n.members, e.1 ≠ "type" := by
  cases n with
  | welcome connection version => simp [members]
  | error id code message => cases id <;> simp [members, optionalMember]
  | desktopStatus online device name =>
    cases device <;> cases name <;> simp [members, optionalMember]

theorem takes_other {name : String} {v : Json} (hname : name ≠ "type") (hv : Reads inner v)
    (tag : Option Tag) (done : List (String × Json)) :
    Takes memberRule ⟨tag, done⟩ name v ⟨tag, (name, v) :: done⟩ := by
  intro rest hrest
  simp only [memberRule, hname, if_false, Json.takes_keep hv done name rest hrest]

theorem takesAll_others {members : List (String × Json)}
    (hmembers : ∀ e ∈ members, e.1 ≠ "type" ∧ Reads inner e.2) (tag : Option Tag)
    (done : List (String × Json)) :
    TakesAll memberRule ⟨tag, done⟩ members ⟨tag, members.reverse ++ done⟩ := by
  induction members generalizing done with
  | nil => exact .nil
  | cons e members ih =>
    obtain ⟨name, v⟩ := e
    obtain ⟨⟨hname, hv⟩, hrest⟩ := List.forall_mem_cons.1 hmembers
    rw [List.reverse_cons, List.append_assoc]
    exact .cons (takes_other hname hv tag done) (ih hrest _)

/-- The type is met first, and the other members are kept. -/
theorem readContent_render (n : Notice) :
    readContent (Bytes.ofString n.render) = .ok ((n.tag, .named n.members), []) := by
  have hothers : ∀ e ∈ n.members, e.1 ≠ "type" ∧ Reads inner e.2 :=
    fun e he => ⟨name_ne_type n e he, reads_members _ n e he⟩
  have hmembers := TakesAll.cons (takes_type (lookup_tag n) [])
    (takesAll_others hothers (some n.tag) [])
  have hfields := Json.fields_text hmembers []
  rw [List.append_nil] at hfields
  rw [render, Json.render, Bytes.ofString_ofList, toJson, Json.text,
    Json.ofChars_ascii (by decide), readContent, Json.skipBlanks_of_not_blank (by decide)]
  have hbrace : ascii '{' ≠ ascii '[' := by decide
  simp only [hbrace, if_false, if_true, readNamed, hfields, List.append_nil, List.reverse_reverse]

theorem uuid_render (u : Uuid) : Principal.uuid (.string u.render) = .ok u := by
  simp only [Principal.uuid, Uuid.parse_render]

/-- The members of a notice pass the checks of its type, and the notice is made of them again. -/
theorem ofContent_members (n : Notice) : ofContent n.tag (.named n.members) = .ok n := by
  cases n with
  | welcome connection version => rfl
  | error id code message => cases id <;> rfl
  | desktopStatus online device name =>
    generalize hms : members (.desktopStatus online device name) = ms
    have hchecked : Content.members (Tag.record .desktopStatus) (.named ms) = .ok ms := by
      subst hms
      cases device <;> cases name <;>
        simp [Content.members, Tag.record, members, optionalMember, Json.refusal,
          Record.checkWritten, Decoder.boolean, Decoder.optional, Decoder.string, uuid_render,
          Except.map]
    have honline : Record.field ms "online" .boolean = .ok online := by
      subst hms
      cases device <;> cases name <;> rfl
    have hdevice : Record.optionalField ms "device_id" Principal.uuid = .ok device := by
      subst hms
      cases device with
      | none => cases name <;> rfl
      | some u => cases name <;> exact congrArg (Except.map some) (uuid_render u)
    have hname : Record.optionalField ms "device_name" .string = .ok name := by
      subst hms
      cases device <;> cases name <;> rfl
    have hbind : ∀ {α β : Type} (a : α) (f : α → Except Json.Fault β), (.ok a) >>= f = f a :=
      fun _ _ => rfl
    simp only [ofContent, tag, hchecked, honline, hdevice, hname, hbind]
    rfl

/-- Two notices never have the same text. -/
theorem render_injective {n n' : Notice} (h : n.render = n'.render) : n = n' := by
  have hcontent := readContent_render n
  rw [h, readContent_render n'] at hcontent
  -- the text has one type and one list of members, and they make one notice
  obtain ⟨htag, hmembers⟩ : n'.tag = n.tag ∧ n'.members = n.members := by simpa using hcontent
  have hmade := ofContent_members n'
  rw [htag, hmembers, ofContent_members n] at hmade
  exact Except.ok.inj hmade

/-- The text of a notice, read as a notice, is what was written; and read as a message it is
one of the relay's own, with the name that readers of notices know its type by. -/
theorem reads_back (n : Notice) :
    read n.render = .ok n ∧
      ∃ m, Message.read n.render = .ok m ∧ m.kind.family = .control ∧
        Tag.names.lookup m.kind.tag = some n.tag ∧ m.id = n.id? ∧ m.raw = n.render := by
  refine ⟨?_, _, read_render n, family_kind n, lookup_tag n, rfl, rfl⟩
  have hending : Json.ending [] = .ok ((), []) := rfl
  simp only [read, readContent_render, ofContent_members, hending]

end Notice

end Switchboard
