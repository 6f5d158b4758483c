import Switchboard.Message.Basic
import Switchboard.Proofs.Json.Values

/-! # Type and id settle what a message is

Whatever else an object carries, and in whatever order, its text is classified by the strings
that it has under the names `type` and `id`.

* `Sendable` — objects whose compact text can be read;
* `Carries` — the string that an object has under a name, if it has one;
* `Verdict` — the four ways in which an object is classified;
* `stringMember_eq_iff`, `classify_eq_iff` — what the classifier finds;
* `classified_by_type_and_id` — the text of an object.
-/

namespace Switchboard.Message

open Json (Held Resembles maxDepth lookup)

variable {members members' : List (String × Json)} {name raw : String}
  {r : Except Fault Message}

/-! ## What is to be expected -/

/-- An object with distinct names whose numbers can be held and in which, itself included, no
more arrays and objects are open than the reader allows. -/
structure Sendable (members : List (String × Json)) : Prop where
  names : (members.map Prod.fst).Nodup
  held : (Json.object members).Held
  depth : (Json.object members).depth ≤ maxDepth

/-- The members have this string under the name, or they have none. -/
def Carries (members : List (String × Json)) (name : String) : Option String → Prop
  | some s => (name, .string s) ∈ members
  | none => ∀ s, (name, .string s) ∉ members

/-- Commands and responses have to be told apart from others of their kind. -/
def Kind.Correlated (kind : Kind) : Prop := kind.family = .command ∨ kind.family = .response

/-- What an object is as a message, or why it is none. -/
inductive Verdict (members : List (String × Json)) (raw : String) : Except Fault Message → Prop
  | missingType : Carries members "type" none → Verdict members raw (.error .missingType)
  | unknownType (tag : String) : Carries members "type" (some tag) →
      (∀ kind : Kind, kind.tag ≠ tag) → Verdict members raw (.error (.unknownType tag))
  | missingId (kind : Kind) : Carries members "type" (some kind.tag) → kind.Correlated →
      Carries members "id" none → Verdict members raw (.error (.missingId kind))
  | message (kind : Kind) (id : Option String) : Carries members "type" (some kind.tag) →
      Carries members "id" id → (kind.Correlated → id ≠ none) →
      Verdict members raw (.ok ⟨kind, id, raw⟩)

/-! ## What the classifier finds -/

theorem lookup_eq_some_iff (hnames : (members.map Prod.fst).Nodup) {v : Json} :
    lookup name members = some v ↔ (name, v) ∈ members := by
  refine ⟨Json.mem_of_lookup, fun hv => ?_⟩
  induction members with
  | nil => cases hv
  | cons e members ih =>
    obtain ⟨key, first⟩ := e
    rw [List.map_cons, List.nodup_cons] at hnames
    rw [lookup]
    obtain heq | hv := List.mem_cons.1 hv
    · -- the name does not come again
      cases heq
      cases hlater : lookup name members with
      | none => simp
      | some later =>
        have hagain : name ∈ members.map Prod.fst :=
          List.mem_map.2 ⟨_, Json.mem_of_lookup hlater, rfl⟩
        exact absurd hagain hnames.1
    · rw [ih hnames.2 hv]

theorem stringMember_eq_iff (hnames : (members.map Prod.fst).Nodup) {s : Option String} :
    stringMember name (.object members) = s ↔ Carries members name s := by
  have hsome (s : String) :
      stringMember name (.object members) = some s ↔ (name, .string s) ∈ members := by
    rw [← lookup_eq_some_iff hnames, stringMember, Json.get?, Option.bind_eq_some_iff]
    constructor
    · rintro ⟨v, hv, hs⟩
      cases v <;> cases hs
      exact hv
    · exact fun hv => ⟨_, hv, rfl⟩
  cases s with
  | some s => exact hsome s
  | none =>
    rw [Option.eq_none_iff_forall_ne_some, Carries]
    exact forall_congr' fun s => not_congr (hsome s)

theorem needsId_iff (kind : Kind) : kind.family.needsId = true ↔ kind.Correlated := by
  unfold Kind.Correlated
  cases kind.family <;> simp [Family.needsId]

theorem kindOf_tag (kind : Kind) : kindOf kind.tag = .ok kind := by
  rw [kindOf, Kind.ofTag?_tag]

theorem kindOf_unknown {tag : String} (htag : ∀ kind : Kind, kind.tag ≠ tag) :
    kindOf tag = .error (.unknownType tag) := by
  rw [kindOf]
  cases hkind : Kind.ofTag? tag with
  | none => rfl
  | some kind => exact absurd (Kind.tag_of_ofTag? hkind) (htag kind)

/-- What the classifier says of a value with the strings of an object. -/
theorem classify_eq_iff {v : Json}
    (htype : ∀ s, stringMember "type" v = s ↔ Carries members "type" s)
    (hid : ∀ s, stringMember "id" v = s ↔ Carries members "id" s) :
    classify raw v = r ↔ Verdict members raw r := by
  have hverdict : ∀ r, Verdict members raw r → classify raw v = r := by
    intro r hr
    cases hr with
    | missingType hnone => rw [classify, (htype none).2 hnone]
    | unknownType tag hsome htag =>
      rw [classify, (htype _).2 hsome]
      simp only [kindOf_unknown htag]
    | missingId kind hsome hkind hnone =>
      rw [classify, (htype _).2 hsome]
      simp only [kindOf_tag, (hid none).2 hnone, (needsId_iff kind).2 hkind, and_self, if_true]
    | message kind id hsome hid' hneeded =>
      have hfine : ¬ (kind.family.needsId = true ∧ id = none) := fun hmissing =>
        hneeded ((needsId_iff kind).1 hmissing.1) hmissing.2
      rw [classify, (htype _).2 hsome]
      simp only [kindOf_tag, (hid id).2 hid', hfine, if_false]
  refine ⟨?_, hverdict r⟩
  -- there is a verdict in any case, and it is what the classifier says
  rintro rfl
  suffices hsome : ∃ r, Verdict members raw r by
    obtain ⟨r, hr⟩ := hsome
    rwa [hverdict r hr]
  have hid' := (hid _).1 rfl
  cases htag : stringMember "type" v with
  | none => exact ⟨_, .missingType ((htype none).1 htag)⟩
  | some tag =>
    have hsome := (htype _).1 htag
    by_cases hknown : ∃ kind : Kind, kind.tag = tag
    · obtain ⟨kind, rfl⟩ := hknown
      by_cases hmissing : kind.Correlated ∧ stringMember "id" v = none
      · rw [hmissing.2] at hid'
        exact ⟨_, .missingId kind hsome hmissing.1 hid'⟩
      · exact ⟨_, .message kind _ hsome hid' fun hkind hnone => hmissing ⟨hkind, hnone⟩⟩
    · exact ⟨_, .unknownType tag hsome fun kind heq => hknown ⟨kind, heq⟩⟩

/-! ## The text of an object -/

theorem Sendable.read_eq_iff (hs : Sendable members) :
    read (Json.object members).render = r ↔
      Verdict members (Json.object members).render r := by
  obtain ⟨w, hparse, halike⟩ := hs.held.parse_render hs.depth
  have hobject : w.asObject?.isSome = true := halike.object
  obtain ⟨ms, hms⟩ := Option.isSome_iff_exists.1 hobject
  have hstring (name : String) (s : Option String) :
      stringMember name w = s ↔ Carries members name s := by
    rw [← stringMember_eq_iff hs.names]
    exact iff_of_eq (congrArg (· = s) (halike.members name))
  rw [read, hparse]
  simp only [hms]
  exact classify_eq_iff (hstring "type") (hstring "id")

/-- The verdict on one object is that on another one with the same strings under two names. -/
theorem Verdict.transfer {raw' : String} (hr : Verdict members raw r)
    (hsame : ∀ name ∈ ["type", "id"], ∀ s, Carries members' name s ↔ Carries members name s) :
    Verdict members' raw' (r.map fun m => { m with raw := raw' }) := by
  have htype := hsame "type" (by simp)
  have hid := hsame "id" (by simp)
  cases hr with
  | missingType hnone => exact .missingType ((htype none).2 hnone)
  | unknownType tag hsome htag => exact .unknownType tag ((htype _).2 hsome) htag
  | missingId kind hsome hkind hnone =>
    exact .missingId kind ((htype _).2 hsome) hkind ((hid none).2 hnone)
  | message kind id hsome hid' hneeded =>
    exact .message kind id ((htype _).2 hsome) ((hid id).2 hid') hneeded

/-- Of an object with distinct names, in whatever order, the compact text is classified by the
strings under `type` and `id` alone: it has no type, or one that the catalogue does not list, or
it has to have an id and has none, or else it is the message of that kind, with that id and with
the text as it stands.  Another object with the same strings under these names is the same
message but for its text, or is refused for the same reason. -/
theorem classified_by_type_and_id (hs : Sendable members) :
    (∀ r, read (Json.object members).render = r ↔
        Verdict members (Json.object members).render r) ∧
      ∀ members', Sendable members' →
        (∀ name ∈ ["type", "id"], ∀ s, Carries members' name s ↔ Carries members name s) →
        read (Json.object members').render
          = (read (Json.object members).render).map
            fun m => { m with raw := (Json.object members').render } := by
  refine ⟨fun r => hs.read_eq_iff, fun members' hs' hsame => ?_⟩
  exact hs'.read_eq_iff.2 ((hs.read_eq_iff.1 rfl).transfer hsame)

/-- A payload with a type and an id of its own, and with a number that has a fraction, does not
matter, nor does the order. -/
theorem classified_by_type_and_id_nested :
    let payload : Json := .object [("type", .string "error"), ("id", .number (.whole 1)),
      ("share", .array [.number (.decimal ⟨true, 15, -1⟩), .null])]
    let members := [("payload", payload), ("id", .string "7"), ("type", .string "run_job")]
    let bare := [("type", Json.string "run_job"), ("id", Json.string "7")]
    Sendable members ∧ Sendable bare ∧
      read (Json.object members).render
        = .ok ⟨.runJob, some "7", (Json.object members).render⟩ ∧
      read (Json.object bare).render = .ok ⟨.runJob, some "7", (Json.object bare).render⟩ := by
  intro payload members bare
  have hfraction : (Json.Number.decimal ⟨true, 15, -1⟩).Held :=
    ⟨⟨6755399441055744, -52⟩, ⟨by decide, by decide, by decide, by decide⟩, by decide +kernel⟩
  have hpayload : payload.Held := by
    refine .object ?_
    simp only [List.forall_mem_cons]
    exact ⟨.string _, .number ⟨by decide, by decide⟩,
      .array (by simp [hfraction, Held.number, Held.null]), by simp⟩
  have hs : Sendable members := by
    refine ⟨by decide, .object ?_, by decide⟩
    simp only [members, List.forall_mem_cons]
    exact ⟨hpayload, .string _, .string _, by simp⟩
  have hbare : Sendable bare := by
    refine ⟨by decide, .object ?_, by decide⟩
    simp only [bare, List.forall_mem_cons]
    exact ⟨.string _, .string _, by simp⟩
  obtain ⟨hread, hothers⟩ := classified_by_type_and_id hs
  have hmessage : Verdict members (Json.object members).render
      (.ok ⟨.runJob, some "7", (Json.object members).render⟩) :=
    .message .runJob (some "7") (by simp [Carries, members, Kind.tag]) (by simp [Carries, members])
      (by simp)
  have hfirst := (hread _).2 hmessage
  refine ⟨hs, hbare, hfirst, ?_⟩
  have hsame : ∀ name ∈ ["type", "id"], ∀ s, Carries bare name s ↔ Carries members name s := by
    intro name hname s
    simp only [List.mem_cons, List.not_mem_nil, or_false] at hname
    obtain rfl | rfl := hname <;> cases s <;> simp [Carries, bare, members]
  rw [hothers bare hbare hsame, hfirst]
  rfl

end Switchboard.Message
