import Mathlib.Tactic.Choose
import Switchboard.Proofs.Json.Decimals

/-! # Every value that can be held can be read

Whatever is inside a value, its text is read to the end, provided that the numbers in it can be
held and that no more arrays and objects are open inside each other than the reader allows.
Strings and names come back as they were; so a member that is a string is one of the same text
in what was read, and a member that is none is none there.

* `listTail_text`, `gives_array` — the items of an array;
* `Held` — the values whose numbers can be held;
* `Opens`, `Held.opens` — how the text of a value begins;
* `Resembles` — what a classifier looks at;
* `Held.gives`, `Held.parse_render` — what the reader makes of a value, and of its text alone.
-/

namespace Switchboard.Json

open Switchboard.Bytes (ascii ofChars)

variable {depth : Nat} {reader : Reader Json} {f : Json → Json} {v w : Json} {items : List Json}
  {members : List (String × Json)}

/-! ## Arrays -/

/-- The text of a value begins with something that is no blank and closes no array. -/
def Opens (v : Json) : Prop :=
  ∃ b s, ofChars v.text = b :: s ∧ isBlank b = false ∧ b ≠ ascii ']'

theorem delimited_bracket (rest : List UInt8) : Delimited (ascii ']' :: rest) := by
  simp [Delimited]

theorem delimited_textItems (items : List Json) (rest : List UInt8) :
    Delimited (ofChars (textItems items) ++ rest) := by
  cases items with
  | nil =>
    rw [textItems, ofChars_ascii (by decide)]
    exact delimited_bracket _
  | cons v items =>
    rw [textItems, ofChars_ascii (by decide)]
    exact delimited_comma _

theorem listTail_bracket (reader : Reader Json) (done : List Json) (rest : List UInt8) :
    listTail reader done (ascii ']' :: rest) = .ok (done.reverse, rest) := by
  have hblank : skipBlanks (ascii ']' :: rest) = ascii ']' :: rest := rfl
  unfold listTail
  split
  · next heq =>
    rw [hblank] at heq
    cases heq
  · next c t heq =>
    rw [hblank] at heq
    cases heq
    rfl

theorem listTail_comma {b : UInt8} {s r : List UInt8} (hblank : isBlank b = false)
    (hb : b ≠ ascii ']') (hv : reader.run (b :: s) = .ok (w, r)) (done : List Json) :
    listTail reader done (ascii ',' :: b :: s) = listTail reader (w :: done) r := by
  have hcomma : skipBlanks (ascii ',' :: b :: s) = ascii ',' :: b :: s := rfl
  have hitem := skipBlanks_of_not_blank hblank s
  rw [listTail]
  split
  · next heq =>
    rw [hcomma] at heq
    cases heq
  · next c t heq =>
    rw [hcomma] at heq
    cases heq
    rw [if_neg (by decide), if_pos rfl]
    split
    · next heq' =>
      rw [hitem] at heq'
      cases heq'
    · next d u heq' =>
      rw [hitem] at heq'
      cases heq'
      rw [if_neg hb]
      split
      · next e he =>
        rw [hv] at he
        cases he
      · next a r' he =>
        rw [hv] at he
        cases he
        rfl

theorem listTail_text (hopens : ∀ v ∈ items, Opens v)
    (hv : ∀ v ∈ items, Gives reader v (f v)) (done : List Json) (rest : List UInt8) :
    listTail reader done (ofChars (textItems items) ++ rest)
      = .ok (done.reverse ++ items.map f, rest) := by
  induction items generalizing done with
  | nil =>
    rw [textItems, ofChars_ascii (by decide), List.map_nil, List.append_nil]
    exact listTail_bracket reader done rest
  | cons v items ih =>
    obtain ⟨⟨b, s, htext, hblank, hb⟩, hopens⟩ := List.forall_mem_cons.1 hopens
    obtain ⟨hv, hitems⟩ := List.forall_mem_cons.1 hv
    have hread := hv _ (delimited_textItems items rest)
    rw [htext, List.cons_append] at hread
    rw [textItems, ofChars_ascii (by decide), ofChars_append, List.cons_append, List.append_assoc,
      htext, List.cons_append, listTail_comma hblank hb hread, ih hopens hitems]
    simp

theorem valueFrom_bracket (reader : Reader Json) (rest : List UInt8) :
    valueFrom (some reader) (ascii '[') rest =
      match list reader rest with
      | .error e => .error e
      | .ok (items, r) => .ok (.array items, r) :=
  rfl

/-- An array is read as what is inside is read, with one level less. -/
theorem gives_array (hopens : ∀ v ∈ items, Opens v)
    (hv : ∀ v ∈ items, Gives (value depth) v (f v)) :
    Gives (value (depth + 1)) (.array items) (.array (items.map f)) := by
  intro rest _
  have hrun : (value (depth + 1)).run = valueOf (some (value depth)) := rfl
  have hbracket : ∀ s, skipBlanks (ascii '[' :: s) = ascii '[' :: s := fun _ => rfl
  cases items with
  | nil =>
    rw [hrun]
    rfl
  | cons v items =>
    obtain ⟨⟨b, s, htext, hblank, hb⟩, hopens⟩ := List.forall_mem_cons.1 hopens
    obtain ⟨hv, hitems⟩ := List.forall_mem_cons.1 hv
    have hread := hv _ (delimited_textItems items rest)
    have hlist : list (value depth) (ofChars (v.text ++ textItems items) ++ rest)
        = .ok ((v :: items).map f, rest) := by
      rw [htext, List.cons_append] at hread
      rw [ofChars_append, List.append_assoc, htext, List.cons_append, list, listItems,
        skipBlanks_of_not_blank hblank]
      simp only [hb, if_false, hread, listTail_text hopens hitems]
      rfl
    rw [hrun, text, ofChars_ascii (by decide), List.cons_append, valueOf, hbracket]
    simp only [valueFrom_bracket, hlist]

/-! ## Values that can be held -/

/-- The values of which every number can be held. -/
inductive Held : Json → Prop
  | null : Held .null
  | bool (b : Bool) : Held (.bool b)
  | number {n : Number} : n.Held → Held (.number n)
  | string (s : String) : Held (.string s)
  | array {items : List Json} : (∀ v ∈ items, Held v) → Held (.array items)
  | object {members : List (String × Json)} : (∀ e ∈ members, Held e.2) → Held (.object members)

theorem Held.opens (hv : v.Held) : Opens v := by
  have hascii (c : Char) (s : List Char) (hc : c.toNat < 128) (htext : v.text = c :: s)
      (hblank : isBlank (ascii c) = false) (hclosing : ascii c ≠ ascii ']') : Opens v :=
    ⟨ascii c, ofChars s, by rw [htext, ofChars_ascii hc], hblank, hclosing⟩
  cases hv with
  | null => exact hascii 'n' _ (by decide) rfl rfl (by decide)
  | bool b => cases b <;> exact hascii _ _ (by decide) rfl rfl (by decide)
  | @number n hn =>
    obtain ⟨s, hs, htext | htext⟩ := hn.numeric
    · obtain ⟨b, t, hbs, hb⟩ := hs.first
      exact ⟨b, t, by rw [text, htext, hbs], isBlank_digit hb, ne_of_isDigit hb rfl⟩
    · exact hascii '-' s (by decide) htext rfl (by decide)
  | string s => exact hascii '"' _ (by decide) rfl rfl (by decide)
  | @array items _ => cases items <;> exact hascii '[' _ (by decide) rfl rfl (by decide)
  | @object members _ => cases members <;> exact hascii '{' _ (by decide) rfl rfl (by decide)

theorem reads_null (depth : Nat) : Reads (value depth) .null := by
  intro rest _
  obtain ⟨inner, hrun⟩ := run_value depth
  rw [hrun]
  rfl

theorem depth_le_depthItems (hv : v ∈ items) : v.depth ≤ depthItems items := by
  induction items with
  | nil => cases hv
  | cons item items ih =>
    rw [depthItems]
    obtain rfl | hv := List.mem_cons.1 hv
    · exact Nat.le_max_left _ _
    · exact (ih hv).trans (Nat.le_max_right _ _)

theorem depth_le_depthMembers {e : String × Json} (he : e ∈ members) :
    e.2.depth ≤ depthMembers members := by
  induction members with
  | nil => cases he
  | cons member members ih =>
    obtain ⟨name, v⟩ := member
    rw [depthMembers]
    obtain rfl | he := List.mem_cons.1 he
    · exact Nat.le_max_left _ _
    · exact (ih he).trans (Nat.le_max_right _ _)

theorem mem_of_lookup {name : String} (h : lookup name members = some v) :
    (name, v) ∈ members := by
  induction members with
  | nil => cases h
  | cons e members ih =>
    obtain ⟨key, first⟩ := e
    rw [lookup] at h
    split at h
    · next later hlater =>
      cases h
      exact List.mem_cons_of_mem _ (ih hlater)
    · split at h
      · next hkey =>
        cases h
        exact hkey ▸ List.mem_cons_self
      · cases h

theorem lookup_map (f : Json → Json) (name : String) (members : List (String × Json)) :
    lookup name (members.map fun e => (e.1, f e.2)) = (lookup name members).map f := by
  induction members with
  | nil => rfl
  | cons e members ih =>
    obtain ⟨key, v⟩ := e
    rw [List.map_cons, lookup, lookup, ih]
    cases lookup name members with
    | some later => rfl
    | none =>
      dsimp only [Option.map_none]
      split <;> rfl

/-- What is read of a value is alike in what a classifier looks at: whether it is a string and
which, whether it is an object, and which of its members are strings.  It need not be the same
value, as zeros that a decimal is written with are read as digits of it. -/
structure Resembles (v w : Json) : Prop where
  string : w.asString? = v.asString?
  object : w.asObject?.isSome = v.asObject?.isSome
  members : ∀ name, (w.get? name).bind asString? = (v.get? name).bind asString?

theorem Resembles.refl (v : Json) : Resembles v v := ⟨rfl, rfl, fun _ => rfl⟩

theorem resembles_object (hf : ∀ e ∈ members, Resembles e.2 (f e.2)) :
    Resembles (.object members) (.object (members.map fun e => (e.1, f e.2))) := by
  refine ⟨rfl, rfl, fun name => ?_⟩
  rw [get?, get?, lookup_map]
  cases hlookup : lookup name members with
  | none => rfl
  | some v => exact (hf _ (mem_of_lookup hlookup)).string

/-- Whatever is inside a value, the reader takes its text in. -/
theorem Held.gives (hv : v.Held) (hdepth : v.depth ≤ depth) :
    ∃ w, Gives (value depth) v w ∧ Resembles v w := by
  induction hv generalizing depth with
  | null => exact ⟨.null, reads_null depth, .refl _⟩
  | bool b => exact ⟨.bool b, reads_bool depth b, .refl _⟩
  | number hn =>
    obtain ⟨m, hm⟩ := reads_number depth hn
    exact ⟨.number m, hm, rfl, rfl, fun _ => rfl⟩
  | string s => exact ⟨.string s, reads_string depth s, .refl _⟩
  | @array items hitems ih =>
    rw [Json.depth] at hdepth
    obtain ⟨depth, rfl⟩ := Nat.exists_eq_succ_of_ne_zero (by omega : depth ≠ 0)
    have hread : ∀ v ∈ items, ∃ w, Gives (value depth) v w ∧ Resembles v w := fun v hmem =>
      ih v hmem ((depth_le_depthItems hmem).trans (Nat.le_of_succ_le_succ hdepth))
    choose! f hf using hread
    exact ⟨_, gives_array (fun v hmem => (hitems v hmem).opens) fun v hmem => (hf v hmem).1,
      rfl, rfl, fun _ => rfl⟩
  | @object members _ ih =>
    rw [Json.depth] at hdepth
    obtain ⟨depth, rfl⟩ := Nat.exists_eq_succ_of_ne_zero (by omega : depth ≠ 0)
    have hread : ∀ v ∈ members.map Prod.snd, ∃ w, Gives (value depth) v w ∧ Resembles v w :=
      List.forall_mem_map.2 fun e he =>
        ih e he ((depth_le_depthMembers he).trans (Nat.le_of_succ_le_succ hdepth))
    choose! f hf using hread
    rw [List.forall_mem_map] at hf
    exact ⟨_, gives_object fun e he => (hf e he).1, resembles_object fun e he => (hf e he).2⟩

/-- The text of a value whose numbers can be held is read if it is not nested too deep. -/
theorem Held.parse_render (hv : v.Held) (hdepth : v.depth ≤ maxDepth) :
    ∃ w, parse v.render = .ok w ∧ Resembles v w := by
  obtain ⟨w, hw, halike⟩ := hv.gives hdepth
  exact ⟨w, parse_of_gives hw, halike⟩

end Switchboard.Json
