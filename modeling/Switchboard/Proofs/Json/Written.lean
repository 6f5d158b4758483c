import Switchboard.Json.Reader
import Switchboard.Json.Shape
import Switchboard.Proofs.Json.Strings

/-! # Values are read back as they were written

A value is followed by a comma, a closing bracket or brace, or nothing at all, and its text
has no blanks.  `Reads` says of a reader and a value that the reader gives the value back
wherever it may stand.  What is done with the members of an object is up to a rule, and
`Takes` says the same of a rule and a member; what the rule makes of all members, one after
the other, the object comes to.

* `Delimited`, `Reads` — what may follow a value, and being read back;
* `Gives` — being read as something else;
* `reads_string`, `reads_bool` — scalars;
* `Takes`, `TakesAll`, `fields_text` — the members of an object under any rule;
* `gives_object`, `reads_object` — an object, read as what is inside is;
* `parse_render` — a whole text;
* `checkWritten_ok` — the members of a record, once they are read.
-/

namespace Switchboard.Json

open Switchboard.Bytes (ascii ofChars)

/-- What may follow a value: nothing, a comma, or what closes an array or an object. -/
def Delimited (rest : List UInt8) : Prop :=
  ∀ b ∈ rest.head?, b = ascii ',' ∨ b = ascii ']' ∨ b = ascii '}'

/-- A reader gives a value back that is written in front of what may follow it. -/
def Reads (reader : Reader Json) (v : Json) : Prop :=
  ∀ rest, Delimited rest → reader.run (ofChars v.text ++ rest) = .ok (v, rest)

/-- A reader gives `w` for `v` that is written in front of what may follow it. -/
def Gives (reader : Reader Json) (v w : Json) : Prop :=
  ∀ rest, Delimited rest → reader.run (ofChars v.text ++ rest) = .ok (w, rest)

theorem delimited_nil : Delimited [] := by simp [Delimited]

theorem delimited_comma (rest : List UInt8) : Delimited (ascii ',' :: rest) := by
  simp [Delimited]

theorem delimited_brace (rest : List UInt8) : Delimited (ascii '}' :: rest) := by
  simp [Delimited]

theorem skipBlanks_of_not_blank {b : UInt8} (hb : isBlank b = false) (rest : List UInt8) :
    skipBlanks (b :: rest) = b :: rest := by
  simp [skipBlanks, hb]

theorem ofChars_ascii {c : Char} (hc : c.toNat < 128) (s : List Char) :
    ofChars (c :: s) = ascii c :: ofChars s := by
  rw [ofChars_cons, encode_ascii hc, List.singleton_append]

/-! ## Scalars -/

variable {inner : Option (Reader Json)} {depth : Nat}

theorem run_value (depth : Nat) : ∃ inner, (value depth).run = valueOf inner := by
  cases depth with
  | zero => exact ⟨none, rfl⟩
  | succ depth => exact ⟨some (value depth), rfl⟩

theorem valueFrom_quote (inner : Option (Reader Json)) (rest : List UInt8) :
    valueFrom inner (ascii '"') rest =
      match stringBody [] rest with
      | .error e => .error e
      | .ok (a, r) => .ok (.string a, r) :=
  rfl

theorem reads_string (depth : Nat) (s : String) : Reads (value depth) (.string s) := by
  intro rest _
  obtain ⟨inner, hrun⟩ := run_value depth
  rw [hrun, text, quote, ofChars_ascii (by decide), List.cons_append, valueOf,
    skipBlanks_of_not_blank (by decide)]
  simp only [valueFrom_quote, stringBody_quote]

theorem reads_bool (depth : Nat) (b : Bool) : Reads (value depth) (.bool b) := by
  intro rest _
  obtain ⟨inner, hrun⟩ := run_value depth
  rw [hrun]
  cases b <;> rfl

/-! ## Objects -/

section Objects

variable {σ : Type} {rule : MemberRule σ} {st st' st'' : σ} {name : String} {v : Json}

/-- A rule makes `st'` of `st` when it is given a member that is written in front of what may
follow it. -/
def Takes (rule : MemberRule σ) (st : σ) (name : String) (v : Json) (st' : σ) : Prop :=
  ∀ rest, Delimited rest →
    rule.run st name (ascii ':' :: (ofChars v.text ++ rest)) = .ok (st', rest)

/-- A rule makes `st'` of `st` when it is given some members one after the other. -/
inductive TakesAll (rule : MemberRule σ) : σ → List (String × Json) → σ → Prop where
  | nil {st : σ} : TakesAll rule st [] st
  | cons {st st' st'' : σ} {name : String} {v : Json} {members : List (String × Json)} :
      Takes rule st name v st' → TakesAll rule st' members st'' →
        TakesAll rule st ((name, v) :: members) st''

theorem colon_text (rest : List UInt8) : colon (ascii ':' :: rest) = .ok ((), rest) := rfl

theorem takes_keep {reader : Reader Json} {w : Json} (hv : Gives reader v w)
    (done : List (String × Json)) (name : String) :
    Takes (keep reader) done name v ((name, w) :: done) := by
  intro rest hrest
  simp only [keep, colon_text, hv rest hrest]

theorem takesAll_map {reader : Reader Json} {f : Json → Json} {members : List (String × Json)}
    (hv : ∀ e ∈ members, Gives reader e.2 (f e.2)) (done : List (String × Json)) :
    TakesAll (keep reader) done members
      ((members.map fun e => (e.1, f e.2)).reverse ++ done) := by
  induction members generalizing done with
  | nil => exact .nil
  | cons e members ih =>
    obtain ⟨name, v⟩ := e
    obtain ⟨hv, hmembers⟩ := List.forall_mem_cons.1 hv
    have hrest := ih hmembers ((name, f v) :: done)
    rw [List.map_cons, List.reverse_cons, List.append_assoc]
    exact .cons (takes_keep hv done name) hrest

theorem takesAll_keep {reader : Reader Json} {members : List (String × Json)}
    (hv : ∀ e ∈ members, Reads reader e.2) (done : List (String × Json)) :
    TakesAll (keep reader) done members (members.reverse ++ done) := by
  have hall := takesAll_map (f := id) hv done
  rwa [show (fun e : String × Json => (e.1, id e.2)) = id from rfl, List.map_id] at hall

theorem ofChars_member (name : String) (v : Json) (more : List Char) (rest : List UInt8) :
    ofChars (quote name ++ ':' :: (v.text ++ more)) ++ rest
      = ascii '"' :: (ofChars (name.toList.flatMap escape ++ ['"']) ++
        (ascii ':' :: (ofChars v.text ++ (ofChars more ++ rest)))) := by
  rw [ofChars_append, quote, ofChars_ascii (by decide), ofChars_ascii (by decide),
    ofChars_append v.text]
  simp only [List.cons_append, List.append_assoc]

/-- A name, read after its opening quote, and its value. -/
theorem member_text (hm : Takes rule st name v st') {rest : List UInt8}
    (hrest : Delimited rest) :
    member rule st
        (ofChars (name.toList.flatMap escape ++ ['"']) ++
          (ascii ':' :: (ofChars v.text ++ rest)))
      = .ok (st', rest) := by
  simp only [member, stringBody_quote, hm rest hrest]

theorem delimited_textMembers (members : List (String × Json)) (rest : List UInt8) :
    Delimited (ofChars (textMembers members) ++ rest) := by
  cases members with
  | nil =>
    rw [textMembers, ofChars_ascii (by decide)]
    exact delimited_brace _
  | cons e members =>
    obtain ⟨name, v⟩ := e
    rw [textMembers, ofChars_ascii (by decide)]
    exact delimited_comma _

theorem fieldsTail_brace (rule : MemberRule σ) (st : σ) (rest : List UInt8) :
    fieldsTail rule st (ascii '}' :: rest) = .ok (st, rest) := by
  have hblank : skipBlanks (ascii '}' :: rest) = ascii '}' :: rest := rfl
  unfold fieldsTail
  split
  · next heq =>
    rw [hblank] at heq
    cases heq
  · next c t heq =>
    rw [hblank] at heq
    cases heq
    rfl

theorem fieldsItems_quote {s r : List UInt8} (hm : member rule st s = .ok (st', r)) :
    fieldsItems rule st (ascii '"' :: s) = fieldsTail rule st' r := by
  have hquote : skipBlanks (ascii '"' :: s) = ascii '"' :: s := rfl
  have hbrace : ascii '"' ≠ ascii '}' := by decide
  rw [fieldsItems, hquote]
  simp only [hbrace, if_false, if_true, hm]

theorem fieldsTail_comma {s r : List UInt8} (hm : member rule st s = .ok (st', r)) :
    fieldsTail rule st (ascii ',' :: ascii '"' :: s) = fieldsTail rule st' r := by
  have hcomma : skipBlanks (ascii ',' :: ascii '"' :: s) = ascii ',' :: ascii '"' :: s := rfl
  have hquote : skipBlanks (ascii '"' :: s) = ascii '"' :: s := rfl
  -- the reader keeps what it has skipped to for its termination, so its cases are ruled out
  -- by that and cannot be computed away
  rw [fieldsTail]
  split
  · next heq =>
    rw [hcomma] at heq
    cases heq
  · next c t heq =>
    rw [hcomma] at heq
    cases heq
    rw [if_neg (by decide), if_pos rfl]
    split
    · next heq' =>
      rw [hquote] at heq'
      cases heq'
    · next d u heq' =>
      rw [hquote] at heq'
      cases heq'
      rw [if_pos rfl]
      split
      · next e he =>
        rw [hm] at he
        cases he
      · next st'' r' he =>
        rw [hm] at he
        cases he
        rfl

theorem fieldsTail_text {members : List (String × Json)} (hm : TakesAll rule st members st')
    (rest : List UInt8) :
    fieldsTail rule st (ofChars (textMembers members) ++ rest) = .ok (st', rest) := by
  induction hm with
  | nil =>
    rw [textMembers, ofChars_ascii (by decide)]
    exact fieldsTail_brace _ _ _
  | @cons st st' st'' name v members hfirst _ ih =>
    have hmember := member_text hfirst (delimited_textMembers members rest)
    rw [textMembers, ofChars_ascii (by decide), List.cons_append, ofChars_member,
      fieldsTail_comma hmember, ih]

/-- The members of an object, read after its opening brace. -/
theorem fields_text {members : List (String × Json)}
    (hm : TakesAll rule st ((name, v) :: members) st') (rest : List UInt8) :
    fields rule st (ofChars (quote name ++ ':' :: (v.text ++ textMembers members)) ++ rest)
      = .ok (st', rest) := by
  obtain _ | ⟨hfirst, hmembers⟩ := hm
  have hmember := member_text hfirst (delimited_textMembers members rest)
  rw [ofChars_member, fields, fieldsItems_quote hmember, fieldsTail_text hmembers]
  rfl

end Objects

theorem valueFrom_brace (reader : Reader Json) (rest : List UInt8) :
    valueFrom (some reader) (ascii '{') rest =
      match fields (keep reader) [] rest with
      | .error e => .error e
      | .ok (members, r) => .ok (.object members.reverse, r) :=
  rfl

/-- An object is read as what is inside is read, with one level less. -/
theorem gives_object {depth : Nat} {f : Json → Json} {members : List (String × Json)}
    (hv : ∀ e ∈ members, Gives (value depth) e.2 (f e.2)) :
    Gives (value (depth + 1)) (.object members) (.object (members.map fun e => (e.1, f e.2))) := by
  intro rest _
  have hrun : (value (depth + 1)).run = valueOf (some (value depth)) := rfl
  have hbrace : ∀ s, skipBlanks (ascii '{' :: s) = ascii '{' :: s := fun _ => rfl
  cases members with
  | nil =>
    rw [hrun]
    rfl
  | cons e members =>
    obtain ⟨name, v⟩ := e
    rw [hrun, text, ofChars_ascii (by decide), List.cons_append, valueOf, hbrace]
    simp only [valueFrom_brace, fields_text (takesAll_map hv []), List.append_nil,
      List.reverse_reverse]

/-- An object is read back if what is inside is. -/
theorem reads_object {depth : Nat} {members : List (String × Json)}
    (hv : ∀ e ∈ members, Reads (value depth) e.2) :
    Reads (value (depth + 1)) (.object members) := by
  have hgives := gives_object (f := id) hv
  rwa [show (fun e : String × Json => (e.1, id e.2)) = id from rfl, List.map_id] at hgives

/-! ## Whole texts -/

theorem parse_of_gives {v w : Json} (hv : Gives (value maxDepth) v w) :
    parse v.render = .ok w := by
  have hrun := hv [] delimited_nil
  rw [List.append_nil] at hrun
  have hending : ending [] = .ok ((), []) := rfl
  rw [parse, readAll, render, Bytes.ofString_ofList, hrun]
  simp only [hending]

/-- A value that is read back wherever it may stand is the value of its text. -/
theorem parse_render {v : Json} (hv : Reads (value maxDepth) v) : parse v.render = .ok v :=
  parse_of_gives hv

/-! ## Records -/

/-- Members pass if each stands there once and has a value that its field does not refuse. -/
theorem checkWritten_ok {fields : List Record.Entry} {members : List (String × Json)}
    {seen : List String} (honce : (members.map Prod.fst).Nodup)
    (hseen : ∀ e ∈ members, e.1 ∉ seen)
    (hcheck : ∀ e ∈ members, ∀ entry ∈ fields, entry.name = e.1 → entry.check e.2 = none) :
    Record.checkWritten fields seen members = .ok () := by
  induction members generalizing seen with
  | nil => rfl
  | cons e members ih =>
    obtain ⟨name, v⟩ := e
    rw [List.map_cons, List.nodup_cons] at honce
    obtain ⟨hnew, hothers⟩ := List.forall_mem_cons.1 hseen
    obtain ⟨hfirst, hrest⟩ := List.forall_mem_cons.1 hcheck
    rw [Record.checkWritten]
    split
    · exact ih honce.2 hothers hrest
    · next entry hfind =>
      have hentry : entry.check v = none :=
        hfirst entry (List.mem_of_find?_eq_some hfind) (by simpa using List.find?_some hfind)
      rw [if_neg hnew, hentry]
      refine ih honce.2 (fun e he hmem => ?_) hrest
      obtain hname | hmem := List.mem_cons.1 hmem
      · exact honce.1 (List.mem_map.2 ⟨e, he, hname⟩)
      · exact hothers e he hmem

end Switchboard.Json
