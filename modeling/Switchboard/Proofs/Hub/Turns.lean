import Mathlib.Data.List.Chain
import Mathlib.Data.List.Induction
import Switchboard.Proofs.Hub.Underway

/-! # Desktops take turns

Along a run the desktop of an account changes now and then: one comes, or takes the place of
another, or is gone.  `turns` lists these changes, each as what there is to say about it.
The last one tells who is the desktop in the end, nobody is gone twice in a row, and a
desktop whose place another one has taken is never said to be gone, because no name comes
twice.

* `desk`, `turn`, `turns` — the desktop of an account, and its changes;
* `desk_run` — the last change says who is the desktop;
* `turns_eq_nil`, `last_there`, `last_gone` — no change, or the last one by the desktop in the end;
* `isChain_turns` — what may follow what;
* `not_back`, `replaced_not_gone` — a desktop whose place is taken.
-/

namespace Switchboard.Hub

/-- The desktop of an account. -/
def desk (h : Hub) (account : AccountId) : Option Connection := (h.room account).desktop

/-- What there is to say when the desktop has changed: the new one is there, or without a new
one the old one is gone. -/
def turn (before after : Option Connection) : Option (Bool × Connection) :=
  if before = after then none
  else match after with
    | some d => some (true, d)
    | none => before.map fun d => (false, d)

/-- The changes of an account's desktop along a run. -/
def turns (h : Hub) (account : AccountId) : List Action → List (Bool × Connection)
  | [] => []
  | a :: as =>
    (turn (h.desk account) ((h.next a).desk account)).toList ++ (h.next a).turns account as

/-- An action changes the desktop of an account. -/
def Turns (account : AccountId) (h : Hub) (a : Action) : Prop :=
  h.desk account ≠ (h.next a).desk account

/-- A desktop leaves, or another one takes its place. -/
def Leaves (account : AccountId) (d : Connection) (h : Hub) (a : Action) : Prop :=
  h.desk account = some d ∧ (h.next a).desk account ≠ some d

/-- Another desktop takes the place of one. -/
def Replaces (account : AccountId) (d : Connection) (h : Hub) (a : Action) : Prop :=
  h.desk account = some d ∧ ∃ d', (h.next a).desk account = some d' ∧ d' ≠ d

variable {h : Hub} {account : AccountId} {a : Action} {as bs : List Action} {d : Connection}

theorem turn_self (slot : Option Connection) : turn slot slot = none := by simp [turn]

theorem turn_eq_some {before after : Option Connection} {online : Bool} :
    turn before after = some (online, d) ↔
      before ≠ after ∧
        (online = true ∧ after = some d ∨ online = false ∧ after = none ∧ before = some d) := by
  unfold turn
  split
  · next heq => simp [heq]
  · next hne =>
    cases after with
    | some d' => cases online <;> simp [hne]
    | none => cases online <;> cases before <;> simp at hne ⊢

theorem turn_eq_none {before after : Option Connection} :
    turn before after = none ↔ before = after := by
  unfold turn
  cases before <;> cases after <;> simp

theorem turns_append (h : Hub) (account : AccountId) (as bs : List Action) :
    h.turns account (as ++ bs) = h.turns account as ++ (h.run as).1.turns account bs := by
  induction as generalizing h with
  | nil => rfl
  | cons a as ih =>
    simp only [List.cons_append, turns, ih, List.append_assoc]
    rfl

theorem turns_concat (h : Hub) (account : AccountId) (as : List Action) (a : Action) :
    h.turns account (as ++ [a]) = h.turns account as ++
      (turn ((h.run as).1.desk account) (((h.run as).1.next a).desk account)).toList := by
  rw [turns_append]
  simp [turns]

/-! ## The last change -/

theorem turns_eq_nil : h.turns account as = [] ↔ ¬ Occurs next (Turns account) h as := by
  induction as generalizing h with
  | nil => simp [turns, Occurs]
  | cons a as ih =>
    rw [turns, List.append_eq_nil_iff, ih, Option.toList_eq_nil_iff, turn_eq_none, Occurs, Turns]
    simp [not_or]

/-- The desktop after some changes of which the last one is known. -/
def deskAfter (slot : Option Connection) : Option (Bool × Connection) → Option Connection
  | none => slot
  | some (true, d) => some d
  | some (false, _) => none

theorem deskAfter_turn (before after : Option Connection) :
    deskAfter before (turn before after) = after := by
  cases hturn : turn before after with
  | none => exact turn_eq_none.1 hturn
  | some e =>
    obtain ⟨online, d⟩ := e
    obtain ⟨-, ⟨rfl, hd⟩ | ⟨rfl, hd, -⟩⟩ := turn_eq_some.1 hturn
    · exact hd.symm
    · exact hd.symm

/-- The last change tells who is the desktop in the end; without one it is who it was. -/
theorem desk_run (h : Hub) (account : AccountId) (as : List Action) :
    (h.run as).1.desk account = deskAfter (h.desk account) (h.turns account as).getLast? := by
  induction as generalizing h with
  | nil => rfl
  | cons a as ih =>
    rw [run_cons, ih, turns, List.getLast?_append]
    cases ((h.next a).turns account as).getLast? with
    | some e =>
      obtain ⟨online, d⟩ := e
      cases online <;> rfl
    | none =>
      -- nothing changes behind the first action, so it is what counts
      have hlast : ∀ o : Option (Bool × Connection), o.toList.getLast? = o := by
        intro o
        cases o <;> rfl
      rw [Option.none_or, hlast, deskAfter_turn]
      rfl

theorem last_there (hend : (h.run as).1.desk account = some d)
    (hturn : Occurs next (Turns account) h as) :
    (h.turns account as).getLast? = some (true, d) := by
  have hlast := desk_run h account as
  cases hl : (h.turns account as).getLast? with
  | none => exact absurd hturn (turns_eq_nil.1 (List.getLast?_eq_none_iff.1 hl))
  | some e =>
    obtain ⟨online, d'⟩ := e
    rw [hl, hend] at hlast
    cases online <;> cases hlast
    rfl

/-- Without a desktop in the end, the last change is that the one before it has gone. -/
theorem last_gone (hend : (h.run as).1.desk account = none)
    (hturn : Occurs next (Turns account) h as) :
    ∃ d, (h.turns account as).getLast? = some (false, d) ∧
      ∃ earlier a later, as = earlier ++ a :: later ∧
        (h.run earlier).1.desk account = some d ∧
        ((h.run earlier).1.next a).desk account = none ∧
        ¬ Occurs next (Turns account) ((h.run earlier).1.next a) later := by
  -- from the end of the run back to the last action that changes anything
  induction as using List.reverseRecOn with
  | nil => cases hturn
  | append_singleton as a ih =>
    rw [run_concat] at hend
    cases hd : (h.run as).1.desk account with
    | some d =>
      -- the last action is the one
      refine ⟨d, ?_, as, a, [], rfl, hd, hend, by simp [Occurs]⟩
      rw [turns_concat, hd, hend]
      simp [turn]
    | none =>
      -- the last action changes nothing, so it can be left out
      have hsame : ¬ Turns account (h.run as).1 a := fun hlast => hlast (hd.trans hend.symm)
      have hturn' : Occurs next (Turns account) h as := by
        rw [occurs_concat, ← run_fst] at hturn
        exact hturn.resolve_right hsame
      obtain ⟨d, hl, earlier, b, later, rfl, hbefore, hafter, hquiet⟩ := ih hd hturn'
      refine ⟨d, ?_, earlier, b, later ++ [a], by simp, hbefore, hafter, ?_⟩
      · rw [turns_concat, hd, hend, turn_self]
        simpa using hl
      · rw [occurs_concat, ← run_fst]
        rw [run_append] at hsame
        exact not_or.2 ⟨hquiet, hsame⟩

/-! ## What may follow what -/

/-- Nobody is gone twice in a row, and nobody is gone first if there was no desktop. -/
theorem isChain_turns (h : Hub) (account : AccountId) (as : List Action) :
    (h.turns account as).IsChain (fun s t => s.1 = true ∨ t.1 = true) ∧
      (h.desk account = none → ∀ t ∈ (h.turns account as).head?, t.1 = true) := by
  induction as generalizing h with
  | nil => simp [turns]
  | cons a as ih =>
    obtain ⟨hchain, hhead⟩ := ih (h.next a)
    rw [turns]
    cases hturn : turn (h.desk account) ((h.next a).desk account) with
    | none =>
      refine ⟨by simpa using hchain, fun hnone => ?_⟩
      rw [turn_eq_none.1 hturn] at hnone
      simpa using hhead hnone
    | some e =>
      obtain ⟨online, d⟩ := e
      obtain ⟨-, ⟨rfl, hd⟩ | ⟨rfl, hd, hbefore⟩⟩ := turn_eq_some.1 hturn
      · refine ⟨List.isChain_cons.2 ⟨fun t _ => .inl rfl, hchain⟩, fun _ => by simp⟩
      · -- once it is gone there is no desktop, so the next change is that one comes
        refine ⟨List.isChain_cons.2 ⟨fun t ht => .inr (hhead hd t ht), hchain⟩, fun hnone => ?_⟩
        rw [hnone] at hbefore
        cases hbefore

/-! ## A desktop whose place is taken -/

/-- A desktop that has left does not come back: its name is not in use any more, and it is
none of those that are still to come. -/
theorem not_back {cs : List Connection} (hu : Underway cs h (a :: (as ++ bs)))
    (hl : Leaves account d h a) : ((h.next a).run as).1.desk account ≠ some d := by
  intro hback
  obtain ⟨hd, hleft⟩ := hl
  have hnext := hu.next
  have hin : d.id ∈ ((h.next a).run as).1.index := hnext.run.mem_index hback
  obtain ⟨other, hi⟩ := Table.mem_iff_lookup.1 hin
  have hcs : d ∈ cs := hu.peopled.desktop account d hd
  obtain ⟨hacc, hrole⟩ := (hu.consistent.wellFormed account).desktop d hd
  obtain hold | hcame := (gains_run (h.next a) as).index d.id other hi
  · -- it is registered right after it has left, so it is the desktop
    obtain ⟨-, hdesk⟩ | ⟨hmob, -⟩ := hnext.desktop_or_mobile hcs (Table.mem_of_lookup hold)
    · rw [hacc] at hdesk
      exact hleft hdesk
    · rw [hrole] at hmob
      cases hmob
  · refine hu.new d.id ?_ (hu.mem_index hd)
    rw [arrivals_cons, arrivals_append]
    exact List.mem_append_right _ (List.mem_append_left _ hcame)

theorem desk_of_gone (hgone : (false, d) ∈ h.turns account as) :
    ∃ earlier later, as = earlier ++ later ∧ (h.run earlier).1.desk account = some d := by
  induction as generalizing h with
  | nil => cases hgone
  | cons a as ih =>
    obtain hnow | hlater := List.mem_append.1 hgone
    · obtain ⟨-, ⟨hfalse, -⟩ | ⟨-, -, hd⟩⟩ := turn_eq_some.1 (Option.mem_toList.1 hnow)
      · cases hfalse
      · exact ⟨[], a :: as, rfl, hd⟩
    · obtain ⟨earlier, later, rfl, hd⟩ := ih hlater
      exact ⟨a :: earlier, later, rfl, hd⟩

/-- A desktop whose place another one has taken is not said to be gone, before or after. -/
theorem replaced_not_gone {cs : List Connection} (hu : Underway cs h as)
    (hreplaced : Occurs next (Replaces account d) h as) : (false, d) ∉ h.turns account as := by
  induction as generalizing h with
  | nil => cases hreplaced
  | cons a as ih =>
    intro hgone
    obtain hnow | hlater := List.mem_append.1 hgone
    · obtain ⟨-, ⟨hfalse, -⟩ | ⟨-, hnone, hd⟩⟩ := turn_eq_some.1 (Option.mem_toList.1 hnow)
      · cases hfalse
      · obtain ⟨-, d', hd', -⟩ | hocc := hreplaced
        · rw [hnone] at hd'
          cases hd'
        · -- gone now, and replaced later on
          obtain ⟨earlier, b, later, rfl, ⟨hback, -⟩⟩ := occurs_iff.1 hocc
          rw [← run_fst] at hback
          exact not_back hu ⟨hd, by rw [hnone]; simp⟩ hback
    · obtain ⟨hd, d', hd', hne⟩ | hocc := hreplaced
      · -- replaced now, and gone later on
        obtain ⟨earlier, later, rfl, hback⟩ := desk_of_gone hlater
        exact not_back hu ⟨hd, by rw [hd']; simpa using hne⟩ hback
      · exact ih hu.next hocc hlater

end Switchboard.Hub
