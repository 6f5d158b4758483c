/-! # What happens in a run

A run is a list of actions that are taken one after the other.  Whoever speaks of the
history of a run says that something occurs in it: an action that meets with a certain
state, the one that the actions before it lead to.

* `Occurs` — that, by recursion along the run;
* `occurs_iff` — the same as a place in the list of actions;
* `occurs_append` — in one of two runs, one after the other.
-/

namespace Switchboard

variable {σ α : Type}

/-- An action is taken in a state, somewhere in a run, and `P` holds of the two. -/
def Occurs (next : σ → α → σ) (P : σ → α → Prop) : σ → List α → Prop
  | _, [] => False
  | s, a :: as => P s a ∨ Occurs next P (next s a) as

theorem occurs_iff {next : σ → α → σ} {P : σ → α → Prop} {s : σ} {as : List α} :
    Occurs next P s as ↔
      ∃ earlier a later, as = earlier ++ a :: later ∧ P (earlier.foldl next s) a := by
  induction as generalizing s with
  | nil => simp [Occurs]
  | cons a as ih =>
    unfold Occurs
    rw [ih]
    constructor
    · rintro (hP | ⟨earlier, b, later, rfl, hP⟩)
      · exact ⟨[], a, as, rfl, hP⟩
      · exact ⟨a :: earlier, b, later, rfl, hP⟩
    · rintro ⟨earlier, b, later, heq, hP⟩
      -- the action that is looked for is the first one, or it comes later
      cases earlier with
      | nil =>
        cases heq
        exact .inl hP
      | cons c earlier =>
        cases heq
        exact .inr ⟨earlier, b, later, rfl, hP⟩

theorem occurs_append {next : σ → α → σ} {P : σ → α → Prop} {s : σ} {as bs : List α} :
    Occurs next P s (as ++ bs) ↔ Occurs next P s as ∨ Occurs next P (as.foldl next s) bs := by
  induction as generalizing s with
  | nil => simp [Occurs]
  | cons a as ih => simp [Occurs, ih, or_assoc]

theorem occurs_concat {next : σ → α → σ} {P : σ → α → Prop} {s : σ} {as : List α} {a : α} :
    Occurs next P s (as ++ [a]) ↔ Occurs next P s as ∨ P (as.foldl next s) a := by
  simp [occurs_append, Occurs]

end Switchboard
