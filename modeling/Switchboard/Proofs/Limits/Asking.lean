import Mathlib.Data.List.Basic
import Switchboard.Calendar

/-! # Asking a limiter time and again

Whatever limits how fast something may come is asked at one time after the other.  It lets
through or refuses, and is a different one afterwards.

* `after` — the limiter after it was asked at several times;
* `admitted` — the times at which it let something through;
* `exists_split` — times that never go back come before, within or after a span.
-/

namespace Switchboard.Limits

variable {σ : Type}

/-- A limiter after it was asked at some times. -/
def after (take : σ → Instant → Bool × σ) (s : σ) (times : List Instant) : σ :=
  times.foldl (fun s now => (take s now).2) s

/-- The times at which a limiter lets something through. -/
def admitted (take : σ → Instant → Bool × σ) (s : σ) : List Instant → List Instant
  | [] => []
  | now :: later =>
    if (take s now).1 then now :: admitted take (take s now).2 later
    else admitted take (take s now).2 later

variable (take : σ → Instant → Bool × σ) (s : σ)

@[simp] theorem after_nil : after take s [] = s := rfl

theorem after_cons (now : Instant) (later : List Instant) :
    after take s (now :: later) = after take (take s now).2 later := rfl

theorem after_append (earlier later : List Instant) :
    after take s (earlier ++ later) = after take (after take s earlier) later := by
  simp [after]

theorem admitted_append (earlier later : List Instant) :
    admitted take s (earlier ++ later) =
      admitted take s earlier ++ admitted take (after take s earlier) later := by
  induction earlier generalizing s with
  | nil => rfl
  | cons now earlier ih =>
    simp only [List.cons_append, admitted, ih, after_cons]
    split <;> simp

theorem admitted_sublist (times : List Instant) : (admitted take s times).Sublist times := by
  induction times generalizing s with
  | nil => exact .slnil
  | cons now later ih =>
    rw [admitted]
    split
    · exact (ih _).cons_cons now
    · exact (ih _).cons now

theorem admitted_cons_eq_self {now : Instant} {later : List Instant} :
    admitted take s (now :: later) = now :: later ↔
      (take s now).1 = true ∧ admitted take (take s now).2 later = later := by
  cases hnow : (take s now).1 with
  | true => simp [admitted, hnow]
  | false =>
    -- one of the times is missing, so what is let through is too short
    have hle := (admitted_sublist take (take s now).2 later).length_le
    rw [admitted, hnow, if_neg Bool.false_ne_true]
    simp only [Bool.false_eq_true, false_and, iff_false]
    intro heq
    rw [heq, List.length_cons] at hle
    lia

/-- A limiter that lets everything through does so each single time. -/
theorem admitted_eq_self {times : List Instant} :
    admitted take s times = times ↔
      ∀ earlier now later, times = earlier ++ now :: later →
        (take (after take s earlier) now).1 = true := by
  induction times generalizing s with
  | nil => simp [admitted]
  | cons first rest ih =>
    rw [admitted_cons_eq_self, ih]
    constructor
    · rintro ⟨hfirst, hrest⟩ earlier now later heq
      cases earlier with
      | nil =>
        cases heq
        exact hfirst
      | cons _ earlier =>
        cases heq
        exact hrest earlier now later rfl
    · intro hall
      refine ⟨hall [] first rest rfl, ?_⟩
      rintro earlier now later rfl
      exact hall (first :: earlier) now later rfl

/-! ## Spans of time -/

/-- Times that never go back come before a span, within it, or after it. -/
theorem exists_split {times : List Instant} (ordered : times.Pairwise (· ≤ ·)) (s t : Instant) :
    ∃ before within behind, times = before ++ within ++ behind ∧ (∀ u ∈ before, u < s) ∧
      (∀ u ∈ within, s ≤ u ∧ u ≤ t) ∧ ∀ u ∈ behind, s ≤ u ∧ t < u := by
  induction times with
  | nil => exact ⟨[], [], [], rfl, by simp⟩
  | cons now later ih =>
    obtain ⟨hnow, hlater⟩ := List.pairwise_cons.1 ordered
    obtain ⟨before, within, behind, rfl, hbefore, hwithin, hbehind⟩ := ih hlater
    by_cases hs : now < s
    · refine ⟨now :: before, within, behind, rfl, ?_, hwithin, hbehind⟩
      simpa [hs] using hbefore
    · -- nothing that comes later comes before the span
      have hnone : before = [] := by
        rw [List.eq_nil_iff_forall_not_mem]
        intro u hu
        have hge := hnow u (by simp [hu])
        have hlt := hbefore u hu
        lia
      subst hnone
      by_cases ht : now ≤ t
      · refine ⟨[], now :: within, behind, rfl, by simp, ?_, hbehind⟩
        intro u hu
        obtain rfl | hu := List.mem_cons.1 hu
        · lia
        · exact hwithin u hu
      · -- and nothing that comes later comes within it
        have hempty : within = [] := by
          rw [List.eq_nil_iff_forall_not_mem]
          intro u hu
          have hge := hnow u (by simp [hu])
          have hle := (hwithin u hu).2
          lia
        subst hempty
        refine ⟨[], [], now :: behind, rfl, by simp, by simp, ?_⟩
        intro u hu
        obtain rfl | hu := List.mem_cons.1 hu
        · lia
        · exact hbehind u hu

/-- What is let through in a span comes from the times within it. -/
theorem countP_admitted {before within behind : List Instant} {s' t : Instant}
    (hbefore : ∀ u ∈ before, u < s') (hbehind : ∀ u ∈ behind, t < u) :
    (admitted take s (before ++ within ++ behind)).countP (fun u => s' ≤ u ∧ u ≤ t) ≤
      (admitted take (after take s before) within).length := by
  rw [admitted_append, admitted_append, List.countP_append, List.countP_append]
  have hpast : (admitted take s before).countP (fun u => s' ≤ u ∧ u ≤ t) = 0 := by
    rw [List.countP_eq_zero]
    intro u hu
    have hlt := hbefore u ((admitted_sublist take s before).subset hu)
    simpa using fun hle : s' ≤ u => absurd hle (Nat.not_le_of_lt hlt)
  have hfuture : (admitted take (after take s (before ++ within)) behind).countP
      (fun u => s' ≤ u ∧ u ≤ t) = 0 := by
    rw [List.countP_eq_zero]
    intro u hu
    have hlt := hbehind u ((admitted_sublist take _ behind).subset hu)
    simpa using fun _ => hlt
  rw [hpast, hfuture, Nat.zero_add, Nat.add_zero]
  exact List.countP_le_length

end Switchboard.Limits
