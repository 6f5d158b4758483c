import Mathlib.Algebra.Order.Floor.Div
import Mathlib.GroupTheory.GroupAction.Ring
import Switchboard.Limits.Bucket
import Switchboard.Proofs.Limits.Asking
import Switchboard.Proofs.Limits.Words

/-! # How much a bucket lets through

A bucket is worth what is in it together with what has come back since its last refill, counted
in thousandths of a token so that nothing is rounded.  Letting a frame through costs a thousand
of them, a refill never adds any, and a millisecond brings as many as come back in a second.
Whoever starts to count after a refill finds less than a token above the capacity, and that is
all that the past can contribute.

* `credit` — what a bucket is worth;
* `credit_take`, `thousand_mul_admitted_le` — what letting through costs, once and in a run;
* `credit_refill_lt` — what the past can contribute;
* `countP_admitted_within`, `countP_admitted_start` — what is let through in a span, and from
  the beginning;
* `Paced`, `paced` — all of it, for a bucket that starts full.
-/

namespace Switchboard.Bucket

open Limits

variable {b : Bucket} {now s t : Instant} {times : List Instant}

/-! ## One frame -/

@[simp] theorem refill_capacity : (b.refill now).capacity = b.capacity := by
  unfold refill
  split <;> rfl

@[simp] theorem refill_perSecond : (b.refill now).perSecond = b.perSecond := by
  unfold refill
  split <;> rfl

theorem take_eq (b : Bucket) (now : Instant) :
    b.take now = if 0 < (b.refill now).tokens then
        (true, { b.refill now with tokens := (b.refill now).tokens - 1 })
      else (false, b.refill now) := rfl

@[simp] theorem take_capacity : (b.take now).2.capacity = b.capacity := by
  rw [take_eq]
  split <;> simp

@[simp] theorem take_perSecond : (b.take now).2.perSecond = b.perSecond := by
  rw [take_eq]
  split <;> simp

theorem refilled_refill_le (hb : b.refilled ≤ now) : (b.refill now).refilled ≤ now := by
  unfold refill
  split
  · exact Nat.le_refl now
  · exact hb

theorem refilled_take_le (hb : b.refilled ≤ now) : (b.take now).2.refilled ≤ now := by
  rw [take_eq]
  split <;> exact refilled_refill_le hb

theorem tokens_refill_le (hb : b.tokens ≤ b.capacity) (now : Instant) :
    (b.refill now).tokens ≤ b.capacity := by
  unfold refill
  split
  · exact Nat.min_le_left _ _
  · exact hb

theorem tokens_take_le (hb : b.tokens ≤ b.capacity) (now : Instant) :
    (b.take now).2.tokens ≤ b.capacity := by
  have hle := tokens_refill_le hb now
  rw [take_eq]
  split
  · exact Nat.le_trans (Nat.sub_le _ _) hle
  · exact hle

/-- A refill of a bucket that can hold something leaves something in it, so a bucket that refuses
has not been refilled. -/
theorem take_eq_self (hcap : 0 < b.capacity) (hrefused : (b.take now).1 = false) :
    (b.take now).2 = b := by
  have hempty : ¬ 0 < (b.refill now).tokens := by
    intro hpos
    rw [take_eq, if_pos hpos] at hrefused
    cases hrefused
  rw [take_eq, if_neg hempty]
  unfold refill at hempty ⊢
  split
  · rename_i hdue
    rw [if_pos hdue] at hempty
    dsimp only at hempty
    omega
  · rfl

/-! ## What a bucket is worth -/

/-- The thousandths of a token that are in a bucket or have come back since its last refill. -/
def credit (b : Bucket) (now : Instant) : Nat :=
  1000 * b.tokens + (now - b.refilled) * b.perSecond

theorem credit_later (hb : b.refilled ≤ now) (ht : now ≤ t) :
    b.credit t = b.credit now + (t - now) * b.perSecond := by
  have hsplit : t - b.refilled = (now - b.refilled) + (t - now) := by lia
  rw [credit, hsplit, Nat.add_mul, ← Nat.add_assoc, credit]

/-- A refill puts whole tokens in, and drops what has come back beyond them. -/
theorem credit_refill_le (b : Bucket) (now : Instant) :
    (b.refill now).credit now ≤ b.credit now := by
  unfold refill
  split
  · have hwhole : 1000 * b.due now ≤ (now - b.refilled) * b.perSecond := Nat.mul_div_le _ _
    simp only [credit, Nat.sub_self, Nat.zero_mul]
    omega
  · exact Nat.le_refl _

/-- Right after a refill there is less than a token more than the bucket holds. -/
theorem credit_refill_lt (hb : b.tokens ≤ b.capacity) (now : Instant) :
    (b.refill now).credit now < 1000 * b.capacity + 1000 := by
  unfold refill
  split
  · simp only [credit, Nat.sub_self, Nat.zero_mul]
    omega
  · rename_i hdue
    unfold due at hdue
    unfold credit
    lia

theorem credit_take (b : Bucket) (now : Instant) :
    (b.take now).2.credit now + (if (b.take now).1 then 1000 else 0) =
      (b.refill now).credit now := by
  rw [take_eq]
  split
  · simp only [credit, if_true]
    omega
  · simp

/-! ## A run -/

/-- All that is let through until a time was worth it. -/
theorem thousand_mul_admitted_le (hb : ∀ u ∈ times, b.refilled ≤ u) (ht : ∀ u ∈ times, u ≤ t)
    (ordered : times.Pairwise (· ≤ ·)) (hbt : b.refilled ≤ t) :
    1000 * (admitted take b times).length ≤ b.credit t := by
  induction times generalizing b with
  | nil => simp [admitted]
  | cons now later ih =>
    obtain ⟨hnow, hlater⟩ := List.pairwise_cons.1 ordered
    have hbnow := hb now (by simp)
    have hnowt := ht now (by simp)
    have hrefilled := refilled_take_le hbnow
    -- the rest is paid for by what is left, and that grows until the end
    have hrest := ih (fun u hu => Nat.le_trans hrefilled (hnow u hu))
      (fun u hu => ht u (by simp [hu])) hlater (Nat.le_trans hrefilled hnowt)
    have hcost := credit_take b now
    have hdrop := credit_refill_le b now
    rw [credit_later hrefilled hnowt, take_perSecond] at hrest
    rw [credit_later hbnow hnowt, admitted]
    split
    · rename_i hyes
      rw [hyes, if_pos rfl] at hcost
      rw [List.length_cons]
      omega
    · omega

theorem tokens_after_le (hb : b.tokens ≤ b.capacity) :
    (after take b times).tokens ≤ b.capacity := by
  induction times generalizing b with
  | nil => exact hb
  | cons now later ih =>
    have hrest := ih (b := (b.take now).2) (by rw [take_capacity]; exact tokens_take_le hb now)
    rwa [take_capacity] at hrest

@[simp] theorem after_capacity : (after take b times).capacity = b.capacity := by
  induction times generalizing b with
  | nil => rfl
  | cons now later ih => rw [after_cons, ih, take_capacity]

@[simp] theorem after_perSecond : (after take b times).perSecond = b.perSecond := by
  induction times generalizing b with
  | nil => rfl
  | cons now later ih => rw [after_cons, ih, take_perSecond]

theorem refilled_after_le (hb : b.refilled ≤ t) (ht : ∀ u ∈ times, u ≤ t) :
    (after take b times).refilled ≤ t := by
  induction times generalizing b with
  | nil => exact hb
  | cons now later ih =>
    -- whether it is refilled now or was earlier, that is not later than the end
    rw [after_cons]
    refine ih ?_ fun u hu => ht u (by simp [hu])
    have hrefill : (b.refill now).refilled ≤ t := by
      unfold refill
      split
      · exact ht now (by simp)
      · exact hb
    rw [take_eq]
    split <;> exact hrefill

/-- Within a span, a bucket of any past lets through what it holds and what comes back. -/
theorem length_admitted_le (hb : b.tokens ≤ b.capacity) (hbs : ∀ u ∈ times, b.refilled ≤ u)
    (hspan : ∀ u ∈ times, s ≤ u ∧ u ≤ t) (ordered : times.Pairwise (· ≤ ·)) :
    (admitted take b times).length ≤ b.capacity + (b.perSecond * (t - s)) ⌈/⌉ 1000 := by
  cases times with
  | nil => simp [admitted]
  | cons now later =>
    obtain ⟨hnow, hlater⟩ := List.pairwise_cons.1 ordered
    obtain ⟨hsnow, hnowt⟩ := hspan now (by simp)
    have hrefilled := refilled_take_le (hbs now (by simp))
    -- only what is there after the first refill counts, and what comes back from then on
    have hfirst := credit_refill_lt hb now
    have hcost := credit_take b now
    have hrest := thousand_mul_admitted_le (b := (b.take now).2) (t := t)
      (fun u hu => Nat.le_trans hrefilled (hnow u hu)) (fun u hu => (hspan u (by simp [hu])).2)
      hlater (Nat.le_trans hrefilled hnowt)
    rw [credit_later hrefilled hnowt, take_perSecond] at hrest
    have hgrow : (t - now) * b.perSecond ≤ b.perSecond * (t - s) := by
      rw [Nat.mul_comm]
      exact Nat.mul_le_mul_left _ (Nat.sub_le_sub_left hsnow t)
    have hlength : 1000 * (admitted take b (now :: later)).length <
        1000 * b.capacity + 1000 + b.perSecond * (t - s) := by
      rw [admitted]
      split
      · rename_i hyes
        rw [hyes, if_pos rfl] at hcost
        rw [List.length_cons]
        lia
      · lia
    rw [Nat.ceilDiv_eq_add_pred_div]
    lia

/-! ## Spans -/

/-- What is let through in any span of time. -/
theorem countP_admitted_within (hb : b.tokens ≤ b.capacity) (hopened : ∀ u ∈ times, b.refilled ≤ u)
    (ordered : times.Pairwise (· ≤ ·)) (s t : Instant) :
    (admitted take b times).countP (fun u => s ≤ u ∧ u ≤ t) ≤
      b.capacity + (b.perSecond * (t - s)) ⌈/⌉ 1000 := by
  obtain ⟨before, within, behind, rfl, hbefore, hwithin, hbehind⟩ := exists_split ordered s t
  refine Nat.le_trans (countP_admitted take b hbefore fun u hu => (hbehind u hu).2) ?_
  rw [List.append_assoc, List.pairwise_append, List.pairwise_append] at ordered
  obtain ⟨-, ⟨hordered, -, -⟩, hapart⟩ := ordered
  have hstart : (after take b before).tokens ≤ (after take b before).capacity := by
    rw [after_capacity]
    exact tokens_after_le hb
  have hle := length_admitted_le hstart ?_ hwithin hordered
  · rwa [after_capacity, after_perSecond] at hle
  · intro u hu
    exact refilled_after_le (hopened u (by simp [hu])) fun v hv => hapart v hv u (by simp [hu])

/-- What is let through from the beginning. -/
theorem countP_admitted_start (capacity perSecond : Nat) {opened : Instant}
    (ordered : (opened :: times).Pairwise (· ≤ ·)) (t : Nat) :
    (admitted take (full capacity perSecond opened) times).countP (fun u => u ≤ opened + t) ≤
      capacity + perSecond * t / 1000 := by
  obtain ⟨hopened, hordered⟩ := List.pairwise_cons.1 ordered
  have hspan : (admitted take (full capacity perSecond opened) times).countP
      (fun u => u ≤ opened + t) = (admitted take (full capacity perSecond opened) times).countP
        (fun u => opened ≤ u ∧ u ≤ opened + t) := by
    refine List.countP_congr fun u hu => ?_
    simp [hopened u ((admitted_sublist take _ times).subset hu)]
  rw [hspan]
  obtain ⟨before, within, behind, rfl, hbefore, hwithin, hbehind⟩ :=
    exists_split hordered opened (opened + t)
  -- nothing comes before the beginning
  have hnone : before = [] := by
    rw [List.eq_nil_iff_forall_not_mem]
    intro u hu
    have hge := hopened u (by simp [hu])
    have hlt := hbefore u hu
    lia
  subst hnone
  refine Nat.le_trans (countP_admitted take _ hbefore fun u hu => (hbehind u hu).2) ?_
  rw [List.nil_append, List.pairwise_append] at hordered
  have hworth := thousand_mul_admitted_le (b := full capacity perSecond opened)
    (t := opened + t) (fun u hu => (hwithin u hu).1) (fun u hu => (hwithin u hu).2) hordered.1
    (Nat.le_add_right opened t)
  have hcredit : (full capacity perSecond opened).credit (opened + t) =
      1000 * capacity + perSecond * t := by
    rw [credit, full, Nat.add_sub_cancel_left, Nat.mul_comm t]
  rw [hcredit] at hworth
  change (admitted take (full capacity perSecond opened) within).length ≤ _
  omega

/-! ## In words -/

theorem Words.refilled_le_take {w : Words} {opened : Instant} (hw : opened ≤ w.refilled)
    (hnow : opened ≤ now) : opened ≤ (w.take now).2.refilled := by
  have hrefill : opened ≤ (w.refill now).refilled := by
    unfold Words.refill
    split
    · exact hnow
    · exact hw
  unfold Words.take
  dsimp only
  split <;> exact hrefill

/-- A bucket in words lets the same frames through, and no word ever wraps. -/
theorem Words.numbers_after {w : Words} {opened : Instant} (hw : opened ≤ w.refilled)
    (hopened : ∀ u ∈ times, opened ≤ u) (hmeasured : ∀ u ∈ times, u - opened < longest) :
    admitted Words.take w times = admitted Bucket.take w.numbers times ∧
      (after Words.take w times).numbers = after Bucket.take w.numbers times := by
  induction times generalizing w with
  | nil => exact ⟨rfl, rfl⟩
  | cons now later ih =>
    have hnow := hopened now (by simp)
    have helapsed : now - w.refilled < longest :=
      Nat.lt_of_le_of_lt (Nat.sub_le_sub_left hw now) (hmeasured now (by simp))
    obtain ⟨hadmitted, hafter⟩ := ih (refilled_le_take hw hnow)
      (fun u hu => hopened u (by simp [hu])) fun u hu => hmeasured u (by simp [hu])
    simp only [admitted, after_cons, numbers_take helapsed, hadmitted, hafter, and_self]

/-! ## All of it -/

/-- How a bucket that is full at first keeps the pace, with numbers of 32 bits. -/
structure Paced (capacity perSecond : UInt32) (opened : Instant) (times : List Instant) : Prop where
  within : ∀ s t : Instant,
    (admitted take (full capacity.toNat perSecond.toNat opened) times).countP
        (fun u => s ≤ u ∧ u ≤ t) ≤
      capacity.toNat + (perSecond.toNat * (t - s)) ⌈/⌉ 1000
  start : ∀ t : Nat,
    (admitted take (full capacity.toNat perSecond.toNat opened) times).countP
        (fun u => u ≤ opened + t) ≤
      capacity.toNat + perSecond.toNat * t / 1000
  tokens : ∀ earlier later, times = earlier ++ later →
    (after take (full capacity.toNat perSecond.toNat opened) earlier).tokens ≤ capacity.toNat
  refused : 0 < capacity.toNat → ∀ earlier now later, times = earlier ++ now :: later →
    let b := after take (full capacity.toNat perSecond.toNat opened) earlier
    (b.take now).1 = false → (b.take now).2 = b
  /-- Worked out in words it comes to the same, as long as the times can be measured. -/
  words : (∀ u ∈ times, u - opened < longest) →
    admitted Words.take (Words.full capacity perSecond opened) times =
        admitted take (full capacity.toNat perSecond.toNat opened) times ∧
      (after Words.take (Words.full capacity perSecond opened) times).numbers =
        after take (full capacity.toNat perSecond.toNat opened) times

theorem paced {capacity perSecond : UInt32} {opened : Instant}
    (ordered : (opened :: times).Pairwise (· ≤ ·)) : Paced capacity perSecond opened times where
  within s t := by
    obtain ⟨hopened, hordered⟩ := List.pairwise_cons.1 ordered
    exact countP_admitted_within (b := full capacity.toNat perSecond.toNat opened)
      (Nat.le_refl _) hopened hordered s t
  start t := countP_admitted_start capacity.toNat perSecond.toNat ordered t
  tokens earlier later _ :=
    tokens_after_le (b := full capacity.toNat perSecond.toNat opened) (Nat.le_refl _)
  refused hcap earlier now later _ := take_eq_self (by rw [after_capacity]; exact hcap)
  words hmeasured :=
    Words.numbers_after (w := Words.full capacity perSecond opened) (Nat.le_refl opened)
      (List.pairwise_cons.1 ordered).1 hmeasured

end Switchboard.Bucket
