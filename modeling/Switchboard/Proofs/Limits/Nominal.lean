import Mathlib.Algebra.Order.Field.Rat
import Mathlib.Tactic.FieldSimp
import Mathlib.Tactic.Linarith
import Mathlib.Tactic.Positivity
import Mathlib.Tactic.Ring
import Switchboard.Proofs.Limits.Bucket

/-! # Buckets that keep fractions

A bucket that kept fractions of tokens would get back a thousandth of its rate in every
millisecond.  A bucket of whole tokens drops the fraction whenever it puts something in, and
whoever comes again before the next whole token is due is refused although the other bucket would
let it through.

Nothing is dropped if whole tokens come back in every millisecond, and nothing is missed if every
millisecond fills the bucket.  In all other cases something is, even by a client that never asks
for more than there is, unless the bucket holds a single token.

* `Nominal` — a bucket with fractions, and `Nominal.take` for one frame;
* `Same`, `same_take` — two buckets between which there is no difference;
* `Spent` — a bucket of one token that is empty after every frame;
* `exists_behind` — how a bucket of several tokens falls behind;
* `Generous`, `Fair`, `generous_iff`, `fair_iff` — which buckets never do.
-/

namespace Switchboard

open Limits

/-- A bucket with fractions of tokens, as it was when it was last reckoned. -/
structure Nominal where
  tokens : ℚ
  capacity : Nat
  perSecond : Nat
  reckoned : Instant

namespace Nominal

/-- A full bucket. -/
def full (capacity perSecond : Nat) (now : Instant) : Nominal :=
  ⟨capacity, capacity, perSecond, now⟩

/-- What is in the bucket at a time. -/
def held (n : Nominal) (now : Instant) : ℚ :=
  min n.capacity (n.tokens + n.perSecond * ((now - n.reckoned : Nat) : ℚ) / 1000)

/-- The bucket as it is when it is reckoned again. -/
def reckon (n : Nominal) (now : Instant) : Nominal :=
  { n with tokens := n.held now, reckoned := now }

/-- Whether a frame is let through now, and the bucket after it. -/
def take (n : Nominal) (now : Instant) : Bool × Nominal :=
  let n := n.reckon now
  if 1 ≤ n.tokens then (true, { n with tokens := n.tokens - 1 }) else (false, n)

theorem take_eq (n : Nominal) (now : Instant) :
    n.take now = if 1 ≤ n.held now then
        (true, { n with tokens := n.held now - 1, reckoned := now })
      else (false, n.reckon now) := rfl

@[simp] theorem reckoned_take (n : Nominal) (now : Instant) : (n.take now).2.reckoned = now := by
  rw [take_eq]
  split <;> rfl

theorem admits_iff {n : Nominal} {now : Instant} : (n.take now).1 = true ↔ 1 ≤ n.held now := by
  rw [take_eq]
  split <;> simp_all

end Nominal

namespace Bucket

/-- Nothing that comes back to a bucket is ever lost by rounding: either there is nothing to
round, or the bucket is full again after a millisecond. -/
def Exact (capacity perSecond : Nat) : Prop := 1000 ∣ perSecond ∨ 1000 * capacity ≤ perSecond

variable {n : Nominal} {b : Bucket} {now : Instant} {times : List Instant}
  {capacity perSecond : Nat}

/-! ## Where nothing is lost -/

/-- There is no difference between two buckets: what has come back since the refill of the one is
nothing that the other one has reckoned. -/
structure Same (n : Nominal) (b : Bucket) : Prop where
  capacity : n.capacity = b.capacity
  perSecond : n.perSecond = b.perSecond
  tokens : n.tokens = b.tokens
  room : b.tokens ≤ b.capacity
  order : b.refilled ≤ n.reckoned
  reckoned : (n.reckoned - b.refilled) * b.perSecond = 0

theorem same_full (capacity perSecond : Nat) (now : Instant) :
    Same (.full capacity perSecond now) (full capacity perSecond now) :=
  ⟨rfl, rfl, rfl, Nat.le_refl _, Nat.le_refl _, by simp [Nominal.full, full]⟩

theorem Same.due (hs : Same n b) (hnow : n.reckoned ≤ now) :
    b.due now = (now - n.reckoned) * b.perSecond / 1000 := by
  have horder := hs.order
  have hsplit : now - b.refilled = (now - n.reckoned) + (n.reckoned - b.refilled) := by lia
  rw [Bucket.due, hsplit, Nat.add_mul, hs.reckoned, Nat.add_zero]

/-- What comes back is a whole number of tokens, or more than there is room for. -/
theorem Exact.min_eq (hexact : Exact capacity perSecond) (tokens elapsed : Nat) :
    min (capacity : ℚ) (tokens + perSecond * elapsed / 1000) =
      ((min capacity (tokens + elapsed * perSecond / 1000) : Nat) : ℚ) := by
  obtain ⟨k, rfl⟩ | hfills := hexact
  · -- every millisecond brings whole tokens
    have hwhole : elapsed * (1000 * k) / 1000 = k * elapsed := by
      rw [Nat.mul_left_comm, Nat.mul_div_cancel_left _ (by omega), Nat.mul_comm]
    rw [hwhole]
    push_cast
    congr 2
    ring
  · obtain rfl | hpos := Nat.eq_zero_or_pos elapsed
    · simp
    · -- every millisecond fills the bucket
      have hdue : capacity ≤ elapsed * perSecond / 1000 := by
        rw [Nat.le_div_iff_mul_le (by omega)]
        nlinarith
      have hdueQ : (capacity : ℚ) ≤ perSecond * elapsed / 1000 := by
        rw [le_div_iff₀ (by norm_num)]
        have hnat : capacity * 1000 ≤ perSecond * elapsed := by nlinarith
        exact_mod_cast hnat
      have htokens : (0 : ℚ) ≤ tokens := Nat.cast_nonneg tokens
      rw [min_eq_left (by linarith), min_eq_left (by omega)]

theorem Same.held (hs : Same n b) (hexact : Exact b.capacity b.perSecond)
    (hnow : n.reckoned ≤ now) : n.held now = ((b.refill now).tokens : ℚ) := by
  have hroom := hs.room
  have hdue := hs.due hnow
  rw [Nominal.held, hs.capacity, hs.perSecond, hs.tokens, hexact.min_eq, ← hdue, refill]
  split
  · rfl
  · rename_i hzero
    rw [Nat.eq_zero_of_not_pos hzero, Nat.add_zero, Nat.min_eq_right hroom]

theorem Same.refill (hs : Same n b) (hcap : 0 < b.capacity)
    (hexact : Exact b.capacity b.perSecond) (hnow : n.reckoned ≤ now) :
    (b.refill now).refilled ≤ now ∧ (now - (b.refill now).refilled) * b.perSecond = 0 := by
  have horder := hs.order
  have hdue := hs.due hnow
  have hsplit : now - b.refilled = (now - n.reckoned) + (n.reckoned - b.refilled) := by lia
  refine ⟨refilled_refill_le (Nat.le_trans hs.order hnow), ?_⟩
  rw [Bucket.refill]
  split
  · simp
  · -- nothing is due, and then nothing has come back at all
    rename_i hzero
    rw [hsplit, Nat.add_mul, hs.reckoned, Nat.add_zero]
    rw [hdue] at hzero
    obtain ⟨k, hk⟩ | hfills := hexact
    · rw [hk, Nat.mul_left_comm, Nat.mul_div_cancel_left _ (by omega)] at hzero
      rw [hk, Nat.mul_left_comm, Nat.eq_zero_of_not_pos hzero]
    · obtain hsame | hpos := Nat.eq_zero_or_pos (now - n.reckoned)
      · rw [hsame, Nat.zero_mul]
      · refine absurd (Nat.div_pos ?_ (by omega)) hzero
        nlinarith

theorem same_take (hs : Same n b) (hcap : 0 < b.capacity)
    (hexact : Exact b.capacity b.perSecond) (hnow : n.reckoned ≤ now) :
    (n.take now).1 = (b.take now).1 ∧ Same (n.take now).2 (b.take now).2 := by
  have hheld := hs.held hexact hnow
  have hroom := tokens_refill_le hs.room now
  obtain ⟨hrefilled, hreckoned⟩ := hs.refill hcap hexact hnow
  rw [take_eq, Nominal.take_eq, Nominal.reckon, hheld]
  by_cases hpos : 0 < (b.refill now).tokens
  · have hone : (1 : ℚ) ≤ (b.refill now).tokens := by exact_mod_cast hpos
    rw [if_pos hpos, if_pos hone]
    refine ⟨rfl, ?_, ?_, ?_, ?_, hrefilled, ?_⟩
    · simpa using hs.capacity
    · simpa using hs.perSecond
    · simp [Nat.cast_sub (show 1 ≤ (b.refill now).tokens from hpos)]
    · simp only [refill_capacity]
      omega
    · simpa using hreckoned
  · have hone : ¬ (1 : ℚ) ≤ (b.refill now).tokens := by exact_mod_cast hpos
    rw [if_neg hpos, if_neg hone]
    refine ⟨rfl, ?_, ?_, rfl, ?_, hrefilled, ?_⟩
    · simpa using hs.capacity
    · simpa using hs.perSecond
    · simpa using hroom
    · simpa using hreckoned

/-! ## Where only one token is held -/

/-- Whenever the exact bucket has something to let a frame through with, it has come back since
the other one was refilled, or the other one has something as well. -/
structure Spent (n : Nominal) (b : Bucket) : Prop where
  capacity : n.capacity = b.capacity
  perSecond : n.perSecond = b.perSecond
  order : b.refilled ≤ n.reckoned
  tokens : n.tokens = 0 ∨ 0 < b.tokens

theorem Spent.admits (hs : Spent n b) (hcap : 0 < b.capacity)
    (hyes : (n.take now).1 = true) : (b.take now).1 = true := by
  have hheld := Nominal.admits_iff.1 hyes
  have hpos : 0 < (b.refill now).tokens := by
    rw [refill]
    split
    · simp only
      omega
    · rename_i hdue
      obtain hzero | hpos := hs.tokens
      · -- what the exact bucket has now is due in the other one, too
        refine absurd (Nat.div_pos ?_ (by omega)) hdue
        have hback : (1 : ℚ) ≤ n.perSecond * ((now - n.reckoned : Nat) : ℚ) / 1000 := by
          have hle := le_trans hheld (min_le_right _ _)
          rwa [hzero, zero_add] at hle
        rw [le_div_iff₀ (by norm_num), one_mul] at hback
        have hnat : 1000 ≤ n.perSecond * (now - n.reckoned) := by exact_mod_cast hback
        have hlonger : now - n.reckoned ≤ now - b.refilled := Nat.sub_le_sub_left hs.order now
        calc 1000 ≤ b.perSecond * (now - n.reckoned) := by rwa [← hs.perSecond]
          _ ≤ b.perSecond * (now - b.refilled) := Nat.mul_le_mul_left _ hlonger
          _ = (now - b.refilled) * b.perSecond := Nat.mul_comm _ _
      · exact hpos
  rw [take_eq, if_pos hpos]

theorem Spent.take (hs : Spent n b) (hone : b.capacity = 1) (hnow : n.reckoned ≤ now)
    (hyes : (n.take now).1 = true) : Spent (n.take now).2 (b.take now).2 := by
  have hheld := Nominal.admits_iff.1 hyes
  have hfull : n.held now ≤ 1 := by
    refine le_trans (min_le_left _ _) ?_
    rw [hs.capacity, hone, Nat.cast_one]
  rw [Nominal.take_eq, if_pos hheld]
  refine ⟨by simpa using hs.capacity, by simpa using hs.perSecond, ?_, .inl ?_⟩
  · exact refilled_take_le (Nat.le_trans hs.order hnow)
  · show n.held now - 1 = 0
    linarith

/-! ## How a bucket falls behind -/

theorem refill_of_refilled (hb : b.refilled = now) : b.refill now = b := by
  simp [refill, due, hb]

theorem refill_refill : (b.refill now).refill now = b.refill now := by
  by_cases hdue : 0 < b.due now
  · exact refill_of_refilled (by rw [refill, if_pos hdue])
  · have hsame : b.refill now = b := by rw [refill, if_neg hdue]
    rw [hsame, hsame]

theorem take_refill : (b.refill now).take now = b.take now := by
  rw [take_eq, take_eq, refill_refill]

theorem after_refill {k : Nat} (hk : 0 < k) :
    after take (b.refill now) (List.replicate k now) = after take b (List.replicate k now) := by
  obtain ⟨m, rfl⟩ := Nat.exists_eq_add_of_le' hk
  rw [List.replicate_succ, after_cons, after_cons, take_refill]

/-- As many frames at one time as there are tokens, or fewer. -/
theorem after_burst {k : Nat} (hb : b.refilled = now) (hk : k ≤ b.tokens) :
    after take b (List.replicate k now) = { b with tokens := b.tokens - k } := by
  induction k generalizing b with
  | zero => rfl
  | succ k ih =>
    have htake : (b.take now).2 = { b with tokens := b.tokens - 1 } := by
      rw [take_eq, refill_of_refilled hb, if_pos (by omega)]
    rw [List.replicate_succ, after_cons, htake,
      ih (b := { b with tokens := b.tokens - 1 }) hb (Nat.le_sub_one_of_lt hk)]
    simp only [Bucket.mk.injEq, and_true]
    omega

theorem held_of_reckoned (hn : n.reckoned = now) (hroom : n.tokens ≤ n.capacity) :
    n.held now = n.tokens := by
  simp [Nominal.held, hn, hroom]

theorem nominal_take_reckon : (n.reckon now).take now = n.take now := by
  have hheld : (n.reckon now).held now = n.held now := held_of_reckoned rfl (min_le_left _ _)
  have hsame : (n.reckon now).reckon now = n.reckon now := by
    rw [Nominal.reckon, hheld]
    rfl
  rw [Nominal.take, hsame]
  rfl

theorem nominal_burst {k : Nat} (hn : n.reckoned = now) (hroom : n.tokens ≤ n.capacity)
    (hk : k ≤ n.tokens) :
    admitted Nominal.take n (List.replicate k now) = List.replicate k now ∧
      after Nominal.take n (List.replicate k now) = { n with tokens := n.tokens - k } := by
  induction k generalizing n with
  | zero => simp [admitted, after]
  | succ k ih =>
    push_cast at hk
    have hpos : (0 : ℚ) ≤ k := Nat.cast_nonneg k
    have htake : n.take now = (true, { n with tokens := n.tokens - 1 }) := by
      rw [Nominal.take_eq, held_of_reckoned hn hroom, if_pos (by linarith), hn]
    obtain ⟨hadmitted, hafter⟩ := ih (n := { n with tokens := n.tokens - 1 }) hn
      (by dsimp only; linarith) (by dsimp only; linarith)
    rw [List.replicate_succ, admitted, after_cons, htake, if_pos rfl, hadmitted, hafter]
    refine ⟨rfl, ?_⟩
    simp only [Nominal.mk.injEq, and_true]
    push_cast
    ring

/-- A cycle of some milliseconds brings some tokens, fewer than there is room for, and a fraction
of another one. -/
structure Cycle (capacity perSecond u q f : Nat) : Prop where
  brings : perSecond * u = 1000 * q + f
  some : 0 < q
  room : q < capacity
  rest : 0 < f
  fraction : f < 1000

theorem exists_cycle (hexact : ¬ Exact capacity perSecond) (hcap : 1 < capacity) :
    ∃ u q f, Cycle capacity perSecond u q f := by
  obtain ⟨hdvd, hlt⟩ := not_or.1 hexact
  have hmod : 0 < perSecond % 1000 := Nat.pos_of_ne_zero fun h0 => hdvd (Nat.dvd_of_mod_eq_zero h0)
  by_cases hfast : 1000 < perSecond
  · exact ⟨1, perSecond / 1000, perSecond % 1000, by omega, by omega, by omega, hmod, by omega⟩
  · -- just over one token
    have hpos : 0 < perSecond := by omega
    have hdiv := Nat.div_add_mod 1000 perSecond
    have hrest := Nat.mod_lt 1000 hpos
    have hslow : perSecond ≠ 1000 := fun h => hdvd ⟨1, h⟩
    refine ⟨1000 / perSecond + 1, 1, perSecond - 1000 % perSecond, ?_, Nat.one_pos, hcap, ?_, ?_⟩
    · rw [Nat.mul_add]
      omega
    · omega
    · omega

/-- How often something can be put together until it is a whole. -/
theorem exists_last_short {f : Nat} (hf : 0 < f) : ∃ j, j * f < 1000 ∧ 1000 ≤ (j + 1) * f := by
  refine ⟨999 / f, ?_, ?_⟩
  · have hle := Nat.div_mul_le_self 999 f
    omega
  · have hlt := Nat.lt_div_mul_add hf (a := 999)
    lia

namespace Cycle

variable {u q f j : Nat}

theorem held (hc : Cycle capacity perSecond u q f) (x : ℚ) :
    Nominal.held ⟨x, capacity, perSecond, j * u⟩ ((j + 1) * u) =
      min (capacity : ℚ) (x + (q + f / 1000)) := by
  have helapsed : (j + 1) * u - j * u = u := by
    rw [← Nat.sub_mul, Nat.add_sub_cancel_left, Nat.one_mul]
  have hbrings : (perSecond : ℚ) * u = 1000 * q + f := by exact_mod_cast hc.brings
  rw [Nominal.held, helapsed, hbrings]
  congr 2
  ring

theorem refill (hc : Cycle capacity perSecond u q f) :
    Bucket.refill ⟨0, capacity, perSecond, j * u⟩ ((j + 1) * u) =
      ⟨q, capacity, perSecond, (j + 1) * u⟩ := by
  have helapsed : (j + 1) * u - j * u = u := by
    rw [← Nat.sub_mul, Nat.add_sub_cancel_left, Nat.one_mul]
  have hdue : Bucket.due ⟨0, capacity, perSecond, j * u⟩ ((j + 1) * u) = q := by
    have hfraction := hc.fraction
    rw [Bucket.due, helapsed, Nat.mul_comm, hc.brings]
    omega
  rw [Bucket.refill, hdue, if_pos hc.some, Nat.zero_add, Nat.min_eq_right (Nat.le_of_lt hc.room)]

/-- As many frames after a cycle as the exact bucket has tokens for. -/
theorem nominal_round (hc : Cycle capacity perSecond u q f) {x : ℚ} {m : Nat} (hm : 0 < m)
    (hheld : (m : ℚ) ≤ min (capacity : ℚ) (x + (q + f / 1000))) :
    admitted Nominal.take ⟨x, capacity, perSecond, j * u⟩ (List.replicate m ((j + 1) * u)) =
        List.replicate m ((j + 1) * u) ∧
      after Nominal.take ⟨x, capacity, perSecond, j * u⟩ (List.replicate m ((j + 1) * u)) =
        ⟨min (capacity : ℚ) (x + (q + f / 1000)) - m, capacity, perSecond, (j + 1) * u⟩ := by
  obtain ⟨k, rfl⟩ := Nat.exists_eq_add_of_le' hm
  have hreckoned :
      (Nominal.reckon ⟨x, capacity, perSecond, j * u⟩ ((j + 1) * u)).reckoned = (j + 1) * u := rfl
  have hburst := nominal_burst (k := k + 1) hreckoned (min_le_left _ _)
    (by rw [Nominal.reckon, hc.held]; exact hheld)
  rw [List.replicate_succ, admitted, after_cons, nominal_take_reckon] at hburst
  rw [List.replicate_succ, admitted, after_cons, ← hc.held]
  exact hburst

/-- As many frames after a cycle as the other bucket has tokens for. -/
theorem round (hc : Cycle capacity perSecond u q f) :
    after take ⟨0, capacity, perSecond, j * u⟩ (List.replicate q ((j + 1) * u)) =
      ⟨0, capacity, perSecond, (j + 1) * u⟩ := by
  rw [← after_refill hc.some, hc.refill, after_burst rfl (Nat.le_refl q), Nat.sub_self]

/-- The fractions of some cycles are in the exact bucket, and are not in the other one. -/
theorem exists_lag (hc : Cycle capacity perSecond u q f) (hj : j * f < 1000) :
    ∃ times : List Instant, times.Pairwise (· ≤ ·) ∧ (∀ v ∈ times, v ≤ j * u) ∧
      admitted Nominal.take (.full capacity perSecond 0) times = times ∧
      after Nominal.take (.full capacity perSecond 0) times =
        ⟨j * f / 1000, capacity, perSecond, j * u⟩ ∧
      after take (full capacity perSecond 0) times = ⟨0, capacity, perSecond, j * u⟩ := by
  induction j with
  | zero =>
    -- the first frames empty both buckets
    have hreckoned : (Nominal.full capacity perSecond 0).reckoned = 0 := rfl
    have hrefilled : (full capacity perSecond 0).refilled = 0 := rfl
    obtain ⟨hadmitted, hafter⟩ := nominal_burst (k := capacity) hreckoned (le_refl _) (le_refl _)
    have hafter' := after_burst (k := capacity) hrefilled (Nat.le_refl _)
    refine ⟨List.replicate capacity 0, ?_, ?_, hadmitted, ?_, ?_⟩
    · simp [List.pairwise_replicate]
    · simp
    · rw [hafter]
      simp [Nominal.full]
    · rw [hafter']
      simp [full]
  | succ j ih =>
    obtain ⟨times, hordered, hle, hadmitted, hnominal, hbucket⟩ := ih (by lia)
    have hroom : (q : ℚ) + 1 ≤ capacity := by exact_mod_cast hc.room
    have hfraction : ((j : ℚ) + 1) * f < 1000 := by exact_mod_cast hj
    have hnonneg : (0 : ℚ) ≤ j * f := by positivity
    have hf : (0 : ℚ) ≤ f := Nat.cast_nonneg f
    have hheld : min (capacity : ℚ) (j * f / 1000 + (q + f / 1000)) =
        q + ((j : ℚ) + 1) * f / 1000 := by
      rw [min_eq_right] <;> linarith
    obtain ⟨hround, hround'⟩ := hc.nominal_round (j := j) (x := j * f / 1000) hc.some (by
      rw [hheld]
      linarith)
    have hlater : j * u ≤ (j + 1) * u := Nat.mul_le_mul_right u (Nat.le_succ j)
    refine ⟨times ++ List.replicate q ((j + 1) * u), ?_, ?_, ?_, ?_, ?_⟩
    · refine List.pairwise_append.2 ⟨hordered, by simp [List.pairwise_replicate], ?_⟩
      intro v hv w hw
      rw [List.eq_of_mem_replicate hw]
      exact Nat.le_trans (hle v hv) hlater
    · intro v hv
      obtain hv | hv := List.mem_append.1 hv
      · exact Nat.le_trans (hle v hv) hlater
      · exact Nat.le_of_eq (List.eq_of_mem_replicate hv)
    · rw [admitted_append, hadmitted, hnominal, hround]
    · rw [after_append, hnominal, hround', hheld]
      simp only [Nominal.mk.injEq, and_true]
      push_cast
      ring
    · rw [after_append, hbucket, hc.round]

/-- In the end the fractions make a token, and the other bucket is behind. -/
theorem exists_behind (hc : Cycle capacity perSecond u q f) : ∃ earlier now,
    (0 :: (earlier ++ [now])).Pairwise (· ≤ ·) ∧
      admitted Nominal.take (.full capacity perSecond 0) (earlier ++ [now]) = earlier ++ [now] ∧
      (take (after take (full capacity perSecond 0) earlier) now).1 = false := by
  obtain ⟨j, hfew, hmany⟩ := exists_last_short hc.rest
  obtain ⟨times, hordered, hle, hadmitted, hnominal, hbucket⟩ := hc.exists_lag hfew
  have hroom : (q : ℚ) + 1 ≤ capacity := by exact_mod_cast hc.room
  have hwhole : (1000 : ℚ) ≤ ((j : ℚ) + 1) * f := by exact_mod_cast hmany
  obtain ⟨hround, -⟩ := hc.nominal_round (j := j) (x := j * f / 1000) (Nat.succ_pos q) (by
    rw [Nat.cast_succ]
    exact le_min hroom (by linarith))
  have hlater : j * u ≤ (j + 1) * u := Nat.mul_le_mul_right u (Nat.le_succ j)
  have hsplit : times ++ List.replicate q ((j + 1) * u) ++ [(j + 1) * u] =
      times ++ List.replicate (q + 1) ((j + 1) * u) := by
    rw [List.append_assoc, List.replicate_succ']
  refine ⟨times ++ List.replicate q ((j + 1) * u), (j + 1) * u, ?_, ?_, ?_⟩
  · rw [hsplit]
    refine List.pairwise_cons.2 ⟨fun v _ => Nat.zero_le v, List.pairwise_append.2
      ⟨hordered, by simp [List.pairwise_replicate], fun v hv w hw => ?_⟩⟩
    rw [List.eq_of_mem_replicate hw]
    exact Nat.le_trans (hle v hv) hlater
  · rw [hsplit, admitted_append, hadmitted, hnominal, hround]
  · rw [after_append, hbucket, hc.round, take_eq, refill_of_refilled rfl, if_neg (Nat.lt_irrefl 0)]

end Cycle

/-- A bucket of one token can let a frame through too early, and miss a later one for it. -/
theorem exists_early (hpos : 0 < perSecond) (hslow : perSecond < 1000) : ∃ earlier now,
    (0 :: (earlier ++ [now])).Pairwise (· ≤ ·) ∧
      ((after Nominal.take (.full 1 perSecond 0) earlier).take now).1 = true ∧
      ((after take (full 1 perSecond 0) earlier).take now).1 = false := by
  -- nothing is due after this many milliseconds, and a token is after one more
  obtain ⟨v, hnone, hone⟩ := exists_last_short hpos
  -- the second frame, which the exact bucket refuses, costs the other one all that has come back
  have hnoneQ : (v : ℚ) * perSecond < 1000 := by exact_mod_cast hnone
  have honeQ : (1000 : ℚ) ≤ (v + 1) * perSecond := by exact_mod_cast hone
  have hslowQ : (perSecond : ℚ) < 1000 := by exact_mod_cast hslow
  refine ⟨[v, v + 1], v + 1 + v, by simp, ?_, ?_⟩
  · have hfirst : ((Nominal.full 1 perSecond 0).take v).2 = ⟨0, 1, perSecond, v⟩ := by
      have hheld : (Nominal.full 1 perSecond 0).held v = 1 := by
        rw [Nominal.held, Nominal.full, Nat.cast_one, min_eq_left]
        have : (0 : ℚ) ≤ perSecond * ((v - 0 : Nat) : ℚ) / 1000 := by positivity
        linarith
      rw [Nominal.take_eq, hheld, if_pos (le_refl 1), sub_self]
      rfl
    have hsecond : (Nominal.take ⟨0, 1, perSecond, v⟩ (v + 1)).2 =
        ⟨perSecond / 1000, 1, perSecond, v + 1⟩ := by
      have hheld : Nominal.held ⟨0, 1, perSecond, v⟩ (v + 1) = perSecond / 1000 := by
        rw [Nominal.held, Nat.add_sub_cancel_left, Nat.cast_one, mul_one, zero_add, min_eq_right]
        linarith
      rw [Nominal.take_eq, hheld, if_neg (by linarith), Nominal.reckon, hheld]
    rw [after_cons, after_cons, hfirst, hsecond, after_nil, Nominal.admits_iff, Nominal.held,
      Nat.add_sub_cancel_left, Nat.cast_one]
    exact le_min (le_refl 1) (by linarith)
  · have hfirst : ((full 1 perSecond 0).take v).2 = ⟨0, 1, perSecond, 0⟩ := by
      have hdue : ¬ 0 < (full 1 perSecond 0).due v := by
        simp only [due, full, Nat.sub_zero]
        omega
      rw [take_eq, refill, if_neg hdue]
      rfl
    have hsecond : (take ⟨0, 1, perSecond, 0⟩ (v + 1)).2 = ⟨0, 1, perSecond, v + 1⟩ := by
      have hdue : 0 < due ⟨0, 1, perSecond, 0⟩ (v + 1) := by
        simp only [due, Nat.sub_zero]
        omega
      have hfull : min 1 (0 + due ⟨0, 1, perSecond, 0⟩ (v + 1)) = 1 := by omega
      rw [take_eq, refill, if_pos hdue, hfull]
      rfl
    have hdue : ¬ 0 < due ⟨0, 1, perSecond, v + 1⟩ (v + 1 + v) := by
      simp only [due, Nat.add_sub_cancel_left]
      omega
    rw [after_cons, after_cons, hfirst, hsecond, after_nil, take_eq, refill, if_neg hdue]
    rfl

/-! ## All of it -/

/-- A bucket lets a frame through whenever the exact one would, after the same frames. -/
def Generous (capacity perSecond : Nat) : Prop :=
  ∀ (opened : Instant) (earlier : List Instant) (now : Instant),
    (opened :: (earlier ++ [now])).Pairwise (· ≤ ·) →
      ((after Nominal.take (.full capacity perSecond opened) earlier).take now).1 = true →
        ((after take (full capacity perSecond opened) earlier).take now).1 = true

/-- A bucket refuses nothing to those to whom the exact one refuses nothing. -/
def Fair (capacity perSecond : Nat) : Prop :=
  ∀ (opened : Instant) (times : List Instant), (opened :: times).Pairwise (· ≤ ·) →
    admitted Nominal.take (.full capacity perSecond opened) times = times →
      admitted take (full capacity perSecond opened) times = times

theorem Generous.fair (hg : Generous capacity perSecond) : Fair capacity perSecond := by
  intro opened times hordered hall
  rw [admitted_eq_self] at hall ⊢
  rintro earlier now later rfl
  refine hg opened earlier now (hordered.sublist ?_) (hall earlier now later rfl)
  simp

theorem Same.admits (hs : Same n b) (hcap : 0 < b.capacity)
    (hexact : Exact b.capacity b.perSecond) {earlier : List Instant}
    (ordered : (n.reckoned :: (earlier ++ [now])).Pairwise (· ≤ ·)) :
    ((after Nominal.take n earlier).take now).1 = ((after take b earlier).take now).1 := by
  induction earlier generalizing n b with
  | nil => exact (same_take hs hcap hexact (by simpa using ordered)).1
  | cons first earlier ih =>
    obtain ⟨hfirst, hrest⟩ := List.pairwise_cons.1 ordered
    have hsame := (same_take hs hcap hexact (hfirst first (by simp))).2
    rw [after_cons, after_cons]
    exact ih hsame (by rwa [take_capacity]) (by rwa [take_capacity, take_perSecond])
      (by rwa [Nominal.reckoned_take])

theorem Spent.admitted (hs : Spent n b) (hone : b.capacity = 1)
    (ordered : (n.reckoned :: times).Pairwise (· ≤ ·))
    (hall : admitted Nominal.take n times = times) : admitted Bucket.take b times = times := by
  induction times generalizing n b with
  | nil => rfl
  | cons now later ih =>
    obtain ⟨hnow, hlater⟩ := List.pairwise_cons.1 ordered
    rw [admitted_cons_eq_self] at hall ⊢
    obtain ⟨hyes, hrest⟩ := hall
    refine ⟨hs.admits (by omega) hyes, ?_⟩
    exact ih (hs.take hone (hnow now (by simp)) hyes) (by rwa [take_capacity])
      (by rwa [Nominal.reckoned_take]) hrest

theorem generous_iff (hcap : 0 < capacity) :
    Generous capacity perSecond ↔ Exact capacity perSecond := by
  constructor
  · intro hg
    by_contra hexact
    -- with one token it takes a frame that the exact bucket refuses, with more it does not
    obtain hmany | rfl := Nat.lt_or_eq_of_le (show 1 ≤ capacity from hcap)
    · obtain ⟨u, q, f, hc⟩ := exists_cycle hexact hmany
      obtain ⟨earlier, now, hordered, hall, hno⟩ := hc.exists_behind
      have hyes := hg 0 earlier now hordered ((admitted_eq_self _ _).1 hall earlier now [] rfl)
      rw [hyes] at hno
      cases hno
    · obtain ⟨hdvd, hlt⟩ := not_or.1 hexact
      have hpos : 0 < perSecond := Nat.pos_of_ne_zero fun h0 => hdvd (h0 ▸ Nat.dvd_zero 1000)
      obtain ⟨earlier, now, hordered, hyes, hno⟩ := exists_early hpos (by omega)
      rw [hg 0 earlier now hordered hyes] at hno
      cases hno
  · intro hexact opened earlier now hordered hyes
    rwa [(same_full capacity perSecond opened).admits hcap hexact hordered] at hyes

theorem fair_iff (hcap : 0 < capacity) :
    Fair capacity perSecond ↔ capacity = 1 ∨ Exact capacity perSecond := by
  constructor
  · intro hfair
    by_contra hnot
    obtain ⟨hone, hexact⟩ := not_or.1 hnot
    obtain ⟨u, q, f, hc⟩ := exists_cycle hexact (by omega)
    obtain ⟨earlier, now, hordered, hall, hno⟩ := hc.exists_behind
    have hyes := (admitted_eq_self _ _).1 (hfair 0 _ hordered hall) earlier now [] rfl
    rw [hyes] at hno
    cases hno
  · rintro (rfl | hexact)
    · intro opened times hordered hall
      exact Spent.admitted ⟨rfl, rfl, Nat.le_refl _, .inr Nat.one_pos⟩ rfl hordered hall
    · exact ((generous_iff hcap).2 hexact).fair

/-- When a bucket keeps up with the exact one, and when it does so for those who stay within
what the exact one allows. -/
theorem keeps_up_iff (hcap : 0 < capacity) :
    (Generous capacity perSecond ↔ Exact capacity perSecond) ∧
      (Fair capacity perSecond ↔ capacity = 1 ∨ Exact capacity perSecond) :=
  ⟨generous_iff hcap, fair_iff hcap⟩

theorem keeps_up_thousands : 0 < 50 ∧ Generous 50 2000 ∧ Fair 50 2000 := by
  refine ⟨by decide, ?_, ?_⟩
  · exact (keeps_up_iff (by decide)).1.2 (.inl ⟨2, rfl⟩)
  · exact (keeps_up_iff (by decide)).2.2 (.inr (.inl ⟨2, rfl⟩))

/-- Nearly a token is lost at the third frame, so that the fourth one is refused although the exact
bucket has a whole one again. -/
theorem falls_behind : 0 < 2 ∧ ([0, 0, 0, 79, 80] : List Instant).Pairwise (· ≤ ·) ∧
    admitted Nominal.take (.full 2 25 0) [0, 0, 79, 80] = [0, 0, 79, 80] ∧
    ((after take (full 2 25 0) [0, 0, 79]).take 80).1 = false := by
  refine ⟨by decide, by decide, ?_, by decide⟩
  norm_num [admitted, Nominal.take_eq, Nominal.held, Nominal.full]

end Bucket

end Switchboard
