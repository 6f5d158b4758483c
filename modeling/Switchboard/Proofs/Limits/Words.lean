import Switchboard.Limits.Words

/-! # Nothing wraps

A bucket in words does what a bucket in numbers does, however full it is, however fast it
refills and however long nobody has asked.  The long word in which the elapsed time is
multiplied is long enough for every time that a clock can measure; after that both clip.

* `toNat_due` — what has come back;
* `numbers_take` — one frame.
-/

namespace Switchboard.Bucket.Words

variable {w : Words} {now : Instant}

theorem toNat_clip (n : BitVec 128) : (clip n).toNat = min n.toNat (Limit.bits32 - 1) := by
  unfold clip largest Limit.bits32
  split
  · rename_i hlt
    rw [BitVec.lt_def, BitVec.toNat_ofNat] at hlt
    rw [UInt32.toNat_ofBitVec, BitVec.toNat_setWidth]
    omega
  · rename_i hge
    rw [BitVec.lt_def, BitVec.toNat_ofNat] at hge
    change 4294967295 = _
    omega

theorem toNat_plus (m n : UInt32) :
    (plus m n).toNat = min (m.toNat + n.toNat) (Limit.bits32 - 1) := by
  have hm := m.toNat_lt
  have hn := n.toNat_lt
  unfold plus largest Limit.bits32
  split
  · rename_i hlt
    rw [UInt32.lt_iff_toNat_lt, UInt32.toNat_add] at hlt
    change 4294967295 = _
    omega
  · rename_i hge
    rw [UInt32.lt_iff_toNat_lt, UInt32.toNat_add] at hge
    rw [UInt32.toNat_add]
    omega

theorem toNat_min (m n : UInt32) : (min m n).toNat = min m.toNat n.toNat := by
  change (if m ≤ n then m else n).toNat = _
  split <;>
  · rename_i hle
    rw [UInt32.le_iff_toNat_le] at hle
    omega

/-- The product fits into a long word, however long nobody has asked. -/
theorem toNat_due (hnow : now - w.refilled < longest) :
    (w.due now).toNat = w.numbers.due now := by
  have hrate := w.perSecond.toNat_lt
  unfold longest Limit.bits64 at hnow
  -- the milliseconds of all seconds that 64 bits can count, times any rate of 32 bits
  have hfits : (now - w.refilled) * w.perSecond.toNat < 2 ^ 128 := by
    calc (now - w.refilled) * w.perSecond.toNat
        ≤ 18446744073709551616000 * 2 ^ 32 := Nat.mul_le_mul (by lia) (by lia)
      _ < 2 ^ 128 := by decide
  have helapsed : (now - w.refilled) % 2 ^ 128 = now - w.refilled := Nat.mod_eq_of_lt (by lia)
  have hwide : w.perSecond.toNat % 2 ^ 128 = w.perSecond.toNat := Nat.mod_eq_of_lt (by lia)
  simp only [due, Bucket.due, numbers, BitVec.toNat_udiv, BitVec.toNat_mul, BitVec.toNat_ofNat,
    BitVec.toNat_setWidth, UInt32.toNat_toBitVec, helapsed, hwide, Nat.mod_eq_of_lt hfits]
  rfl

theorem numbers_refill (hnow : now - w.refilled < longest) :
    (w.refill now).numbers = w.numbers.refill now := by
  have hdue := toNat_due hnow
  have hcap := w.capacity.toNat_lt
  unfold refill Bucket.refill
  by_cases hpos : 0 < w.numbers.due now
  · have hpos' : 0 < w.due now := by
      rw [BitVec.lt_def, hdue]
      exact hpos
    rw [if_pos hpos, if_pos hpos']
    have htokens : (min w.capacity (plus w.tokens (clip (w.due now)))).toNat =
        min w.capacity.toNat (w.tokens.toNat + w.numbers.due now) := by
      rw [toNat_min, toNat_plus, toNat_clip, hdue, Limit.bits32]
      omega
    simp only [numbers, htokens]
  · have hpos' : ¬ 0 < w.due now := by
      rw [BitVec.lt_def, hdue]
      exact hpos
    rw [if_neg hpos, if_neg hpos']

/-- Nothing wraps: a bucket in words does what a bucket in numbers does. -/
theorem numbers_take (hnow : now - w.refilled < longest) :
    w.numbers.take now = ((w.take now).1, (w.take now).2.numbers) := by
  unfold take Bucket.take
  rw [← numbers_refill hnow]
  dsimp only
  by_cases hpos : 0 < (w.refill now).tokens
  · have hone : (1 : UInt32) ≤ (w.refill now).tokens := by
      rw [UInt32.le_iff_toNat_le]
      exact hpos
    have hpos' : 0 < (w.refill now).numbers.tokens := hpos
    rw [if_pos hpos, if_pos hpos']
    simp [numbers, UInt32.toNat_sub_of_le _ _ hone]
  · have hpos' : ¬ 0 < (w.refill now).numbers.tokens := hpos
    rw [if_neg hpos, if_neg hpos']

end Switchboard.Bucket.Words
