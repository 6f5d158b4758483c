import Switchboard.Table

/-! # Laws of tables

The library compares keys by their order.  The orders used here are lawful, so every
look-up can be stated with equality of keys instead, and the list of values can be
read as a set of entries.

* `mem_iff_lookup` — a key is in a table if it can be looked up;
* `lookup_insert`, `lookup_erase`, `lookup_filter` — looking up after a change;
* `mem_values`, `nodup_values` — what a table holds, and that it holds nothing twice;
* `erase_insert`, `insert_insert` — changing the same entry twice. -/

namespace Switchboard.Table

variable {κ α : Type} [Ord κ] [Std.TransOrd κ]

theorem mem_iff_lookup {t : Table κ α} {k : κ} : k ∈ t ↔ ∃ v, t[k]? = some v := by
  rw [Std.ExtTreeMap.mem_iff_isSome_getElem?, Option.isSome_iff_exists]

theorem mem_of_lookup {t : Table κ α} {k : κ} {v : α} (h : t[k]? = some v) : k ∈ t :=
  mem_iff_lookup.2 ⟨v, h⟩

theorem not_mem_iff_lookup {t : Table κ α} {k : κ} : k ∉ t ↔ t[k]? = none := by
  rw [mem_iff_lookup]
  cases t[k]? <;> simp

variable [Std.LawfulEqOrd κ]

/-! ## Looking up after a change -/

theorem lookup_insert [DecidableEq κ] (t : Table κ α) (k k' : κ) (v : α) :
    (t.insert k v)[k']? = if k = k' then some v else t[k']? := by
  rw [Std.ExtTreeMap.getElem?_insert]
  by_cases hk : k = k'
  · simp [hk]
  · simp [hk, Std.LawfulEqCmp.compare_eq_iff_eq]

theorem lookup_insert_eq_some [DecidableEq κ] {t : Table κ α} {k k' : κ} {v w : α} :
    (t.insert k v)[k']? = some w ↔ k = k' ∧ v = w ∨ k ≠ k' ∧ t[k']? = some w := by
  rw [lookup_insert]
  by_cases hk : k = k' <;> simp [hk]

theorem lookup_erase [DecidableEq κ] (t : Table κ α) (k k' : κ) :
    (t.erase k)[k']? = if k = k' then none else t[k']? := by
  rw [Std.ExtTreeMap.getElem?_erase]
  by_cases hk : k = k'
  · simp [hk]
  · simp [hk, Std.LawfulEqCmp.compare_eq_iff_eq]

theorem lookup_filter (t : Table κ α) (f : κ → α → Bool) (k : κ) :
    (t.filter f)[k]? = t[k]?.filter (f k) :=
  Std.ExtTreeMap.getElem?_filter'

theorem lookup_filter_eq_some {t : Table κ α} {f : κ → α → Bool} {k : κ} {v : α} :
    (t.filter f)[k]? = some v ↔ t[k]? = some v ∧ f k v = true := by
  rw [lookup_filter, Option.filter_eq_some_iff]

/-! ## Tables as sets of entries -/

theorem mem_values {t : Table κ α} {v : α} : v ∈ t.values ↔ ∃ k : κ, t[k]? = some v := by
  unfold values
  rw [List.mem_map]
  constructor
  · rintro ⟨⟨k, w⟩, hmem, rfl⟩
    exact ⟨k, Std.ExtTreeMap.mem_toList_iff_getElem?_eq_some.1 hmem⟩
  · rintro ⟨k, hk⟩
    exact ⟨(k, v), Std.ExtTreeMap.mem_toList_iff_getElem?_eq_some.2 hk, rfl⟩

/-- A table whose values tell their keys holds none of them twice. -/
theorem nodup_values {t : Table κ α} {key : α → κ}
    (h : ∀ (k : κ) (v : α), t[k]? = some v → key v = k) : t.values.Nodup := by
  unfold values
  refine List.pairwise_map.2 (Std.ExtTreeMap.distinct_keys_toList.imp_of_mem ?_)
  rintro ⟨k, v⟩ ⟨k', v'⟩ hmem hmem' hne rfl
  rw [Std.ExtTreeMap.mem_toList_iff_getElem?_eq_some] at hmem hmem'
  apply hne
  rw [Std.LawfulEqCmp.compare_eq_iff_eq]
  exact (h k v hmem).symm.trans (h k' v hmem')

/-- Putting a value where it already is changes nothing. -/
theorem insert_of_lookup [DecidableEq κ] {t : Table κ α} {k : κ} {v : α} (h : t[k]? = some v) :
    t.insert k v = t := by
  apply Std.ExtTreeMap.ext_getElem?
  intro k'
  rw [lookup_insert]
  by_cases hk : k = k'
  · rw [if_pos hk, ← hk, h]
  · rw [if_neg hk]

/-- What is put in and taken out again is gone, whether it was there before or not. -/
theorem erase_insert [DecidableEq κ] (t : Table κ α) (k : κ) (v : α) :
    (t.insert k v).erase k = t.erase k := by
  apply Std.ExtTreeMap.ext_getElem?
  intro k'
  rw [lookup_erase, lookup_erase, lookup_insert]
  by_cases hk : k = k'
  · rw [if_pos hk, if_pos hk]
  · rw [if_neg hk, if_neg hk, if_neg hk]

theorem insert_insert [DecidableEq κ] (t : Table κ α) (k : κ) (v w : α) :
    (t.insert k v).insert k w = t.insert k w := by
  apply Std.ExtTreeMap.ext_getElem?
  intro k'
  rw [lookup_insert, lookup_insert, lookup_insert]
  by_cases hk : k = k'
  · rw [if_pos hk, if_pos hk]
  · rw [if_neg hk, if_neg hk, if_neg hk]

end Switchboard.Table
