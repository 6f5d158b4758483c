import Std.Data.ExtTreeMap

/-! # Tables

A table holds a value for each of its keys, in the order of the keys; two tables with
the same entries are equal.

* `Table` — tables, with the library's operations;
* `Table.values` — the values in the order of their keys. -/

namespace Switchboard

/-- A table from keys to values. -/
abbrev Table (κ : Type) (α : Type) [Ord κ] [Std.TransOrd κ] : Type := Std.ExtTreeMap κ α compare

namespace Table

variable {κ α : Type} [Ord κ] [Std.TransOrd κ]

/-- The values in the order of their keys. -/
def values (t : Table κ α) : List α := t.toList.map Prod.snd

theorem erase_of_not_mem [Std.LawfulEqOrd κ] {t : Table κ α} {k : κ} (h : k ∉ t) :
    t.erase k = t := by
  apply Std.ExtTreeMap.ext_getElem?
  intro k'
  rw [Std.ExtTreeMap.getElem?_erase]
  split
  · rename_i hk
    have : k = k' := Std.LawfulEqOrd.eq_of_compare hk
    rw [← this]
    symm
    simpa using h
  · rfl

theorem size_erase_lt {t : Table κ α} {k : κ} (h : k ∈ t) : (t.erase k).size < t.size := by
  have hpos : 0 < t.size := by
    rw [Nat.pos_iff_ne_zero]
    intro h0
    rw [Std.ExtTreeMap.eq_empty_iff_size_eq_zero.2 h0] at h
    simp at h
  rw [Std.ExtTreeMap.size_erase]
  simp only [Std.ExtTreeMap.contains_iff_mem, h, if_true]
  omega

end Table

end Switchboard
