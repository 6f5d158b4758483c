import Switchboard.Json.Reader.Basic

/-! # Reading arrays

* `Json.list` — the items of an array, each read by a given reader. -/

namespace Switchboard.Json

open Switchboard.Bytes (ascii)

/-- The items after the first.  `done` holds those read so far, the last one first. -/
def listTail {α : Type} (item : Reader α) (done : List α) (s : List UInt8) : Outcome (List α) :=
  match _h : skipBlanks s with
  | [] => failOn .eofInList []
  | c :: t =>
    if c = ascii ']' then .ok (done.reverse, t)
    else if c = ascii ',' then
      match _h' : skipBlanks t with
      | [] => failOn .eofInValue []
      | d :: u =>
        if d = ascii ']' then failOn .trailingComma (d :: u)
        else
          match _h'' : item.run (d :: u) with
          | .error e => .error e
          | .ok (a, r) => listTail item (a :: done) r
    else failOn .expectedListCommaOrEnd (c :: t)
termination_by s.length
decreasing_by
  have := length_lt_of_skipBlanks _h
  have := length_lt_of_skipBlanks _h'
  have := item.shrinks _h''
  simp only [List.length_cons] at this
  omega

def listItems {α : Type} (item : Reader α) (s : List UInt8) : Outcome (List α) :=
  match skipBlanks s with
  | [] => failOn .eofInList []
  | c :: t =>
    if c = ascii ']' then .ok ([], t)
    else
      match item.run (c :: t) with
      | .error e => .error e
      | .ok (a, r) => listTail item [a] r

/-- The items of an array, read after its opening bracket. -/
def list {α : Type} (item : Reader α) (s : List UInt8) : Outcome (List α) :=
  closing (·.inArray s) (listItems item s)

theorem length_lt_of_listTail {α : Type} {item : Reader α} {done as : List α} {s r : List UInt8}
    (h : listTail item done s = .ok (as, r)) : r.length < s.length := by
  fun_induction listTail item done s with
  | case1 => simp [failOn] at h
  | case2 =>
    rename_i ht
    have := length_lt_of_skipBlanks ht
    simp only [Except.ok.injEq, Prod.mk.injEq] at h
    rw [← h.2]
    exact this
  | case3 => simp [failOn] at h
  | case4 => simp [failOn] at h
  | case5 => simp at h
  | case6 =>
    rename_i hu _ _ _ hv ht _ ih
    have := length_lt_of_skipBlanks ht
    have := length_lt_of_skipBlanks hu
    have := item.shrinks hv
    have := ih h
    simp only [List.length_cons] at *
    omega
  | case7 => simp [failOn] at h

theorem length_lt_of_listItems {α : Type} {item : Reader α} {as : List α} {s r : List UInt8}
    (h : listItems item s = .ok (as, r)) : r.length < s.length := by
  unfold listItems at h
  split at h
  · simp [failOn] at h
  · rename_i c t ht
    have := length_lt_of_skipBlanks ht
    split at h
    · simp only [Except.ok.injEq, Prod.mk.injEq] at h
      rw [← h.2]
      exact this
    · split at h
      · simp at h
      · rename_i a u hu
        have := item.shrinks hu
        have := length_lt_of_listTail h
        simp only [List.length_cons] at *
        omega

theorem length_lt_of_list {α : Type} {item : Reader α} {as : List α} {s r : List UInt8}
    (h : list item s = .ok (as, r)) : r.length < s.length :=
  length_lt_of_listItems (eq_ok_of_closing h)

end Switchboard.Json
