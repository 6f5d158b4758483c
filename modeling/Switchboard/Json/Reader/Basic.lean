import Switchboard.Digest.Bytes
import Switchboard.Json.Fault

/-! # Readers of JSON text

Each reader takes the bytes that are left and gives back what it read with the
bytes after it, or a failure.  A reader consumes at least one byte, and says so in
its type; the loops over the items of an array and the members of an object end
because of that.

* `Json.Outcome`, `Json.Failure` — what a reader gives back;
* `Json.Failure.inArray`, `Json.Failure.inObject` — what becomes of a failure where the
  array or the object ends that it was met in;
* `Json.attempt` — where reading goes on after a failure;
* `Json.Reader` — a reader that shortens the text;
* `Json.skipBlanks` — passes over what may stand between tokens;
* `Json.word` — one of the three words. -/

namespace Switchboard.Json

open Switchboard.Bytes (ascii)

/-- Why reading failed and how far it had come.  Both places are told by the number of
bytes behind them: the place that goes with the fault, unless it is not settled yet, and
the place from which reading could go on. -/
structure Failure where
  fault : Fault
  behind : Option Nat
  left : Nat
deriving DecidableEq, Repr

/-- What was read and the bytes after it, or a failure. -/
abbrev Outcome (α : Type) := Except Failure (α × List UInt8)

/-- A failure before the first of the bytes left. -/
def failAt {α : Type} (fault : Fault) (rest : List UInt8) : Outcome α :=
  .error ⟨fault, some rest.length, rest.length⟩

/-- A failure over the first of the bytes left, which is looked at and not taken. -/
def failOn {α : Type} (fault : Fault) (rest : List UInt8) : Outcome α :=
  .error ⟨fault, some (rest.length - 1), rest.length⟩

/-- A failure that is told with the place where the array or object ends in which it is
met. -/
def failWithin {α : Type} (fault : Fault) (rest : List UInt8) : Outcome α :=
  .error ⟨fault, none, rest.length⟩

/-- A reader: what it gives back is followed by fewer bytes than it was given. -/
structure Reader (α : Type) where
  run : List UInt8 → Outcome α
  shrinks : ∀ {s : List UInt8} {a : α} {r : List UInt8}, run s = .ok (a, r) → r.length < s.length

/-! ## Blanks -/

theorem length_dropWhile_le (p : UInt8 → Bool) (s : List UInt8) :
    (s.dropWhile p).length ≤ s.length :=
  (List.dropWhile_sublist p).length_le

/-- The four characters that may stand between tokens. -/
def isBlank (c : UInt8) : Bool :=
  c = ascii ' ' ∨ c = ascii '\n' ∨ c = ascii '\t' ∨ c = ascii '\r'

/-- The text without the blanks in front. -/
def skipBlanks (s : List UInt8) : List UInt8 := s.dropWhile isBlank

theorem length_skipBlanks_le (s : List UInt8) : (skipBlanks s).length ≤ s.length :=
  length_dropWhile_le isBlank s

theorem length_lt_of_skipBlanks {s r : List UInt8} {c : UInt8} (h : skipBlanks s = c :: r) :
    r.length < s.length := by
  have := length_skipBlanks_le s
  rw [h, List.length_cons] at this
  omega

/-! ## Failures inside arrays and objects -/

/-- The bytes of a text from which reading could go on after a failure. -/
def Failure.rest (e : Failure) (s : List UInt8) : List UInt8 := s.drop (s.length - e.left)

theorem Failure.length_rest_le (e : Failure) (s : List UInt8) : (e.rest s).length ≤ s.length := by
  rw [rest, List.length_drop]
  exact Nat.sub_le _ _

/-- A failure after which reading has gone on up to `rest`.  If its place was not settled
it is now. -/
def Failure.upTo (e : Failure) (rest : List UInt8) : Failure :=
  ⟨e.fault, e.behind.or (some rest.length), rest.length⟩

/-- A failure inside an array that was read from `s`.  The bracket that closes the array is
taken if it comes next, and so is a comma. -/
def Failure.inArray (e : Failure) (s : List UInt8) : Failure :=
  match skipBlanks (e.rest s) with
  | [] => e.upTo []
  | c :: t =>
    if c = ascii ']' then e.upTo t
    else if c = ascii ',' then e.upTo (skipBlanks t)
    else e.upTo (c :: t)

/-- A failure inside an object that was read from `s`.  The brace that closes the object is
taken if it comes next. -/
def Failure.inObject (e : Failure) (s : List UInt8) : Failure :=
  match skipBlanks (e.rest s) with
  | [] => e.upTo []
  | c :: t => if c = ascii '}' then e.upTo t else e.upTo (c :: t)

/-- An outcome, where a failure is told from the end of the value that it was met in. -/
def closing {α : Type} (close : Failure → Failure) : Outcome α → Outcome α
  | .error e => .error (close e)
  | .ok p => .ok p

theorem eq_ok_of_closing {α : Type} {close : Failure → Failure} {o : Outcome α}
    {p : α × List UInt8} (h : closing close o = .ok p) : o = .ok p := by
  cases o with
  | error e => simp [closing] at h
  | ok a => exact h

/-- What a reader makes of a text, or nothing if it fails; and the bytes from which reading
goes on either way. -/
def attempt {α : Type} (read : List UInt8 → Outcome α) (s : List UInt8) :
    Option α × List UInt8 :=
  match read s with
  | .error e => (none, e.rest s)
  | .ok (a, r) => (some a, r)

theorem length_attempt_le {α : Type} {read : List UInt8 → Outcome α}
    (h : ∀ s a r, read s = .ok (a, r) → r.length ≤ s.length)
    (s : List UInt8) : (attempt read s).2.length ≤ s.length := by
  unfold attempt
  split
  · exact Failure.length_rest_le _ _
  · rename_i hr
    exact h _ _ _ hr

/-! ## Words -/

/-- The letters of `null`, `true` and `false` after the first. -/
def word : List Char → List UInt8 → Outcome Unit
  | [], s => .ok ((), s)
  | _ :: _, [] => failAt .eofInValue []
  | e :: es, c :: s => if c = ascii e then word es s else failAt .expectedIdent s

theorem length_le_of_word {es : List Char} {s r : List UInt8} {u : Unit}
    (h : word es s = .ok (u, r)) : r.length ≤ s.length := by
  fun_induction word es s with
  | case1 =>
    simp only [Except.ok.injEq, Prod.mk.injEq] at h
    exact Nat.le_of_eq (congrArg List.length h.2.symm)
  | case2 => simp [failAt] at h
  | case3 _ _ _ ih =>
    have := ih h
    simp only [List.length_cons]
    omega
  | case4 => simp [failAt] at h

end Switchboard.Json
