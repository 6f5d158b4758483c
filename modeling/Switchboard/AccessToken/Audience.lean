import Switchboard.Json.Reader

/-! # For whom a token is meant

Beside the claims of its account a token may tell from when on it may be used, and for
whom it is meant.  Neither need be told in the right form: what is told in a wrong one
counts as not told, and reading goes on from where it had come.

* `AccessToken.Aside` — what has been told beside the claims;
* `AccessToken.isAddressed?` — whether a token tells for whom it is meant. -/

namespace Switchboard.AccessToken

open Switchboard.Bytes (ascii)
open Json (MemberRule Outcome Reader attempt closing failOn failWithin skipBlanks)

/-- A value that ought to be a number.  An array or an object is not looked into. -/
def readStart (s : List UInt8) : Outcome Json :=
  match skipBlanks s with
  | [] => failOn .eofInValue []
  | c :: t =>
    if c = ascii '[' then
      closing (·.inArray t) (failWithin (.wrongType "sequence" "a number") t)
    else if c = ascii '{' then
      closing (·.inObject t) (failWithin (.wrongType "map" "a number") t)
    else Json.valueFrom none c t

theorem length_le_of_readStart {s r : List UInt8} {v : Json} (h : readStart s = .ok (v, r)) :
    r.length ≤ s.length := by
  unfold readStart at h
  split at h
  · simp [failOn] at h
  · rename_i c t ht
    have := Json.length_lt_of_skipBlanks ht
    split at h
    · simp [failWithin, closing] at h
    · split at h
      · simp [failWithin, closing] at h
      · have := Json.length_le_of_valueFrom h
        omega

def inner : Reader Json := Json.value (Json.maxDepth - 1)

/-- What has been told beside the claims: the names of it, and what was said about whom the
token is meant for. -/
structure Aside where
  told : List String
  audience : Option Json

/-- Takes in what is told beside the claims.  Nothing may be told twice. -/
def asideRule : MemberRule Aside where
  run st name s :=
    if name ∈ st.told then failWithin (.duplicateField name) s
    else
      match Json.colon s with
      | .error e => .error e
      | .ok (_, r) =>
        if name = "nbf" then .ok (⟨name :: st.told, st.audience⟩, (attempt readStart r).2)
        else
          let (v, r') := attempt inner.run r
          .ok (⟨name :: st.told, v⟩, r')
  shrinks := by
    intro st st' name s r h
    split at h
    · simp [failWithin] at h
    · split at h
      · simp at h
      · rename_i u t ht
        have := Json.length_lt_of_colon ht
        split at h
        · have := Json.length_attempt_le (fun _ _ _ h => length_le_of_readStart h) t
          simp only [Except.ok.injEq, Prod.mk.injEq] at h
          rw [← h.2]
          omega
        · have := Json.length_attempt_le (fun _ _ _ h => Nat.le_of_lt (inner.shrinks h)) t
          simp only [Except.ok.injEq, Prod.mk.injEq] at h
          rw [← h.2]
          omega

def readAside (s : List UInt8) : Outcome Aside :=
  match skipBlanks s with
  | [] => failOn .eofInValue []
  | c :: t =>
    if c = ascii '{' then Json.fields (asideRule.only ["nbf", "aud"]) ⟨[], none⟩ t
    else failOn .expectedValue (c :: t)

/-- Whether a value names those for whom a token is meant: one of them, or several. -/
def namesAudience : Json → Bool
  | .string _ => true
  | .array items => items.all fun v => v.asString?.isSome
  | _ => false

/-- Whether the second part of a token tells for whom it is meant, if it can be read. -/
def isAddressed? (part : List UInt8) : Option Bool :=
  match Json.readAll readAside part with
  | .error _ => none
  | .ok aside => some (aside.audience.any namesAudience)

end Switchboard.AccessToken
