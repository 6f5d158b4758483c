import Mathlib.Data.String.Basic
import Switchboard.Proofs.Identity.Accounts

/-! # Who can register

A registration is judged by what the client wrote and by what was registered before.  A password
is measured in bytes, where clients are told of characters, so that short passwords of characters
that take several bytes are let through.  Nothing else is overlooked.

* `Judged` — what is to come of a registration, with the measure of passwords left open;
* `mem_emails_run` — the emails that are taken are those that somebody registered with;
* `registration_judged` — what comes of a registration after any run, and when a measure in
  characters would have it otherwise.
-/

namespace Switchboard.Identity

variable {scheme : Scheme} {as : List (Instant × Action)} {email password : String} {u : User}
  {measure : String → Nat} {taken : Prop} {result : Except Problem User}

/-- What is to come of a registration, if `measure` says how long a password is: it is turned away
for its email, else for its password, else because the email is taken, and otherwise there is the
account `u`. -/
inductive Judged (measure : String → Nat) (taken : Prop) (u : User) (email password : String) :
    Except Problem User → Prop
  | badEmail : '@' ∉ (normalEmail email).toList →
      Judged measure taken u email password (.error ⟨.validation, "invalid email"⟩)
  | badPassword : '@' ∈ (normalEmail email).toList → measure password < 8 →
      Judged measure taken u email password
        (.error ⟨.validation, "password must be at least 8 characters"⟩)
  | conflict : '@' ∈ (normalEmail email).toList → 8 ≤ measure password → taken →
      Judged measure taken u email password (.error ⟨.conflict, "email already registered"⟩)
  | accepted : '@' ∈ (normalEmail email).toList → 8 ≤ measure password → ¬ taken →
      Judged measure taken u email password (.ok u)

/-- Somebody registered in a run with an email, however it was written. -/
def Taken (scheme : Scheme) (as : List (Instant × Action)) (email : String) : Prop :=
  ∃ email' u, Registered scheme as email' u ∧ normalEmail email' = normalEmail email

/-- The password has fewer than eight characters, but not fewer than eight bytes, and there is
nothing wrong with the email. -/
def Overlooked (email password : String) : Prop :=
  '@' ∈ (normalEmail email).toList ∧ password.length < 8 ∧ 8 ≤ password.utf8ByteSize

/-! ## Emails that are taken -/

/-- An email leads to an account once somebody has registered with it. -/
theorem mem_emails_run (scheme : Scheme) (as : List (Instant × Action)) (email : String) :
    email ∈ ((empty scheme).run as).1.emails ↔
      ∃ email' u, Registered scheme as email' u ∧ normalEmail email' = email := by
  induction as using List.reverseRecOn with
  | nil => simp [run, empty, Registered, Occurs]
  | append_singleton as e ih =>
    simp only [registered_concat, or_and_right, exists_or, ← ih]
    rw [run_concat]
    have henrolling := enrolls ((empty scheme).run as).1 e
    generalize ((empty scheme).run as).1.next e = g at henrolling
    cases henrolling with
    | new email₁ u he =>
      rw [mem_emails_addUser, or_comm]
      refine or_congr_right ⟨fun hu => ⟨email₁, u, he, he.next_eq.2.2 ▸ hu⟩, ?_⟩
      rintro ⟨email₂, v, hv, hemail⟩
      obtain rfl := he.unique hv
      exact hv.next_eq.2.2.trans hemail
    | same _ hnone _ hemails =>
      rw [hemails]
      refine (or_iff_left ?_).symm
      rintro ⟨email', u, hu, -⟩
      exact hnone email' u hu

/-! ## The judgement -/

/-- Every character takes at least a byte. -/
theorem length_le_utf8ByteSize (s : String) : s.length ≤ s.utf8ByteSize := by
  obtain ⟨cs, rfl⟩ : ∃ cs, s = String.ofList cs := ⟨s.toList, s.ofList_toList.symm⟩
  rw [String.length_ofList, String.utf8ByteSize_ofList]
  induction cs with
  | nil => exact Nat.le_refl _
  | cons c cs ih =>
    have hsize : 0 < c.utf8Size := c.utf8Size_pos
    rw [List.length_cons, String.utf8Len_cons]
    omega

/-- A store judges by the emails that it knows, and by the bytes of the password. -/
theorem register_judged (s : Identity) (now : Instant) (k : AccountId) (salt : List UInt8)
    (email password : String) :
    Judged String.utf8ByteSize (normalEmail email ∈ s.emails)
      ⟨k, normalEmail email, s.scheme.lock salt password, now⟩ email password
      ((s.register now k salt email password).2.mapError Refusal.problem) := by
  unfold register registrationFlaw?
  by_cases hat : '@' ∉ (normalEmail email).toList
  · simpa only [if_pos hat] using .badEmail hat
  · have hat' := Decidable.not_not.1 hat
    by_cases hshort : password.utf8ByteSize < minPasswordBytes
    · simpa only [if_neg hat, if_pos hshort] using .badPassword hat' hshort
    · have hlong : 8 ≤ password.utf8ByteSize := Nat.le_of_not_lt hshort
      by_cases htaken : normalEmail email ∈ s.emails
      · simpa only [if_neg hat, if_neg hshort, if_pos htaken] using .conflict hat' hlong htaken
      · simpa only [if_neg hat, if_neg hshort, if_neg htaken] using .accepted hat' hlong htaken

/-- A measure in characters leads to the same, unless the password is overlooked. -/
theorem Judged.length_iff (hj : Judged String.utf8ByteSize taken u email password result) :
    Judged String.length taken u email password result ↔ ¬ Overlooked email password := by
  constructor
  · rintro hj' ⟨hat, hshort, hlong⟩
    cases hj with
    | badEmail hat' => exact hat' hat
    | badPassword _ hshort' => omega
    | conflict =>
      cases hj' with
      | conflict _ hlong' => omega
    | accepted =>
      cases hj' with
      | accepted _ hlong' => omega
  · intro hnot
    have hlength : '@' ∈ (normalEmail email).toList → 8 ≤ password.utf8ByteSize →
        8 ≤ password.length :=
      fun hat hlong => Nat.le_of_not_lt fun hshort => hnot ⟨hat, hshort, hlong⟩
    cases hj with
    | badEmail hat => exact .badEmail hat
    | badPassword hat hshort =>
      exact .badPassword hat (Nat.lt_of_le_of_lt (length_le_utf8ByteSize password) hshort)
    | conflict hat hlong htaken => exact .conflict hat (hlength hat hlong) htaken
    | accepted hat hlong hfree => exact .accepted hat (hlength hat hlong) hfree

/-- After any run, a registration is judged by the email, the bytes of the password and the
registrations that have succeeded so far.  This is what a measure in characters leads to, except
where a password has eight bytes but not eight characters. -/
theorem registration_judged (scheme : Scheme) (as : List (Instant × Action)) (now : Instant)
    (k : AccountId) (salt : List UInt8) (email password : String) :
    let result := (((empty scheme).run as).1.register now k salt email password).2.mapError
      Refusal.problem
    let u : User := ⟨k, normalEmail email, scheme.lock salt password, now⟩
    Judged String.utf8ByteSize (Taken scheme as email) u email password result ∧
      (Judged String.length (Taken scheme as email) u email password result ↔
        ¬ Overlooked email password) := by
  have hjudged := register_judged ((empty scheme).run as).1 now k salt email password
  rw [propext (mem_emails_run scheme as _), scheme_run] at hjudged
  exact ⟨hjudged, hjudged.length_iff⟩

/-- Four characters of two bytes each are enough. -/
theorem registers_four_characters :
    let result := (((empty .plain).run []).1.register 1 ⟨1⟩ [] "a@example.com" "éééé").2.mapError
      Refusal.problem
    let u : User := ⟨⟨1⟩, "a@example.com", "éééé", 1⟩
    "éééé".length = 4 ∧ result = .ok u ∧
      ¬ Judged String.length (Taken .plain [] "a@example.com") u "a@example.com" "éééé" result := by
  intro result u
  have hlength : "éééé".length = 4 := by decide +kernel
  have hresult : result = .ok u := by decide +kernel
  refine ⟨hlength, hresult, fun hj => ?_⟩
  rw [hresult] at hj
  cases hj with
  | accepted _ hlong => omega

end Switchboard.Identity
