import Mathlib.Data.List.Induction
import Mathlib.Data.List.Nodup
import Switchboard.Proofs.Identity.Pairing

/-! # Which accounts there are

The accounts of a store are those that were registered in the run, each as it was stored then.
The table of emails and the table of accounts are each other's inverse, so that there is one
account for an email, however the email is written, and whoever logs in with it finds that one.

* `Enrols`, `Registered` — an event at which somebody gets an account, and the accounts that
  were registered in a run;
* `enrolls` — what an event does to the two tables;
* `Indexed` — the two tables say the same;
* `users_of_run` — the store has the accounts that were registered, and no others;
* `authenticate_ok_iff`, `authenticate_error` — who logs in, by the tables;
* `Accounted`, `accounts_accounted` — all that by the history of the run.
-/

namespace Switchboard.Identity

variable {s : Identity} {scheme : Scheme} {as : List (Instant × Action)}
  {e : Instant × Action} {email password : String} {u : User} {k : AccountId}

/-! ## Registering -/

theorem register_of_ok {now : Instant} {salt : List UInt8}
    (hok : (s.register now k salt email password).2 = .ok u) :
    (s.register now k salt email password).1 = s.addUser u ∧ u.email ∉ s.emails ∧
      u = ⟨k, normalEmail email, s.scheme.lock salt password, now⟩ := by
  unfold register at hok ⊢
  dsimp only at hok ⊢
  split at hok
  · cases hok
  · split at hok
    · cases hok
    · next hfree =>
      rw [if_neg hfree]
      cases hok
      exact ⟨rfl, hfree, rfl⟩

/-- Whoever is turned away leaves no trace. -/
theorem register_of_error {now : Instant} {salt : List UInt8} {r : Refusal}
    (herr : (s.register now k salt email password).2 = .error r) :
    (s.register now k salt email password).1 = s := by
  unfold register at herr ⊢
  dsimp only at herr ⊢
  split
  · rfl
  · next hflaw =>
    simp only [hflaw] at herr
    split
    · rfl
    · next hfree =>
      rw [if_neg hfree] at herr
      cases herr

theorem mem_emails_addUser :
    email ∈ (s.addUser u).emails ↔ u.email = email ∨ email ∈ s.emails := by
  unfold addUser
  rw [Std.ExtTreeMap.mem_insert, Std.LawfulEqCmp.compare_eq_iff_eq]

/-- An event at which somebody registers with an email and gets an account. -/
def Enrols (email : String) (u : User) (s : Identity) (e : Instant × Action) : Prop :=
  ∃ salt password, e.2 = .register u.id salt email password ∧
    (s.register e.1 u.id salt email password).2 = .ok u

/-- An account that was registered in a run, with the email that was given. -/
def Registered (scheme : Scheme) (as : List (Instant × Action)) (email : String) (u : User) :
    Prop :=
  Occurs next (Enrols email u) (empty scheme) as

/-- The id that is drawn for an account. -/
def Action.account? : Action → Option AccountId
  | .register k _ _ _ => some k
  | _ => none

/-- The ids that are drawn for accounts in a run. -/
def accountIds (as : List (Instant × Action)) : List AccountId := as.filterMap (·.2.account?)

theorem Enrols.next_eq (he : Enrols email u s e) :
    s.next e = s.addUser u ∧ u.email ∉ s.emails ∧ u.email = normalEmail email := by
  obtain ⟨now, a⟩ := e
  obtain ⟨salt, password, rfl, hok⟩ := he
  obtain ⟨hnext, hfree, hu⟩ := register_of_ok hok
  rw [next_register]
  exact ⟨hnext, hfree, by rw [hu]⟩

/-- At one event there is one who gets an account. -/
theorem Enrols.unique {email' : String} {v : User} (hu : Enrols email u s e)
    (hv : Enrols email' v s e) : u = v := by
  obtain ⟨salt, password, ha, hok⟩ := hu
  obtain ⟨_, _, ha', hok'⟩ := hv
  rw [ha, Action.register.injEq] at ha'
  obtain ⟨hid, rfl, rfl, rfl⟩ := ha'
  rw [← hid, hok] at hok'
  exact Except.ok.inj hok'

theorem Enrols.mem_accountIds (he : Enrols email u s e) : u.id ∈ accountIds [e] := by
  obtain ⟨now, a⟩ := e
  obtain ⟨salt, password, rfl, -⟩ := he
  exact List.mem_singleton_self _

/-- What an event does to the accounts: it adds the one that registers, or nothing. -/
inductive Enrolling (s : Identity) (e : Instant × Action) : Identity → Prop
  | new (email : String) (u : User) : Enrols email u s e → Enrolling s e (s.addUser u)
  | same (g : Identity) : (∀ email u, ¬ Enrols email u s e) → g.users = s.users →
      g.emails = s.emails → Enrolling s e g

theorem enrolls (s : Identity) (e : Instant × Action) : Enrolling s e (s.next e) := by
  by_cases he : ∃ email u, Enrols email u s e
  · obtain ⟨email, u, he⟩ := he
    rw [he.next_eq.1]
    exact .new email u he
  · have hnone : ∀ email u, ¬ Enrols email u s e := fun email u hu => he ⟨email, u, hu⟩
    have hregisters := registers_next s e
    generalize hg : s.next e = g at hregisters
    cases hregisters with
    | same _ husers hemails => exact .same g hnone husers hemails
    | new k salt email password u ha =>
      -- somebody asks for an account, but does not get it
      obtain ⟨now, a⟩ := e
      cases ha
      rw [next_register] at hg
      cases hresult : (s.register now k salt email password).2 with
      | ok v =>
        have hv : v.id = k := congrArg User.id (register_of_ok hresult).2.2
        rw [← hv] at hresult hnone
        exact absurd ⟨salt, password, rfl, hresult⟩ (hnone email v)
      | error r =>
        rw [register_of_error hresult] at hg
        exact .same g hnone (by rw [hg]) (by rw [hg])

theorem registered_concat : Registered scheme (as ++ [e]) email u ↔
    Registered scheme as email u ∨ Enrols email u ((empty scheme).run as).1 e := by
  unfold Registered
  rw [occurs_concat, run_fst]

theorem accountIds_append (as bs : List (Instant × Action)) :
    accountIds (as ++ bs) = accountIds as ++ accountIds bs :=
  List.filterMap_append

theorem run_concat (scheme : Scheme) (as : List (Instant × Action)) (e : Instant × Action) :
    ((empty scheme).run (as ++ [e])).1 = ((empty scheme).run as).1.next e :=
  run_split scheme as e []

/-! ## The two tables -/

/-- The email of an account leads to it, and every email that leads anywhere leads to an
account that has it. -/
def Indexed (s : Identity) : Prop :=
  ∀ (email : String) (k : AccountId),
    s.emails[email]? = some k ↔ ∃ u : User, s.users[k]? = some u ∧ u.email = email

theorem indexed_empty (scheme : Scheme) : (empty scheme).Indexed := by
  intro email k
  simp [empty]

/-- One more account, with an email and an id that are new. -/
theorem Indexed.addUser (hs : s.Indexed) (hid : u.id ∉ s.users) (hemail : u.email ∉ s.emails) :
    (s.addUser u).Indexed := by
  intro email k
  unfold Identity.addUser
  rw [Table.lookup_insert_eq_some, hs]
  constructor
  · rintro (⟨rfl, rfl⟩ | ⟨-, v, hv, hveq⟩)
    · exact ⟨u, by rw [Table.lookup_insert, if_pos rfl], rfl⟩
    · have hk : u.id ≠ k := fun hk => hid (hk ▸ Table.mem_of_lookup hv)
      exact ⟨v, by rw [Table.lookup_insert, if_neg hk, hv], hveq⟩
  · rintro ⟨v, hv, rfl⟩
    obtain ⟨rfl, rfl⟩ | ⟨-, hv⟩ := Table.lookup_insert_eq_some.1 hv
    · exact .inl ⟨rfl, rfl⟩
    · have hindex : s.emails[v.email]? = some k := (hs _ _).2 ⟨v, hv, rfl⟩
      have hne : u.email ≠ v.email := fun heq => hemail (heq ▸ Table.mem_of_lookup hindex)
      exact .inr ⟨hne, v, hv, rfl⟩

theorem Indexed.next (hs : s.Indexed) (hnew : ∀ email u, Enrols email u s e → u.id ∉ s.users) :
    (s.next e).Indexed := by
  have henrolling := enrolls s e
  generalize s.next e = g at henrolling
  cases henrolling with
  | new email u he => exact hs.addUser (hnew email u he) he.next_eq.2.1
  | same _ _ husers hemails =>
    intro email k
    rw [husers, hemails]
    exact hs email k

/-- An account with an email is found under it, and no other is. -/
theorem Indexed.userOf_eq_some (hs : s.Indexed) (hkeyed : s.Keyed) :
    s.userOf email = some u ↔ s.users[u.id]? = some u ∧ u.email = normalEmail email := by
  unfold userOf
  rw [Option.bind_eq_some_iff]
  constructor
  · rintro ⟨k, hk, hu⟩
    obtain ⟨v, hv, hemail⟩ := (hs _ _).1 hk
    obtain rfl : v = u := Option.some.inj (hv.symm.trans hu)
    rw [hkeyed k v hu]
    exact ⟨hu, hemail⟩
  · rintro ⟨hu, hemail⟩
    exact ⟨u.id, (hs _ _).2 ⟨u, hu, hemail⟩, hu⟩

theorem authenticate_ok_iff :
    s.authenticate email password = .ok u ↔
      s.userOf email = some u ∧ s.scheme.opens password u.password = true := by
  unfold authenticate
  cases s.userOf email with
  | none => simp
  | some v =>
    dsimp only
    rw [Option.some.injEq]
    by_cases hopens : s.scheme.opens password v.password = true
    · rw [if_pos hopens, Except.ok.injEq]
      exact ⟨fun heq => ⟨heq, heq ▸ hopens⟩, fun h => h.1⟩
    · rw [if_neg hopens]
      exact ⟨fun hok => (nomatch hok), fun ⟨heq, hopens'⟩ => absurd (heq ▸ hopens') hopens⟩

/-- Whoever does not log in is told the same, whatever the reason. -/
theorem authenticate_error {r : Refusal} (herr : s.authenticate email password = .error r) :
    r = .badLogin := by
  unfold authenticate at herr
  split at herr
  · split at herr <;> cases herr
    rfl
  · cases herr
    rfl

/-! ## Runs -/

theorem Registered.mem_accountIds (hu : Registered scheme as email u) :
    u.id ∈ accountIds as := by
  obtain ⟨earlier, e, later, rfl, he⟩ := occurs_iff.1 hu
  rw [accountIds_append]
  refine List.mem_append_right _ ?_
  rw [← List.singleton_append, accountIds_append]
  exact List.mem_append_left _ he.mem_accountIds

/-- The id that is drawn last has not been drawn before. -/
theorem not_mem_of_enrols (hfresh : (accountIds (as ++ [e])).Nodup) (he : Enrols email u s e) :
    u.id ∉ accountIds as := by
  rw [accountIds_append] at hfresh
  exact fun hmem => List.disjoint_of_nodup_append hfresh hmem he.mem_accountIds

/-- The accounts of a store are the ones that were registered in the run, and the table of
emails leads to them. -/
theorem users_of_run (scheme : Scheme) (hfresh : (accountIds as).Nodup) :
    ((empty scheme).run as).1.Indexed ∧
      ∀ k u, ((empty scheme).run as).1.users[k]? = some u ↔
        u.id = k ∧ ∃ email, Registered scheme as email u := by
  induction as using List.reverseRecOn with
  | nil => exact ⟨indexed_empty scheme, by simp [run, empty, Registered, Occurs]⟩
  | append_singleton as e ih =>
    have hearlier : (accountIds as).Nodup := by
      rw [accountIds_append] at hfresh
      exact hfresh.of_append_left
    obtain ⟨hindexed, husers⟩ := ih hearlier
    -- a new account gets an id that none has had
    have hnew : ∀ email u, Enrols email u ((empty scheme).run as).1 e →
        u.id ∉ ((empty scheme).run as).1.users := by
      intro email u he hmem
      obtain ⟨v, hv⟩ := Table.mem_iff_lookup.1 hmem
      obtain ⟨hid, email', hregistered⟩ := (husers u.id v).1 hv
      exact not_mem_of_enrols hfresh he (hid ▸ hregistered.mem_accountIds)
    rw [run_concat]
    refine ⟨hindexed.next hnew, fun k u => ?_⟩
    simp only [registered_concat, exists_or, and_or_left, ← husers]
    -- both sides gain what the event enrols, if it enrols anybody
    have henrolling := enrolls ((empty scheme).run as).1 e
    generalize ((empty scheme).run as).1.next e = g at henrolling
    cases henrolling with
    | new email v he =>
      unfold addUser
      rw [Table.lookup_insert_eq_some]
      constructor
      · rintro (⟨rfl, rfl⟩ | ⟨-, hu⟩)
        · exact .inr ⟨rfl, email, he⟩
        · exact .inl hu
      · rintro (hu | ⟨rfl, email', he'⟩)
        · have hid : v.id ≠ k := fun hid => hnew email v he (hid ▸ Table.mem_of_lookup hu)
          exact .inr ⟨hid, hu⟩
        · obtain rfl := he.unique he'
          exact .inl ⟨rfl, rfl⟩
    | same _ hnone husers' _ =>
      rw [husers']
      constructor
      · exact .inl
      · rintro (hu | ⟨-, email, he⟩)
        · exact hu
        · exact absurd he (hnone email u)

/-- Whoever is registered is kept as the record says that the registration returned. -/
theorem Registered.recorded (hu : Registered scheme as email u) :
    ∃ now salt password, u = ⟨u.id, normalEmail email, scheme.lock salt password, now⟩ := by
  obtain ⟨earlier, e, later, -, salt, password, -, hok⟩ := occurs_iff.1 hu
  have heq := (register_of_ok hok).2.2
  rw [← run_fst, scheme_run] at heq
  exact ⟨e.1, salt, password, heq⟩

theorem Registered.email_eq (hu : Registered scheme as email u) : u.email = normalEmail email := by
  obtain ⟨now, salt, password, heq⟩ := hu.recorded
  rw [heq]

theorem registered_append {bs : List (Instant × Action)} (hu : Registered scheme as email u) :
    Registered scheme (as ++ bs) email u :=
  occurs_append.2 (.inl hu)

/-- The accounts of a store by the history of the run.  The store has the accounts that were
registered, each as it was recorded then, under its email and under no other; none of them
changes or goes; a registration that fails changes nothing; and somebody logs in with an email
and a password if the email is, but for blanks and case, that of an account that was
registered, and the password opens what was kept then.  All others are told the same. -/
structure Accounted (scheme : Scheme) (as : List (Instant × Action)) (s : Identity) : Prop where
  indexed : s.Indexed
  stored : ∀ k u, s.users[k]? = some u ↔ u.id = k ∧ ∃ email, Registered scheme as email u
  recorded : ∀ email u, Registered scheme as email u →
    ∃ now salt password, u = ⟨u.id, normalEmail email, scheme.lock salt password, now⟩
  single : ∀ (k k' : AccountId) (u u' : User),
    s.users[k]? = some u → s.users[k']? = some u' → u.email = u'.email → k = k' ∧ u = u'
  lasting : ∀ before after, as = before ++ after → ∀ (k : AccountId) (u : User),
    ((empty scheme).run before).1.users[k]? = some u → s.users[k]? = some u
  refused : ∀ now k salt email password r,
    (s.register now k salt email password).2 = .error r →
      (s.register now k salt email password).1 = s
  logsIn : ∀ email password u, s.authenticate email password = .ok u ↔
    ∃ email', Registered scheme as email' u ∧ normalEmail email' = normalEmail email ∧
      scheme.opens password u.password = true
  turnedAway : ∀ email password r, s.authenticate email password = .error r → r = .badLogin

/-- In every run in which no two accounts are drawn the same id, there is one account for an
email, and logging in finds it. -/
theorem accounts_accounted (scheme : Scheme) (as : List (Instant × Action))
    (hfresh : (accountIds as).Nodup) : Accounted scheme as ((empty scheme).run as).1 := by
  obtain ⟨hindexed, husers⟩ := users_of_run scheme hfresh
  have hkeyed := keyed_of_run scheme as
  exact {
    indexed := hindexed
    stored := husers
    recorded := fun _ _ hu => hu.recorded
    single := by
      intro k k' u u' hu hu' hemail
      have hk := (hindexed u.email k).2 ⟨u, hu, rfl⟩
      have hk' := (hindexed u.email k').2 ⟨u', hu', hemail.symm⟩
      obtain rfl : k = k' := Option.some.inj (hk.symm.trans hk')
      exact ⟨rfl, Option.some.inj (hu.symm.trans hu')⟩
    lasting := by
      rintro before after rfl k u hu
      rw [accountIds_append] at hfresh
      obtain ⟨hid, email, hregistered⟩ :=
        ((users_of_run scheme hfresh.of_append_left).2 k u).1 hu
      exact (husers k u).2 ⟨hid, email, registered_append hregistered⟩
    refused := fun _ _ _ _ _ _ => register_of_error
    logsIn := by
      intro email password u
      rw [authenticate_ok_iff, hindexed.userOf_eq_some hkeyed, husers, scheme_run]
      constructor
      · rintro ⟨⟨⟨-, email', hu⟩, hemail⟩, hopens⟩
        exact ⟨email', hu, hu.email_eq.symm.trans hemail, hopens⟩
      · rintro ⟨email', hu, hemail, hopens⟩
        exact ⟨⟨⟨rfl, email', hu⟩, hu.email_eq.trans hemail⟩, hopens⟩
    turnedAway := fun _ _ _ => authenticate_error }

/-- Two people register, and a third time somebody tries with the first one's email. -/
def enrolmentHistory : List (Instant × Action) :=
  [(1, .register ⟨1⟩ [] "  Alice@Example.com " "password123"),
   (2, .register ⟨2⟩ [] "bob@example.com" "hunter2-hunter2"),
   (3, .register ⟨3⟩ [] "ALICE@example.com" "password456")]

/-- The first account is the one for that email, however it is written, and the password of the
third attempt is good for nothing. -/
theorem accounts_accounted_twice :
    (accountIds enrolmentHistory).Nodup ∧
      (∃ email, Registered .plain enrolmentHistory email
          ⟨⟨1⟩, "alice@example.com", "password123", 1⟩) ∧
      ¬ ∃ u, Registered .plain enrolmentHistory "ALICE@example.com" u ∧
        u.password = "password456" := by
  have hfresh : (accountIds enrolmentHistory).Nodup := by decide +kernel
  have haccounts := accounts_accounted .plain enrolmentHistory hfresh
  have hin : ((empty .plain).run enrolmentHistory).1.authenticate "alice@EXAMPLE.com" "password123"
      = .ok ⟨⟨1⟩, "alice@example.com", "password123", 1⟩ := by decide +kernel
  have hout : ((empty .plain).run enrolmentHistory).1.authenticate "alice@example.com" "password456"
      = .error .badLogin := by decide +kernel
  refine ⟨hfresh, ?_, ?_⟩
  · obtain ⟨email, hu, -⟩ := (haccounts.logsIn _ _ _).1 hin
    exact ⟨email, hu⟩
  · rintro ⟨u, hu, hpassword⟩
    have hok := (haccounts.logsIn "alice@example.com" "password456" u).2
      ⟨_, hu, by decide +kernel, by rw [hpassword]; decide +kernel⟩
    rw [hout] at hok
    cases hok

end Switchboard.Identity
