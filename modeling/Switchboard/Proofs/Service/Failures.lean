import Switchboard.Proofs.Identity.Accounts
import Switchboard.Proofs.Server.Lifetimes
import Switchboard.Proofs.Service.Turns

/-! # What a failure leaves behind

Whoever registers, logs in or presents a refresh token is judged by the store, which is changed for
them there and then.  The access token comes last, and it cannot be made if its last second has no
date.  Nothing is taken back for that: an account that was asked for is there, and a refresh token
that was presented is spent.

* `Passes` — the calls that the store has nothing against, and what it makes of them;
* `call_of_passes`, `refused_of_not_passes` — the answer to a call that passes, and to any other;
* `internal_iff` — when a call fails by the server's own fault;
* `register_again`, `login_again`, `refresh_again` — what comes of the same call afterwards;
* `Aftermath`, `failure_aftermath` — all that such a failure leaves behind.
-/

namespace Switchboard

/-- Nothing that a store refuses is the server's own fault. -/
theorem Identity.Refusal.category_ne_internal (r : Identity.Refusal) :
    r.problem.category ≠ .internal := by
  cases r <;> decide

namespace Service

open Identity (RefreshToken User normalEmail)

variable {s : Service} {clock : Clock} {fresh : Fresh} {c : Call} {p : Problem}
  {store : Identity} {u : User} {email password token bearer : String} {now : Instant}

/-! ## Calls that pass -/

/-- The store has nothing against a call: what it is like afterwards, with the refresh token
`fresh.token` in it, and the account that the token is for. -/
inductive Passes (s : Identity) (now : Instant) (fresh : Fresh) : Call → Identity → User → Prop
  | register {email password : String} {u : User} :
      (s.register now fresh.id fresh.salt email password).2 = .ok u →
      Passes s now fresh (.register email password)
        ((s.addUser u).issue now fresh.token u.id) u
  | login {email password : String} {u : User} : s.authenticate email password = .ok u →
      Passes s now fresh (.login email password) (s.issue now fresh.token u.id) u
  | refresh {token : String} {r : RefreshToken} {u : User} :
      s.refreshTokens[s.scheme.digest token]? = some r → r.spent = false → now ≤ r.expires →
      s.users[r.user]? = some u →
      Passes s now fresh (.refresh token)
        ((s.spend now (s.scheme.digest token) r).issue now fresh.token r.user) u

/-- Once the store has passed a call, it stays as it is, whether or not there is an access token. -/
theorem call_of_passes (hp : Passes s.identity clock.wall fresh c store u) :
    s.call clock fresh c = ({ s with identity := store },
      (s.tokens clock.wall fresh.tokenId u fresh.token).map .tokens) := by
  cases hp with
  | @register email password _ hok =>
    have hregister : s.identity.register clock.wall fresh.id fresh.salt email password =
        (s.identity.addUser u, .ok u) := Prod.ext (Identity.register_of_ok hok).1 hok
    unfold call register
    simp only [hregister]
    rfl
  | login hok =>
    simp only [call, login, hok]
    rfl
  | refresh hr hspent hexpires hu =>
    simp only [call, refresh, Identity.rotate_of_good hr hspent hexpires, hu]
    rfl

theorem map_eq_error {α β : Type} {f : α → β} {x : Except Problem α} :
    x.map f = .error p ↔ x = .error p := by
  cases x <;> simp [Except.map]

/-- The only fault of the server's own is that there is no date for the end of a token. -/
theorem tokens_eq_error {id : Uuid} {refresh : String} :
    s.tokens now id u refresh = .error p ↔ ¬ s.keys.Dated now ∧
      p = ⟨.internal, "Failed to calculate JWT expiration time"⟩ := by
  rw [tokens, map_eq_error]
  by_cases hd : s.keys.Dated now
  · simp [AccessToken.issue_of_dated hd, hd]
  · simp [AccessToken.issue_of_undated hd, hd, eq_comm]

/-! ## Calls that do not pass -/

theorem mapReply_eq_error {α β : Type} {f : α → β} {r : Service × Except Problem α} :
    (mapReply f r).2 = .error p ↔ r.2 = .error p := map_eq_error

section Refused

variable {r : Identity.Refusal}

theorem call_register_refused
    (hr : (s.identity.register clock.wall fresh.id fresh.salt email password).2 = .error r) :
    (s.call clock fresh (.register email password)).2 = .error r.problem := by
  rw [call, mapReply_eq_error]
  unfold register
  generalize s.identity.register clock.wall fresh.id fresh.salt email password = out at hr
  obtain ⟨store, result⟩ := out
  cases hr
  rfl

theorem call_login_refused (hr : s.identity.authenticate email password = .error r) :
    (s.call clock fresh (.login email password)).2 = .error r.problem := by
  rw [call, mapReply_eq_error, login, hr]

theorem call_refresh_refused
    (hr : (s.identity.rotate clock.wall fresh.token token).2 = .error r) :
    (s.call clock fresh (.refresh token)).2 = .error r.problem := by
  rw [call, mapReply_eq_error, refresh]
  generalize s.identity.rotate clock.wall fresh.token token = out at hr
  obtain ⟨store, result⟩ := out
  cases hr
  rfl

end Refused

/-- Whoever shows no good access token is told so. -/
theorem refused_of_withAccount {α : Type} {f : AccountId → Service × Except Problem α}
    (hf : ∀ account, (f account).2 = .error p → p.category ≠ .internal)
    (herr : (s.withAccount now bearer f).2 = .error p) : p.category ≠ .internal := by
  unfold withAccount at herr
  cases hbearer : s.authenticate now bearer with
  | ok account =>
    simp only [hbearer] at herr
    exact hf account herr
  | error e =>
    simp only [hbearer] at herr
    cases herr
    unfold Service.authenticate at hbearer
    split at hbearer
    · cases hbearer
      simp [Access.Refusal.problem]
    · split at hbearer
      · cases hbearer
      · cases hbearer
        simp

/-- Whatever else is answered, it is not the server's own fault. -/
theorem refused_of_not_passes (hnot : ∀ store u, ¬ Passes s.identity clock.wall fresh c store u)
    (herr : (s.call clock fresh c).2 = .error p) : p.category ≠ .internal := by
  have hrefusal : ∀ r : Identity.Refusal, (s.call clock fresh c).2 = .error r.problem →
      p.category ≠ .internal := by
    intro r hr
    obtain rfl := Except.error.inj (herr.symm.trans hr)
    exact r.category_ne_internal
  -- the store passes the call, against `hnot`, or its refusal is what is answered
  cases c with
  | register email password =>
    cases hr : (s.identity.register clock.wall fresh.id fresh.salt email password).2 with
    | ok u => exact absurd (.register hr) (hnot _ u)
    | error r => exact hrefusal r (call_register_refused hr)
  | login email password =>
    cases hr : s.identity.authenticate email password with
    | ok u => exact absurd (.login hr) (hnot _ u)
    | error r => exact hrefusal r (call_login_refused hr)
  | refresh token =>
    have hcases := Identity.rotating s.identity clock.wall fresh.token token
    generalize hout : s.identity.rotate clock.wall fresh.token token = out at hcases
    cases hcases with
    | rotated r u hr hspent hexpires hu => exact absurd (.refresh hr hspent hexpires hu) (hnot _ u)
    | unknown | replayed | expired | orphaned =>
      exact hrefusal .badRefreshToken (call_refresh_refused (by rw [hout]))
  | pair bearer name =>
    refine refused_of_withAccount (fun account herr => ?_) herr
    rw [mapReply_eq_error, pair] at herr
    split at herr
    · cases herr
      exact Identity.Refusal.category_ne_internal _
    · cases herr
  | devices bearer =>
    exact refused_of_withAccount (fun account herr => by cases herr) herr
  | unpair bearer device =>
    refine refused_of_withAccount (fun account herr => ?_) herr
    rw [mapReply_eq_error, unpair] at herr
    split at herr
    · cases herr
      exact Identity.Refusal.category_ne_internal _
    · cases herr
  | connect token deviceToken =>
    rw [call] at herr
    have hcases := identifying s clock.wall token deviceToken
    generalize s.identify clock.wall token deviceToken = out at hcases herr
    cases hcases with
    | refused e hstatus =>
      cases herr
      intro hinternal
      rw [Problem.status, hinternal] at hstatus
      cases hstatus
    | admitted => cases herr

/-- A call fails by the server's own fault if the store passes it and there is no date for the end
of the access token. -/
theorem internal_iff : (s.call clock fresh c).2 = .error p ∧ p.category = .internal ↔
    (∃ store u, Passes s.identity clock.wall fresh c store u) ∧ ¬ s.keys.Dated clock.wall ∧
      p = ⟨.internal, "Failed to calculate JWT expiration time"⟩ := by
  constructor
  · rintro ⟨herr, hinternal⟩
    by_cases hpasses : ∃ store u, Passes s.identity clock.wall fresh c store u
    · obtain ⟨store, u, hp⟩ := hpasses
      rw [call_of_passes hp] at herr
      exact ⟨⟨store, u, hp⟩, tokens_eq_error.1 (map_eq_error.1 herr)⟩
    · exact absurd hinternal
        (refused_of_not_passes (fun store u hp => hpasses ⟨store, u, hp⟩) herr)
  · rintro ⟨⟨store, u, hp⟩, hd, rfl⟩
    rw [call_of_passes hp]
    exact ⟨map_eq_error.2 (tokens_eq_error.2 ⟨hd, rfl⟩), rfl⟩

/-! ## The same call again -/

/-- An email that was accepted once is taken afterwards. -/
theorem register_again {salt salt' : List UInt8} {k k' : AccountId} {now' : Instant}
    {g : Identity} (hok : (s.identity.register now k salt email password).2 = .ok u)
    (htaken : u.email ∈ g.emails) :
    (g.register now' k' salt' email password).2 = .error .emailTaken := by
  rw [(Identity.register_of_ok hok).2.2] at htaken
  unfold Identity.register at hok ⊢
  dsimp only at hok ⊢
  split at hok
  · cases hok
  · rw [if_pos htaken]

/-- Nobody loses the way in by having been issued a refresh token. -/
theorem login_again (s : Service) (clock : Clock) (fresh : Fresh) (now : Instant)
    (email password token : String) (k : AccountId) :
    ({ s with identity := s.identity.issue now token k }.call clock fresh
        (.login email password)).2 = (s.call clock fresh (.login email password)).2 := by
  have hsame : (s.identity.issue now token k).authenticate email password =
      s.identity.authenticate email password := rfl
  simp only [call, login, hsame]
  cases s.identity.authenticate email password <;> rfl

/-- A refresh token that was spent is no good, whether or not it is still known. -/
theorem refresh_again {s : Identity} {r : RefreshToken} {fresh fresh' : String} {now' : Instant}
    (hother : s.scheme.digest fresh ≠ s.scheme.digest token) :
    (((s.spend now (s.scheme.digest token) r).issue now fresh r.user).rotate now' fresh' token).2 =
      .error .badRefreshToken := by
  have hlookup : ((s.spend now (s.scheme.digest token) r).issue now fresh
      r.user).refreshTokens[s.scheme.digest token]? =
        (some { r with spent := true }).filter (Identity.isKept now) := by
    have hscheme : (s.spend now (s.scheme.digest token) r).scheme = s.scheme := rfl
    rw [Identity.lookup_issue, hscheme, if_neg hother, Identity.lookup_spend, if_pos rfl]
  -- a token that was issued long ago is forgotten as soon as it is spent
  by_cases hkept : Identity.isKept now { r with spent := true } = true
  · rw [Option.filter_some, if_pos hkept] at hlookup
    rw [Identity.rotate_of_spent hlookup rfl]
  · rw [Option.filter_some, if_neg hkept] at hlookup
    rw [Identity.rotate_of_unknown hlookup]

/-! ## What is left behind -/

/-- What a call leaves behind that has failed by the server's own fault, with the problem that was
told.  The service is as the store has made it, and as it would be if there were an access token.
Whoever asks for the same account again is told that the email is taken.  For whoever logs in again
it is as if nothing had been, and whoever presents the same refresh token again is turned away,
unless the one that replaced it has the same digest. -/
structure Aftermath (s : Service) (clock : Clock) (fresh : Fresh) (c : Call) (p : Problem) :
    Prop where
  told : p = ⟨.internal, "Failed to calculate JWT expiration time"⟩
  undated : ¬ s.keys.Dated clock.wall
  passed : ∃ u, Passes s.identity clock.wall fresh c (s.call clock fresh c).1.identity u
  rest : (s.call clock fresh c).1 = { s with identity := (s.call clock fresh c).1.identity }
  regardless : ∀ keys : AccessToken.Keys,
    ({ s with keys }.call clock fresh c).1.identity = (s.call clock fresh c).1.identity
  registers : ∀ email password, c = .register email password → ∀ clock' fresh',
    ((s.call clock fresh c).1.call clock' fresh' c).2 =
      .error ⟨.conflict, "email already registered"⟩
  logsIn : ∀ email password, c = .login email password →
    (s.call clock fresh c).1.identity.users = s.identity.users ∧
      (s.call clock fresh c).1.identity.emails = s.identity.emails ∧
      ∀ clock' fresh', ((s.call clock fresh c).1.call clock' fresh' c).2 =
        (s.call clock' fresh' c).2
  presents : ∀ token, c = .refresh token →
    (s.call clock fresh c).1.identity.users = s.identity.users ∧
      (s.call clock fresh c).1.identity.emails = s.identity.emails ∧
      (s.identity.scheme.digest fresh.token ≠ s.identity.scheme.digest token →
        ∀ clock' fresh', ((s.call clock fresh c).1.call clock' fresh' c).2 =
          .error ⟨.unauthorized, "invalid refresh token"⟩)

/-- A call that fails by the server's own fault has asked for an access token whose end has no date,
and everything else that it asked for has been done and stays. -/
theorem failure_aftermath (hfail : (s.call clock fresh c).2 = .error p)
    (hinternal : p.category = .internal) : Aftermath s clock fresh c p := by
  obtain ⟨⟨store, u, hp⟩, hd, htold⟩ := internal_iff.1 ⟨hfail, hinternal⟩
  have hstore : (s.call clock fresh c).1 = { s with identity := store } := by
    rw [call_of_passes hp]
  refine ⟨htold, hd, ⟨u, by rwa [hstore]⟩, by rw [hstore], fun keys => ?_, ?_, ?_, ?_⟩
  · rw [hstore, call_of_passes (s := { s with keys }) hp]
  · rintro email password rfl clock' fresh'
    cases hp with
    | register hok =>
      have htaken : u.email ∈ ((s.identity.addUser u).issue clock.wall fresh.token u.id).emails :=
        Identity.mem_emails_addUser.2 (.inl rfl)
      rw [hstore]
      exact call_register_refused (register_again hok htaken)
  · rintro email password rfl
    cases hp with
    | login hok =>
      rw [hstore]
      exact ⟨rfl, rfl, fun clock' fresh' => login_again s clock' fresh' _ _ _ _ _⟩
  · rintro token rfl
    cases hp with
    | refresh hr hspent hexpires hu =>
      rw [hstore]
      refine ⟨rfl, rfl, fun hother clock' fresh' => ?_⟩
      exact call_refresh_refused (r := .badRefreshToken) (refresh_again hother)

/-! ## A service without tokens -/

/-- A service whose access tokens would last for two million years. -/
def endless : Service := empty .plain ⟨"secret", 1000000000000⟩ {}

/-- The beginning of 2030. -/
def newYear : Clock := ⟨1893456000000, 0⟩

/-- What is drawn for a call. -/
def drawn (n : Nat) (token : String) : Fresh := ⟨⟨n⟩, [], token, ⟨9⟩, n⟩

/-- The account of whoever registers first. -/
def firstUser : User := ⟨⟨1⟩, "a@example.com", "password123", 1893456000000⟩

theorem endless_undated : ¬ endless.keys.Dated newYear.wall := by decide

/-- The service once somebody has registered, which has failed. -/
def joined : Service :=
  { endless with
    identity := (endless.identity.addUser firstUser).issue newYear.wall "first" firstUser.id }

/-- The account that is asked for in vain is there, and so is a refresh token for it, and when it is
asked for again its email is taken. -/
theorem failure_leaves_account :
    let before := endless
    let call := Call.register "a@example.com" "password123"
    let after := (before.call newYear (drawn 1 "first") call).1
    (before.call newYear (drawn 1 "first") call).2 =
        .error ⟨.internal, "Failed to calculate JWT expiration time"⟩ ∧
      firstUser.id ∉ before.identity.users ∧ after.identity.users[firstUser.id]? = some firstUser ∧
      "a@example.com" ∉ before.identity.emails ∧
      after.identity.emails["a@example.com"]? = some firstUser.id ∧
      "first" ∉ before.identity.refreshTokens ∧ "first" ∈ after.identity.refreshTokens ∧
      (after.call newYear (drawn 2 "second") call).2 =
        .error ⟨.conflict, "email already registered"⟩ := by
  intro before call after
  have hp : Passes endless.identity newYear.wall (drawn 1 "first") call joined.identity firstUser :=
    .register (by decide +kernel)
  have hafter : after = joined := congrArg Prod.fst (call_of_passes hp)
  have hfail : (before.call newYear (drawn 1 "first") call).2 =
      .error ⟨.internal, "Failed to calculate JWT expiration time"⟩ :=
    (internal_iff.2 ⟨⟨_, _, hp⟩, endless_undated, rfl⟩).1
  rw [hafter]
  refine ⟨hfail, by decide +kernel, by decide +kernel, by decide +kernel, by decide +kernel,
    by decide +kernel, by decide +kernel, ?_⟩
  exact call_register_refused (r := .emailTaken) (by decide +kernel)

/-- Whoever then presents the refresh token of that account is not told what has replaced it, and is
turned away with it from then on. -/
theorem failure_aftermath_spent :
    (joined.call newYear (drawn 3 "third") (.refresh "first")).2 =
        .error ⟨.internal, "Failed to calculate JWT expiration time"⟩ ∧
      ∀ clock fresh, ((joined.call newYear (drawn 3 "third") (.refresh "first")).1.call clock fresh
        (.refresh "first")).2 = .error ⟨.unauthorized, "invalid refresh token"⟩ := by
  have hp : Passes joined.identity newYear.wall (drawn 3 "third") (.refresh "first") _ firstUser :=
    .refresh (r := ⟨⟨1⟩, newYear.wall, newYear.wall + Identity.refreshLifetime, false⟩)
      (by decide +kernel) rfl (by decide) (by decide +kernel)
  have hfail : (joined.call newYear (drawn 3 "third") (.refresh "first")).2 =
      .error ⟨.internal, "Failed to calculate JWT expiration time"⟩ :=
    (internal_iff.2 ⟨⟨_, _, hp⟩, endless_undated, rfl⟩).1
  have hleft := failure_aftermath hfail rfl
  exact ⟨hfail, (hleft.presents "first" rfl).2.2 (by decide)⟩

end Service

end Switchboard
