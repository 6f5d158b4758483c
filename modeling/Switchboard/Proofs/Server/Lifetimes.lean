import Switchboard.Proofs.AccessToken
import Switchboard.Server.Basic

/-! # How long tokens last

The time for which tokens may be used is a setting.  Every number of minutes that fits a signed
word of 64 bits is accepted for it, so it may be one with which no token can be used.

* `Settings.load_secret`, `Settings.load_minutes` — what a server signs with, and for how long;
* `Dated` — the last second of a token lies on a date that can be counted;
* `issue_of_dated`, `issue_of_undated` — that decides whether there is a token;
* `TokensUsable`, `tokens_usable` — which of the settings that are accepted give usable tokens;
* `tokens_unusable` — two that do not.
-/

namespace Switchboard

/-! ## Reading the settings -/

namespace Settings

variable {env : Environment} {settings : Settings}

theorem bind_eq_ok {ε α β : Type} {x : Except ε α} {f : α → Except ε β} {b : β}
    (h : x >>= f = .ok b) : ∃ a, x = .ok a ∧ f a = .ok b := by
  cases x with
  | error e => cases h
  | ok a => exact ⟨a, rfl, h⟩

/-- The settings that tokens depend on are those that were read for them. -/
theorem load_parts (h : load env = .ok settings) :
    loadSecret env = .ok settings.secret ∧
      number Text.int64Of env "JWT_ACCESS_TOKEN_DURATION_MINUTES" "60" =
        .ok settings.tokenMinutes := by
  obtain ⟨port, -, h⟩ := bind_eq_ok h
  obtain ⟨secret, hsecret, h⟩ := bind_eq_ok h
  obtain ⟨minutes, hminutes, h⟩ := bind_eq_ok h
  obtain ⟨windowMs, -, h⟩ := bind_eq_ok h
  obtain ⟨maxRequests, -, h⟩ := bind_eq_ok h
  obtain ⟨relay, -, h⟩ := bind_eq_ok h
  cases h
  exact ⟨hsecret, hminutes⟩

theorem load_secret (h : load env = .ok settings) : env "JWT_SECRET" = some settings.secret := by
  have hsecret := (load_parts h).1
  unfold loadSecret at hsecret
  split at hsecret
  · cases hsecret
  · rename_i secret hset
    split at hsecret
    · cases hsecret
    · cases hsecret
      exact hset

theorem load_minutes (h : load env = .ok settings) :
    Text.int64Of (Text.trim (text env "JWT_ACCESS_TOKEN_DURATION_MINUTES" "60")) =
      some settings.tokenMinutes := by
  have hminutes := (load_parts h).2
  unfold number at hminutes
  split at hminutes
  · rename_i minutes hparsed
    cases hminutes
    exact hparsed
  · cases hminutes

end Settings

/-! ## Dates -/

namespace AccessToken

variable {k : Keys} {now : Instant} {account : AccountId} {email : String} {id : Uuid}

/-- The last second of a token that is issued now lies on a date that can be counted. -/
def Keys.Dated (k : Keys) (now : Instant) : Prop :=
  Calendar.firstSecond ≤ now.seconds + 60 * k.lifetime ∧
    now.seconds + 60 * k.lifetime < Calendar.endSecond

instance (k : Keys) (now : Instant) : Decidable (k.Dated now) := inferInstanceAs (Decidable (_ ∧ _))

/-- The claims of a token that is issued now. -/
def Keys.claimsAt (k : Keys) (now : Instant) (account : AccountId) (email : String) (id : Uuid) :
    Claims :=
  ⟨account.render, (now.seconds + 60 * k.lifetime).toNat, now.seconds, issuer, email, id.render⟩

theorem expiry_of_dated (hd : k.Dated now) :
    k.expiry now = some (now.seconds + 60 * k.lifetime) := if_pos hd

theorem issue_of_dated (hd : k.Dated now) (account : AccountId) (email : String) (id : Uuid) :
    issue k now account email id = .ok (sign k.secret (k.claimsAt now account email id)) := by
  unfold issue Keys.claims
  rw [expiry_of_dated hd]
  rfl

/-- A token without a last second is not issued. -/
theorem issue_of_undated (hd : ¬ k.Dated now) (account : AccountId) (email : String) (id : Uuid) :
    issue k now account email id =
      .error ⟨.internal, "Failed to calculate JWT expiration time"⟩ := by
  have hnone : k.expiry now = none := if_neg hd
  unfold issue Keys.claims
  rw [hnone]
  rfl

/-- Whether a token may be used at the moment at which it is issued. -/
theorem verifyAccount_of_dated (hd : k.Dated now) (hstart : leeway < now.seconds)
    (account : AccountId) (email : String) (id : Uuid) :
    verifyAccount k now (sign k.secret (k.claimsAt now account email id)) =
      if -1 ≤ k.lifetime then .ok (account, k.claimsAt now account email id)
      else .error .expired := by
  obtain ⟨-, hexpires, hissued⟩ := fits_of_expiry (expiry_of_dated hd)
  have hfits : (k.claimsAt now account email id).Fits := ⟨hexpires, hissued⟩
  have hflaw := flaw?_own (c := k.claimsAt now account email id) rfl (Nat.le_of_lt hstart)
  -- clocks may differ by a minute, and no token has expired before the beginning of time
  have hgood : now.seconds ≤ (k.claimsAt now account email id).expires + leeway ↔
      -1 ≤ k.lifetime := by
    simp only [Keys.claimsAt, leeway] at hstart ⊢
    lia
  have hverify := verify_sign (k := k) hfits now
  rw [hflaw] at hverify
  unfold verifyAccount
  by_cases hlong : -1 ≤ k.lifetime
  · have hparse : Uuid.parse (k.claimsAt now account email id).subject = .ok account :=
      Uuid.parse_render account
    rw [if_pos (hgood.2 hlong), Option.elim_none] at hverify
    simp only [hverify, hparse, if_pos hlong]
  · rw [if_neg (fun hearly => hlong (hgood.1 hearly)), Option.elim_some] at hverify
    simp only [hverify, if_neg hlong]

/-- Up to the year 3000 there are dates for some 259000 more years.  A time that cannot be counted
in milliseconds is replaced by an hour. -/
theorem dated_of_minutes (huntil : now.seconds < Calendar.dayNumber 3001 * 86400)
    (hlow : -1 ≤ k.minutes) (hhigh : k.minutes ≤ 136295527680 ∨ maxMinutes < k.minutes) :
    k.Dated now ∧ -1 ≤ k.lifetime := by
  have hfirst : Calendar.firstSecond ≤ -60 := by decide
  have hend : Calendar.dayNumber 3001 * 86400 + 60 * 136295527680 ≤ Calendar.endSecond := by decide
  have hlifetime : -1 ≤ k.lifetime ∧ k.lifetime ≤ 136295527680 := by
    unfold Keys.lifetime
    split
    · next hcounted =>
      refine ⟨hlow, hhigh.resolve_right (Int.not_lt.2 hcounted.2)⟩
    · decide
  refine ⟨⟨?_, ?_⟩, hlifetime.1⟩
  · lia
  · lia

end AccessToken

/-! ## Settings and tokens -/

namespace Server

open AccessToken (Keys issue verifyAccount)

/-- Which tokens a server issues that has been started with settings from an environment, and what
they are good for. -/
structure TokensUsable (env : Settings.Environment) (keys : Keys) (now : Instant)
    (account : AccountId) (email : String) (id : Uuid) : Prop where
  secret : env "JWT_SECRET" = some keys.secret
  minutes : Text.int64Of (Text.trim
    (Settings.text env "JWT_ACCESS_TOKEN_DURATION_MINUTES" "60")) = some keys.minutes
  issued : keys.Dated now → ∃ token, issue keys now account email id = .ok token ∧
    (-1 ≤ keys.lifetime →
      verifyAccount keys now token = .ok (account, keys.claimsAt now account email id))
  refused : ¬ keys.Dated now → issue keys now account email id =
    .error ⟨.internal, "Failed to calculate JWT expiration time"⟩
  /-- Most settings that make sense are good at all times. -/
  dated : -1 ≤ keys.minutes →
    keys.minutes ≤ 136295527680 ∨ AccessToken.maxMinutes < keys.minutes →
    keys.Dated now ∧ -1 ≤ keys.lifetime

/-- Whatever settings are accepted, there are tokens as long as their last second has a date, and
they may be used unless they are to expire more than a minute before they are issued. -/
theorem tokens_usable {env : Settings.Environment} {settings : Settings} {now : Instant}
    (hload : Settings.load env = .ok settings)
    (hfrom : Calendar.dayNumber 2030 * 86400 ≤ now.seconds)
    (huntil : now.seconds < Calendar.dayNumber 3001 * 86400)
    (account : AccountId) (email : String) (id : Uuid) :
    TokensUsable env (start settings).service.keys now account email id := by
  have hstart : AccessToken.leeway < now.seconds := by
    have hlate : (AccessToken.leeway : Int) < Calendar.dayNumber 2030 * 86400 := by decide
    lia
  refine ⟨Settings.load_secret hload, Settings.load_minutes hload, fun hd => ?_,
    fun hd => AccessToken.issue_of_undated hd account email id,
    AccessToken.dated_of_minutes huntil⟩
  refine ⟨_, AccessToken.issue_of_dated hd account email id, fun hlong => ?_⟩
  rw [AccessToken.verifyAccount_of_dated hd hstart, if_pos hlong]

/-- An environment in which nothing is set but the secret and the time that tokens last. -/
def lasting (minutes : String) : Settings.Environment := fun name =>
  if name = "JWT_SECRET" then some "secret"
  else if name = "JWT_ACCESS_TOKEN_DURATION_MINUTES" then some minutes
  else none

theorem load_lasting {minutes : String} {n : Int}
    (hok : (Settings.load (lasting minutes)).isOk)
    (hminutes : Text.int64Of (Text.trim minutes) = some n) :
    ∃ settings, Settings.load (lasting minutes) = .ok settings ∧
      (start settings).service.keys = ⟨"secret", n⟩ := by
  cases hload : Settings.load (lasting minutes) with
  | error flaw =>
    rw [hload] at hok
    cases hok
  | ok settings =>
    have hsecret := Settings.load_secret hload
    have hn := Settings.load_minutes hload
    simp only [lasting, Settings.text, reduceIte, String.reduceEq, Option.getD_some,
      Option.some.injEq, hminutes] at hsecret hn
    exact ⟨settings, rfl, by rw [hsecret, hn]; rfl⟩

/-- With a day to go, at the beginning of 2030. -/
theorem tokens_usable_day :
    ∃ settings, Settings.load (lasting "1440") = .ok settings ∧
      ∃ token, issue (start settings).service.keys 1893456000000 ⟨1⟩ "a@b" ⟨2⟩ = .ok token ∧
        verifyAccount (start settings).service.keys 1893456000000 token =
          .ok (⟨1⟩, (start settings).service.keys.claimsAt 1893456000000 ⟨1⟩ "a@b" ⟨2⟩) := by
  obtain ⟨settings, hload, hkeys⟩ : ∃ settings, Settings.load (lasting "1440") = .ok settings ∧
      (start settings).service.keys = ⟨"secret", 1440⟩ :=
    load_lasting (by decide +kernel) (by decide +kernel)
  have husable : TokensUsable (lasting "1440") (start settings).service.keys 1893456000000
      ⟨1⟩ "a@b" ⟨2⟩ :=
    tokens_usable hload (by decide) (by decide) ⟨1⟩ "a@b" ⟨2⟩
  have hminutes : -1 ≤ (start settings).service.keys.minutes ∧
      (start settings).service.keys.minutes ≤ 136295527680 := by
    rw [hkeys]
    decide
  obtain ⟨hd, hlong⟩ := husable.dated hminutes.1 (.inl hminutes.2)
  obtain ⟨token, hissue, hverify⟩ := husable.issued hd
  exact ⟨settings, hload, token, hissue, hverify hlong⟩

/-- At the beginning of 2030 there is no token for two million years, and one that expired two
minutes ago is of no use. -/
theorem tokens_unusable :
    (∃ settings, Settings.load (lasting "1000000000000") = .ok settings ∧
      issue (start settings).service.keys 1893456000000 ⟨1⟩ "a@b" ⟨2⟩ =
        .error ⟨.internal, "Failed to calculate JWT expiration time"⟩) ∧
    ∃ settings, Settings.load (lasting "-2") = .ok settings ∧
      ∃ token, issue (start settings).service.keys 1893456000000 ⟨1⟩ "a@b" ⟨2⟩ = .ok token ∧
        verifyAccount (start settings).service.keys 1893456000000 token = .error .expired := by
  constructor
  · obtain ⟨settings, hload, hkeys⟩ : ∃ settings,
        Settings.load (lasting "1000000000000") = .ok settings ∧
          (start settings).service.keys = ⟨"secret", 1000000000000⟩ :=
      load_lasting (by decide +kernel) (by decide +kernel)
    refine ⟨settings, hload, ?_⟩
    rw [hkeys]
    exact AccessToken.issue_of_undated (by decide) ⟨1⟩ "a@b" ⟨2⟩
  · obtain ⟨settings, hload, hkeys⟩ : ∃ settings, Settings.load (lasting "-2") = .ok settings ∧
        (start settings).service.keys = ⟨"secret", -2⟩ :=
      load_lasting (by decide +kernel) (by decide +kernel)
    refine ⟨settings, hload, ?_⟩
    rw [hkeys]
    have hd : (Keys.mk "secret" (-2)).Dated 1893456000000 := by decide
    refine ⟨_, AccessToken.issue_of_dated hd ⟨1⟩ "a@b" ⟨2⟩, ?_⟩
    rw [AccessToken.verifyAccount_of_dated hd (by decide)]
    exact if_neg (by decide)

end Server

end Switchboard
