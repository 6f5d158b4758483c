import Switchboard.Identity.Run
import Switchboard.Proofs.Table

/-! # What happens to a refresh token

The store knows refresh tokens by their keys.  Whatever is asked of it, what becomes of
the token under one key is one of seven things, and `Turning` lists them, each with what
led to it.

* `Rotating` — what presenting a token can do;
* `Issues`, `Revokes`, `Prunes` — the events that concern refresh tokens;
* `Turning` — what an event does to the token under a key.
-/

namespace Switchboard.Identity

/-! ## Looking up -/

section Lookup

variable (s : Identity) (now : Instant) (key : String)

theorem lookup_issue (token : String) (user : AccountId) :
    (s.issue now token user).refreshTokens[key]? =
      if s.scheme.digest token = key then some ⟨user, now, now + refreshLifetime, false⟩
      else s.refreshTokens[key]? :=
  Table.lookup_insert _ _ _ _

theorem lookup_revoke (user : AccountId) :
    (s.revoke user).refreshTokens[key]?
      = s.refreshTokens[key]?.filter fun r => r.user ≠ user := by
  unfold revoke
  rw [Table.lookup_filter]

theorem lookup_prune :
    (s.prune now).refreshTokens[key]? = s.refreshTokens[key]?.filter (isKept now) :=
  Table.lookup_filter _ _ _

end Lookup

theorem isKept_iff {now : Instant} {r : RefreshToken} :
    isKept now r = true ↔
      now ≤ r.expires ∧ (r.spent = false ∨ now ≤ r.created + spentRetention) := by
  simp [isKept]

/-- Nobody can be found under a name that is not theirs. -/
def Keyed (s : Identity) : Prop :=
  ∀ (k : AccountId) (u : User), s.users[k]? = some u → u.id = k

/-! ## Presenting a token -/

/-- The store in which a token is marked as spent, and what is no longer kept is forgotten. -/
def spend (s : Identity) (now : Instant) (key : String) (r : RefreshToken) : Identity :=
  { s with refreshTokens := s.refreshTokens.insert key { r with spent := true } }.prune now

theorem lookup_spend (s : Identity) (now : Instant) (key key' : String) (r : RefreshToken) :
    (s.spend now key r).refreshTokens[key']? =
      (if key = key' then some { r with spent := true } else s.refreshTokens[key']?).filter
        (isKept now) := by
  unfold spend
  rw [lookup_prune, Table.lookup_insert]

/-- What presenting a token can do. -/
inductive Rotating (s : Identity) (now : Instant) (fresh token : String) :
    Identity × Except Refusal (User × String) → Prop
  | unknown : s.refreshTokens[s.scheme.digest token]? = none →
      Rotating s now fresh token (s, .error .badRefreshToken)
  | replayed (r : RefreshToken) : s.refreshTokens[s.scheme.digest token]? = some r →
      r.spent = true → Rotating s now fresh token (s.revoke r.user, .error .badRefreshToken)
  | expired (r : RefreshToken) : s.refreshTokens[s.scheme.digest token]? = some r →
      r.spent = false → r.expires < now →
      Rotating s now fresh token
        ({ s with refreshTokens := s.refreshTokens.erase (s.scheme.digest token) },
          .error .badRefreshToken)
  | orphaned (r : RefreshToken) : s.refreshTokens[s.scheme.digest token]? = some r →
      r.spent = false → now ≤ r.expires → s.users[r.user]? = none →
      Rotating s now fresh token
        (s.spend now (s.scheme.digest token) r, .error .badRefreshToken)
  | rotated (r : RefreshToken) (u : User) :
      s.refreshTokens[s.scheme.digest token]? = some r → r.spent = false → now ≤ r.expires →
      s.users[r.user]? = some u →
      Rotating s now fresh token
        ((s.spend now (s.scheme.digest token) r).issue now fresh r.user, .ok (u, fresh))

section Rotating

variable {s : Identity} {now : Instant} {fresh token : String} {r : RefreshToken}

theorem rotate_of_unknown (hr : s.refreshTokens[s.scheme.digest token]? = none) :
    s.rotate now fresh token = (s, .error .badRefreshToken) := by
  unfold rotate
  simp only [hr]

theorem rotate_of_spent (hr : s.refreshTokens[s.scheme.digest token]? = some r)
    (hspent : r.spent = true) :
    s.rotate now fresh token = (s.revoke r.user, .error .badRefreshToken) := by
  unfold rotate
  simp only [hr, hspent, if_true]

/-- What a good token is worth depends on whether its user is known. -/
theorem rotate_of_good (hr : s.refreshTokens[s.scheme.digest token]? = some r)
    (hspent : r.spent = false) (hexp : now ≤ r.expires) :
    s.rotate now fresh token =
      match s.users[r.user]? with
      | some u =>
        ((s.spend now (s.scheme.digest token) r).issue now fresh r.user, .ok (u, fresh))
      | none => (s.spend now (s.scheme.digest token) r, .error .badRefreshToken) := by
  unfold rotate
  simp only [hr, hspent, Bool.false_eq_true, if_false, Nat.not_lt.2 hexp]
  rfl

theorem rotating (s : Identity) (now : Instant) (fresh token : String) :
    Rotating s now fresh token (s.rotate now fresh token) := by
  cases hr : s.refreshTokens[s.scheme.digest token]? with
  | none =>
    rw [rotate_of_unknown hr]
    exact .unknown hr
  | some r =>
    cases hspent : r.spent with
    | true =>
      rw [rotate_of_spent hr hspent]
      exact .replayed r hr hspent
    | false =>
      by_cases hexp : r.expires < now
      · unfold rotate
        simp only [hr, hspent, Bool.false_eq_true, if_false, hexp, if_true]
        exact .expired r hr hspent hexp
      · rw [Nat.not_lt] at hexp
        rw [rotate_of_good hr hspent hexp]
        cases hu : s.users[r.user]? with
        | none => exact .orphaned r hr hspent hexp hu
        | some u => exact .rotated r u hr hspent hexp hu

end Rotating

/-! ## Events -/

/-- An event at which a user gets a token with a key. -/
def Issues (now : Instant) (user : AccountId) (key : String) (s : Identity)
    (e : Instant × Action) : Prop :=
  e.1 = now ∧ ∃ token, s.scheme.digest token = key ∧
    (e.2 = .issue token user ∨
      ∃ old u, e.2 = .rotate token old ∧ (s.rotate now token old).2 = .ok (u, token) ∧
        u.id = user)

/-- An event at which all tokens of a user are revoked, because somebody asked for it or
because a spent one was presented. -/
def Revokes (user : AccountId) (s : Identity) (e : Instant × Action) : Prop :=
  e.2 = .revoke user ∨
    ∃ fresh token r, e.2 = .rotate fresh token ∧
      s.refreshTokens[s.scheme.digest token]? = some r ∧ r.spent = true ∧ r.user = user

/-- An event at which a token is spent that is good, so that the others are gone through. -/
def Prunes (s : Identity) (e : Instant × Action) : Prop :=
  ∃ fresh token r, e.2 = .rotate fresh token ∧
    s.refreshTokens[s.scheme.digest token]? = some r ∧ r.spent = false ∧ e.1 ≤ r.expires

/-- An event at which the token with a key is presented. -/
def Presents (key : String) (s : Identity) (e : Instant × Action) : Prop :=
  ∃ fresh token, e.2 = .rotate fresh token ∧ s.scheme.digest token = key

theorem revokes_rotate_iff {s : Identity} {now : Instant} {fresh token : String}
    {user : AccountId} : Revokes user s (now, .rotate fresh token) ↔
      ∃ r, s.refreshTokens[s.scheme.digest token]? = some r ∧ r.spent = true ∧
        r.user = user := by
  constructor
  · rintro (hrev | ⟨_, _, r, heq, hr⟩)
    · cases hrev
    · cases heq
      exact ⟨r, hr⟩
  · rintro ⟨r, hr⟩
    exact .inr ⟨fresh, token, r, rfl, hr⟩

theorem prunes_rotate_iff {s : Identity} {now : Instant} {fresh token : String} :
    Prunes s (now, .rotate fresh token) ↔
      ∃ r, s.refreshTokens[s.scheme.digest token]? = some r ∧ r.spent = false ∧
        now ≤ r.expires := by
  constructor
  · rintro ⟨_, _, r, heq, hr⟩
    cases heq
    exact ⟨r, hr⟩
  · rintro ⟨r, hr⟩
    exact ⟨fresh, token, r, rfl, hr⟩

/-- The store after an event. -/
def next (s : Identity) (e : Instant × Action) : Identity := (s.step e.1 e.2).1

/-- What becomes of the token under a key at an event: what was known under the key before,
and what is known after. -/
inductive Turning (s : Identity) (e : Instant × Action) (key : String) :
    Option RefreshToken → Option RefreshToken → Prop
  | absent : Turning s e key none none
  | issued (known : Option RefreshToken) (user : AccountId) : Issues e.1 user key s e →
      Turning s e key known (some ⟨user, e.1, e.1 + refreshLifetime, false⟩)
  | kept (r : RefreshToken) : ¬ Revokes r.user s e → (Prunes s e → isKept e.1 r = true) →
      Turning s e key (some r) (some r)
  | spent (r : RefreshToken) : r.spent = false → Presents key s e →
      Turning s e key (some r) (some { r with spent := true })
  | revoked (r : RefreshToken) : Revokes r.user s e → Turning s e key (some r) none
  | pruned (r : RefreshToken) : Prunes s e →
      isKept e.1 r = false ∨ r.spent = false ∧ Presents key s e → Turning s e key (some r) none
  | expired (r : RefreshToken) : r.spent = false → r.expires < e.1 →
      Turning s e key (some r) none

section Turning

variable {s : Identity} {e : Instant × Action} {key : String}

/-- An event that revokes nothing and spends nothing leaves a token alone. -/
theorem turning_same (hrev : ∀ user, ¬ Revokes user s e) (hprune : ¬ Prunes s e) :
    Turning s e key (s.refreshTokens[key]?) (s.refreshTokens[key]?) := by
  cases s.refreshTokens[key]? with
  | none => exact .absent
  | some r => exact .kept r (hrev r.user) fun hp => absurd hp hprune

/-- When a good token is spent, that one and all others are gone through. -/
theorem turning_spend {now : Instant} {fresh token : String} {r : RefreshToken}
    (hr : s.refreshTokens[s.scheme.digest token]? = some r) (hspent : r.spent = false)
    (hexp : now ≤ r.expires) :
    Turning s (now, .rotate fresh token) key (s.refreshTokens[key]?)
      ((s.spend now (s.scheme.digest token) r).refreshTokens[key]?) := by
  have hprunes : Prunes s (now, .rotate fresh token) :=
    prunes_rotate_iff.2 ⟨r, hr, hspent, hexp⟩
  rw [lookup_spend]
  by_cases hkey : s.scheme.digest token = key
  · -- the token itself is marked, and may be forgotten at once
    subst hkey
    have hpresents : Presents (s.scheme.digest token) s (now, .rotate fresh token) :=
      ⟨fresh, token, rfl, rfl⟩
    rw [if_pos rfl, hr, Option.filter_some]
    cases isKept now { r with spent := true } with
    | true => exact .spent r hspent hpresents
    | false => exact .pruned r hprunes (.inr ⟨hspent, hpresents⟩)
  · -- any other token is kept or not, as it is
    rw [if_neg hkey]
    cases s.refreshTokens[key]? with
    | none => exact .absent
    | some r' =>
      rw [Option.filter_some]
      cases hk : isKept now r' with
      | true => exact .kept r' (by simp [revokes_rotate_iff, hr, hspent]) fun _ => hk
      | false => exact .pruned r' hprunes (.inl hk)

theorem turning_rotate (hkeyed : s.Keyed) (now : Instant) (fresh token : String) :
    Turning s (now, .rotate fresh token) key (s.refreshTokens[key]?)
      ((s.rotate now fresh token).1.refreshTokens[key]?) := by
  have hcases := rotating s now fresh token
  generalize hout : s.rotate now fresh token = out at hcases
  cases hcases with
  | unknown hr =>
    apply turning_same
    · simp [revokes_rotate_iff, hr]
    · simp [prunes_rotate_iff, hr]
  | replayed r hr hspent =>
    -- a replay revokes the tokens of the user, and does not prune
    have hprune : ¬ Prunes s (now, .rotate fresh token) := by
      simp [prunes_rotate_iff, hr, hspent]
    rw [lookup_revoke]
    cases s.refreshTokens[key]? with
    | none => exact .absent
    | some r' =>
      by_cases huser : r.user = r'.user
      · rw [Option.filter_some, if_neg (by simp [huser])]
        exact .revoked r' (revokes_rotate_iff.2 ⟨r, hr, hspent, huser⟩)
      · rw [Option.filter_some, if_pos (by simp [Ne.symm huser])]
        refine .kept r' ?_ fun hp => absurd hp hprune
        simp [revokes_rotate_iff, hr, huser]
  | expired r hr hspent hexp =>
    rw [Table.lookup_erase]
    by_cases hkey : s.scheme.digest token = key
    · subst hkey
      rw [if_pos rfl, hr]
      exact .expired r hspent hexp
    · rw [if_neg hkey]
      apply turning_same
      · simp [revokes_rotate_iff, hr, hspent]
      · simp [prunes_rotate_iff, hr, Nat.not_le.2 hexp]
  -- from here on the token is marked as spent, and the table is pruned
  | orphaned r hr hspent hexp hu => exact turning_spend hr hspent hexp
  | rotated r u hr hspent hexp hu =>
    rw [lookup_issue]
    split
    · rename_i hkey
      refine .issued _ r.user ⟨rfl, fresh, hkey, .inr ⟨token, u, rfl, ?_, hkeyed r.user u hu⟩⟩
      rw [hout]
    · exact turning_spend hr hspent hexp

/-- There is nothing else that can become of a token. -/
theorem turning (hkeyed : s.Keyed) (e : Instant × Action) (key : String) :
    Turning s e key (s.refreshTokens[key]?) ((s.next e).refreshTokens[key]?) := by
  obtain ⟨now, a⟩ := e
  have hsame : (s.next (now, a)).refreshTokens = s.refreshTokens →
      (∀ user, ¬ Revokes user s (now, a)) → ¬ Prunes s (now, a) →
      Turning s (now, a) key (s.refreshTokens[key]?)
        ((s.next (now, a)).refreshTokens[key]?) := by
    intro htokens hrev hprune
    rw [htokens]
    exact turning_same hrev hprune
  cases a with
  | issue token user =>
    change Turning s _ key _ ((s.issue now token user).refreshTokens[key]?)
    rw [lookup_issue]
    split
    · rename_i hkey
      exact .issued _ user ⟨rfl, token, hkey, .inl rfl⟩
    · exact turning_same (by simp [Revokes]) (by simp [Prunes])
  | revoke user =>
    change Turning s _ key _ ((s.revoke user).refreshTokens[key]?)
    rw [lookup_revoke]
    cases s.refreshTokens[key]? with
    | none => exact .absent
    | some r =>
      by_cases huser : r.user = user
      · rw [Option.filter_some, if_neg (by simp [huser])]
        exact .revoked r (.inl (by rw [huser]))
      · rw [Option.filter_some, if_pos (by simp [huser])]
        exact .kept r (by simpa [Revokes] using Ne.symm huser) (by simp [Prunes])
  | rotate fresh token => exact turning_rotate hkeyed now fresh token
  -- the calls from here on do not touch the table of tokens
  | register u salt email password =>
    refine hsame ?_ (by simp [Revokes]) (by simp [Prunes])
    simp only [next, step, Prod.map_fst, register, id]
    split
    · rfl
    · split <;> rfl
  | pair d token account name =>
    refine hsame ?_ (by simp [Revokes]) (by simp [Prunes])
    simp only [next, step, Prod.map_fst, pair, id]
    split <;> rfl
  | unpair account d =>
    refine hsame ?_ (by simp [Revokes]) (by simp [Prunes])
    simp only [next, step, Prod.map_fst, unpair, id]
    split
    · split <;> rfl
    · rfl
  | resolve token =>
    refine hsame ?_ (by simp [Revokes]) (by simp [Prunes])
    simp only [next, step, Prod.map_fst, resolve, id]
    split <;> rfl
  | authenticate email password => exact hsame rfl (by simp [Revokes]) (by simp [Prunes])
  | devices account => exact hsame rfl (by simp [Revokes]) (by simp [Prunes])

end Turning

end Switchboard.Identity
