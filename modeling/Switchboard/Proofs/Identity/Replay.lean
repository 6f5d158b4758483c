import Mathlib.Data.List.Basic
import Switchboard.Proofs.Identity.Runs

/-! # Spent tokens that are presented again

A spent token is kept so that a second use can be told from a made-up token.  How long it
is kept counts from when it was issued, not from when it was spent: a token that was
spent late is forgotten early, at the next time that somebody spends a good one, and that
may be the very time at which it is spent itself.

* `Forgets` — the events at which that happens;
* `spent_run` — a spent token stays until then;
* `Live`, `live_run` — whoever rotates keeps a good token;
* `replay_detected_iff` — a second use shuts a user out if the token was not forgotten, and
  does nothing if it was.
-/

namespace Switchboard.Identity

/-! ## A spent token -/

/-- An event at which spent tokens that were issued at a time are forgotten. -/
def Forgets (created : Instant) (s : Identity) (e : Instant × Action) : Prop :=
  Prunes s e ∧ created + spentRetention < e.1

section Spent

variable {s : Identity} {key : String} {r : RefreshToken}

theorem spent_next {e : Instant × Action} (hkeyed : s.Keyed)
    (hr : s.refreshTokens[key]? = some r) (hspent : r.spent = true)
    (hkey : key ∉ keys s.scheme [e]) (hrev : ¬ Revokes r.user s e)
    (hlong : r.created + spentRetention ≤ r.expires) :
    (¬ Forgets r.created s e → (s.next e).refreshTokens[key]? = some r) ∧
      (Forgets r.created s e → (s.next e).refreshTokens[key]? = none) := by
  have hcases := turning hkeyed e key
  rw [hr] at hcases
  generalize (s.next e).refreshTokens[key]? = after at hcases
  cases hcases with
  | kept _ _ hkept =>
    refine ⟨fun _ => rfl, fun hforgets => ?_⟩
    obtain ⟨-, hgood | hsoon⟩ := isKept_iff.1 (hkept hforgets.1)
    · rw [hspent] at hgood
      cases hgood
    · exact absurd hforgets.2 (Nat.not_lt.2 hsoon)
  | pruned _ hprunes hgone =>
    refine ⟨fun hstays => absurd ⟨hprunes, ?_⟩ hstays, fun _ => rfl⟩
    obtain hgone | ⟨hgood, -⟩ := hgone
    · -- it is not old enough to have expired, so it is the hour that is over
      rw [Bool.eq_false_iff, Ne, isKept_iff] at hgone
      by_contra hsoon
      rw [Nat.not_lt] at hsoon
      exact hgone ⟨Nat.le_trans hsoon hlong, .inr hsoon⟩
    · rw [hspent] at hgood
      cases hgood
  | issued _ user hi => exact absurd hi.mem_keys hkey
  | revoked _ hrev' => exact absurd hrev' hrev
  | spent _ hgood | expired _ hgood =>
    rw [hspent] at hgood
    cases hgood

/-- A spent token is there until it is forgotten, if nobody revokes it, and not after that. -/
theorem spent_run {as : List (Instant × Action)} (hkeyed : s.Keyed)
    (hr : s.refreshTokens[key]? = some r) (hspent : r.spent = true)
    (hkey : key ∉ keys s.scheme as) (hrev : ¬ Occurs next (Revokes r.user) s as)
    (hlong : r.created + spentRetention ≤ r.expires) :
    (¬ Occurs next (Forgets r.created) s as → (s.run as).1.refreshTokens[key]? = some r) ∧
      (Occurs next (Forgets r.created) s as → (s.run as).1.refreshTokens[key]? = none) := by
  induction as generalizing s with
  | nil => exact ⟨fun _ => hr, fun hocc => hocc.elim⟩
  | cons e as ih =>
    rw [keys_cons, List.mem_append, not_or] at hkey
    obtain ⟨hkey, hkey'⟩ := hkey
    rw [← (keeps_next s e).scheme] at hkey'
    rw [Occurs, not_or] at hrev
    have hkeyed' := (keeps_next s e).keyed hkeyed
    obtain ⟨hstays, hgoes⟩ := spent_next hkeyed hr hspent hkey hrev.1 hlong
    rw [run_cons]
    by_cases hforgets : Forgets r.created s e
    · -- once forgotten the key stays unknown, as it is not drawn again
      refine ⟨fun hstays => absurd (.inl hforgets) hstays, fun _ => ?_⟩
      exact absent_run hkeyed' hkey' (hgoes hforgets)
    · obtain ⟨hstays', hgoes'⟩ := ih hkeyed' (hstays hforgets) hkey' hrev.2
      refine ⟨fun hnone => hstays' fun hocc => hnone (.inr hocc), fun hocc => ?_⟩
      exact hgoes' (hocc.resolve_left hforgets)

/-- A token that is being spent is known as spent afterwards, unless it is forgotten at once. -/
theorem lookup_next_rotate {now : Instant} {successor token : String} {u : User}
    (hr : s.refreshTokens[s.scheme.digest token]? = some r) (hspent : r.spent = false)
    (hexp : now ≤ r.expires) (hu : s.users[r.user]? = some u)
    (hkey : s.scheme.digest successor ≠ s.scheme.digest token) :
    (s.next (now, .rotate successor token)).refreshTokens[s.scheme.digest token]? =
      if r.created + spentRetention < now then none else some { r with spent := true } := by
  change (s.rotate now successor token).1.refreshTokens[s.scheme.digest token]? = _
  rw [rotate_of_good hr hspent hexp, hu]
  dsimp only
  rw [lookup_issue]
  change (if s.scheme.digest successor = s.scheme.digest token then _ else _) = _
  rw [if_neg hkey, lookup_spend, if_pos rfl, Option.filter_some]
  by_cases hlate : r.created + spentRetention < now
  · rw [if_pos hlate, if_neg]
    rw [isKept_iff]
    rintro ⟨-, hgood | hsoon⟩
    · cases hgood
    · exact absurd hlate (Nat.not_lt.2 hsoon)
  · rw [if_neg hlate, if_pos]
    exact isKept_iff.2 ⟨hexp, .inr (Nat.not_lt.1 hlate)⟩

/-- The same, some time after it was spent. -/
theorem spent_since {now : Instant} {successor token : String} {u : User}
    {between : List (Instant × Action)} (hkeyed : s.Keyed)
    (hr : s.refreshTokens[s.scheme.digest token]? = some r) (hspent : r.spent = false)
    (hexp : now ≤ r.expires) (hu : s.users[r.user]? = some u)
    (hkey : s.scheme.digest token ∉ keys s.scheme ((now, .rotate successor token) :: between))
    (hrev : ¬ Occurs next (Revokes r.user) (s.next (now, .rotate successor token)) between)
    (hlong : r.created + spentRetention ≤ r.expires) :
    (¬ Occurs next (Forgets r.created) s ((now, .rotate successor token) :: between) →
      (s.run ((now, .rotate successor token) :: between)).1.refreshTokens[s.scheme.digest token]?
        = some { r with spent := true }) ∧
    (Occurs next (Forgets r.created) s ((now, .rotate successor token) :: between) →
      (s.run ((now, .rotate successor token) :: between)).1.refreshTokens[s.scheme.digest token]?
        = none) := by
  rw [keys_cons, List.mem_append, not_or] at hkey
  obtain ⟨hsuccessor, hlater⟩ := hkey
  have hne : s.scheme.digest successor ≠ s.scheme.digest token :=
    fun heq => hsuccessor (List.mem_singleton.2 heq.symm)
  have hkeyed' := (keeps_next s (now, .rotate successor token)).keyed hkeyed
  have hlater' : s.scheme.digest token ∉
      keys (s.next (now, .rotate successor token)).scheme between := by
    rw [(keeps_next s (now, .rotate successor token)).scheme]
    exact hlater
  have hprunes : Prunes s (now, .rotate successor token) :=
    prunes_rotate_iff.2 ⟨r, hr, hspent, hexp⟩
  have hnext := lookup_next_rotate hr hspent hexp hu hne
  rw [run_cons]
  by_cases hlate : r.created + spentRetention < now
  · rw [if_pos hlate] at hnext
    exact ⟨fun hnone => absurd (.inl ⟨hprunes, hlate⟩) hnone,
      fun _ => absent_run hkeyed' hlater' hnext⟩
  · rw [if_neg hlate] at hnext
    obtain ⟨hstays, hgoes⟩ := spent_run hkeyed' hnext rfl hlater' hrev hlong
    exact ⟨fun hnone => hstays fun hocc => hnone (.inr hocc),
      fun hocc => hgoes (hocc.resolve_left fun hforgets => hlate hforgets.2)⟩

end Spent

/-! ## A good token -/

/-- A user has a token that was issued at a time or later and has not been spent. -/
def Live (since : Instant) (user : AccountId) (s : Identity) : Prop :=
  ∃ (key : String) (r : RefreshToken), s.refreshTokens[key]? = some r ∧ r.user = user ∧
    r.spent = false ∧ since + refreshLifetime ≤ r.expires

section Live

variable {s : Identity} {since : Instant} {user : AccountId}

/-- Spending a good token of a user who is known leaves the user with a new one. -/
theorem live_of_presents {e : Instant × Action} {key : String} {r : RefreshToken}
    (hr : s.refreshTokens[key]? = some r) (hspent : r.spent = false) (hexp : e.1 ≤ r.expires)
    (hu : r.user ∈ s.users) (hsince : since ≤ e.1) (hpresents : Presents key s e) :
    (s.next e).Live since r.user := by
  obtain ⟨now, a⟩ := e
  obtain ⟨fresh, token, rfl, rfl⟩ := hpresents
  obtain ⟨u, hu⟩ := Table.mem_iff_lookup.1 hu
  have hnext : s.next (now, .rotate fresh token)
      = (s.spend now (s.scheme.digest token) r).issue now fresh r.user := by
    change (s.rotate now fresh token).1 = _
    rw [rotate_of_good hr hspent hexp, hu]
  refine ⟨s.scheme.digest fresh, ⟨r.user, now, now + refreshLifetime, false⟩, ?_, rfl, rfl, ?_⟩
  · rw [hnext, lookup_issue]
    exact if_pos rfl
  · exact Nat.add_le_add_right hsince _

theorem live_next {e : Instant × Action} (hkeyed : s.Keyed) (hlive : s.Live since user)
    (hu : user ∈ s.users) (hrev : ¬ Revokes user s e)
    (hapart : ∀ key ∈ s.refreshTokens, key ∉ keys s.scheme [e])
    (hsince : since ≤ e.1) (huntil : e.1 ≤ since + refreshLifetime) :
    (s.next e).Live since user := by
  obtain ⟨key, r, hr, rfl, hspent, hexp⟩ := hlive
  -- the good token stays, unless it is presented and leaves another one behind
  have hgood : e.1 ≤ r.expires := Nat.le_trans huntil hexp
  have hcases := turning hkeyed e key
  rw [hr] at hcases
  generalize hafter : (s.next e).refreshTokens[key]? = after at hcases
  cases hcases with
  | kept => exact ⟨key, r, hafter, rfl, hspent, hexp⟩
  | spent _ _ hpresents => exact live_of_presents hr hspent hgood hu hsince hpresents
  | pruned _ _ hgone =>
    obtain hgone | ⟨-, hpresents⟩ := hgone
    · rw [isKept_iff.2 ⟨hgood, .inl hspent⟩] at hgone
      cases hgone
    · exact live_of_presents hr hspent hgood hu hsince hpresents
  | issued _ user hi => exact absurd hi.mem_keys (hapart key (Table.mem_of_lookup hr))
  | revoked _ hrev' => exact absurd hrev' hrev
  | expired _ _ hlate => exact absurd hlate (Nat.not_lt.2 hgood)

theorem mem_next {e : Instant × Action} {key : String} (hkeyed : s.Keyed)
    (hmem : key ∈ (s.next e).refreshTokens) :
    key ∈ s.refreshTokens ∨ key ∈ keys s.scheme [e] := by
  obtain ⟨r, hr⟩ := Table.mem_iff_lookup.1 hmem
  have hcases := turning hkeyed e key
  rw [hr] at hcases
  cases hbefore : s.refreshTokens[key]? with
  | some r' => exact .inl (Table.mem_of_lookup hbefore)
  | none =>
    rw [hbefore] at hcases
    cases hcases with
    | issued _ user hi => exact .inr hi.mem_keys

/-- A user who is known and has a good token has one, possibly another one, until tokens
that old expire or the user's are revoked. -/
theorem live_run {as : List (Instant × Action)} (hkeyed : s.Keyed)
    (hlive : s.Live since user) (hu : user ∈ s.users)
    (hrev : ¬ Occurs next (Revokes user) s as) (hfresh : (keys s.scheme as).Nodup)
    (hapart : ∀ key ∈ s.refreshTokens, key ∉ keys s.scheme as)
    (htimes : ∀ e ∈ as, since ≤ e.1 ∧ e.1 ≤ since + refreshLifetime) :
    (s.run as).1.Live since user := by
  induction as generalizing s with
  | nil => exact hlive
  | cons e as ih =>
    rw [keys_cons] at hfresh
    obtain ⟨-, hfresh', hapart'⟩ := List.nodup_append.1 hfresh
    have hapart₁ : ∀ key ∈ s.refreshTokens, key ∉ keys s.scheme [e] := by
      intro key hmem hmem'
      refine hapart key hmem ?_
      rw [keys_cons]
      exact List.mem_append_left _ hmem'
    have hscheme := (keeps_next s e).scheme
    rw [Occurs, not_or] at hrev
    obtain ⟨hsince, huntil⟩ := htimes e List.mem_cons_self
    rw [run_cons]
    refine ih ((keeps_next s e).keyed hkeyed)
      (live_next hkeyed hlive hu hrev.1 hapart₁ hsince huntil) ((keeps_next s e).stays user hu)
      hrev.2 (by rw [hscheme]; exact hfresh') ?_
      fun e' he' => htimes e' (List.mem_cons_of_mem _ he')
    intro key hmem
    rw [hscheme]
    intro hlater
    obtain hold | hnew := mem_next hkeyed hmem
    · refine hapart key hold ?_
      rw [keys_cons]
      exact List.mem_append_right _ hlater
    · exact hapart' key hnew key hlater rfl

end Live

/-! ## Presenting a spent token again -/

/-- After what has happened so far, a token with a key is refused for good: in no orderly
run that goes on from there does anybody get a new token for it. -/
def ShutOut (scheme : Scheme) (past : List (Instant × Action)) (key : String) : Prop :=
  ∀ later now fresh token, Orderly scheme (past ++ later) → (∀ e ∈ past ++ later, e.1 ≤ now) →
    scheme.digest token = key →
    (((empty scheme).run (past ++ later)).1.rotate now fresh token).2 = .error .badRefreshToken

section Replay

variable {scheme : Scheme} {past : List (Instant × Action)} {now : Instant} {user : AccountId}

/-- A key that was issued and is not known any more is shut out. -/
theorem shutOut_of_absent {key : String} (hmem : key ∈ keys scheme past)
    (hr : ((empty scheme).run past).1.refreshTokens[key]? = none) :
    ShutOut scheme past key := by
  rintro later now fresh token horderly - rfl
  have hfresh := horderly.fresh
  rw [keys_append] at hfresh
  obtain ⟨-, -, hapart⟩ := List.nodup_append.1 hfresh
  have hscheme : ((empty scheme).run past).1.scheme = scheme := (keeps_run _ past).scheme
  have hlater : scheme.digest token ∉ keys ((empty scheme).run past).1.scheme later := by
    rw [hscheme]
    exact fun hmem' => hapart _ hmem _ hmem' rfl
  have habsent := absent_run (keyed_of_run scheme past) hlater hr
  rw [← run_append] at habsent
  have hscheme' : ((empty scheme).run (past ++ later)).1.scheme = scheme :=
    (keeps_run _ _).scheme
  rw [rotate_of_unknown (by rw [hscheme']; exact habsent)]

/-- Revoking a user's tokens takes away everything that was issued to the user. -/
theorem absent_of_revoke {key : String} (hfresh : (keys scheme past).Nodup)
    (hocc : Occurs next (Issues now user key) (empty scheme) past) :
    ((((empty scheme).run past).1.revoke user).refreshTokens)[key]? = none := by
  rw [lookup_revoke]
  cases hr : ((empty scheme).run past).1.refreshTokens[key]? with
  | none => rfl
  | some r =>
    -- whatever has the key was issued with it, and that was to the same user
    have huser := (issues_unique hfresh hocc (issued_of_lookup hr).1).2
    rw [Option.filter_some, if_neg (by simp [huser])]

/-- A user who has a good token is not shut out with every token. -/
theorem Live.not_shutOut {since : Instant} {e : Instant × Action}
    (hlive : ((empty scheme).run past).1.Live since user)
    (hu : user ∈ ((empty scheme).run past).1.users)
    (hsame : ((empty scheme).run (past ++ [e])).1 = ((empty scheme).run past).1)
    (horderly : Orderly scheme (past ++ [e])) (htimes : ∀ e' ∈ past ++ [e], e'.1 ≤ e.1)
    (huntil : e.1 ≤ since + refreshLifetime) :
    ∃ key now, Occurs next (Issues now user key) (empty scheme) past ∧
      ¬ ShutOut scheme (past ++ [e]) key := by
  obtain ⟨key, r, hr, rfl, hspent, hexp⟩ := hlive
  have hocc := (issued_of_lookup hr).1
  refine ⟨key, r.created, hocc, fun hshut => ?_⟩
  obtain ⟨token, -, rfl⟩ := List.mem_map.1 (mem_keys_of_issues hocc)
  have hscheme : ((empty scheme).run past).1.scheme = scheme := (keeps_run _ past).scheme
  obtain ⟨u, hu⟩ := Table.mem_iff_lookup.1 hu
  have hrefused := hshut [] e.1 "" token (by rw [List.append_nil]; exact horderly)
    (by rw [List.append_nil]; exact htimes) rfl
  rw [List.append_nil, hsame, rotate_of_good (r := r) (by rw [hscheme]; exact hr) hspent
    (Nat.le_trans huntil hexp), hu] at hrefused
  cases hrefused

/-- Whoever spends a good token has one for as long as tokens last, unless they are revoked. -/
theorem live_since {before between : List (Instant × Action)} {s : Instant}
    {token successor : String} {r : RefreshToken} {u : User}
    (horderly : Orderly scheme (before ++ (s, .rotate successor token) :: between))
    (hr : ((empty scheme).run before).1.refreshTokens[
      ((empty scheme).run before).1.scheme.digest token]? = some r)
    (hspent : r.spent = false) (hexp : s ≤ r.expires)
    (hu : ((empty scheme).run before).1.users[r.user]? = some u)
    (hrev : ¬ Occurs next (Revokes r.user)
      (((empty scheme).run before).1.next (s, .rotate successor token)) between)
    (huntil : ∀ e ∈ between, e.1 ≤ s + refreshLifetime) :
    ((empty scheme).run (before ++ (s, .rotate successor token) :: between)).1.Live s r.user := by
  have hrun : ((empty scheme).run (before ++ [(s, .rotate successor token)])).1
      = ((empty scheme).run before).1.next (s, .rotate successor token) := run_append _ _ _
  have hmem : r.user ∈ ((empty scheme).run before).1.users := Table.mem_of_lookup hu
  have hkept := keeps_next ((empty scheme).run before).1 (s, .rotate successor token)
  have hscheme : (((empty scheme).run before).1.next (s, .rotate successor token)).scheme
      = scheme := hkept.scheme.trans (keeps_run _ before).scheme
  have hfresh := horderly.fresh
  rw [keys_append, keys_cons, ← List.append_assoc, ← keys_append] at hfresh
  obtain ⟨-, hfresh', hapart⟩ := List.nodup_append.1 hfresh
  rw [run_append, run_cons]
  refine live_run (hkept.keyed (keyed_of_run scheme before))
    (live_of_presents hr hspent hexp hmem (Nat.le_refl s) ⟨successor, token, rfl, rfl⟩)
    (hkept.stays _ hmem) hrev (by rw [hscheme]; exact hfresh') ?_
    fun e he => ⟨horderly.le_later e he, huntil e he⟩
  -- what is known so far was issued so far
  intro key hin
  rw [hscheme]
  rw [← hrun] at hin
  obtain ⟨r', hr'⟩ := Table.mem_iff_lookup.1 hin
  exact fun hlater => hapart key (mem_keys_of_issues (issued_of_lookup hr').1) key hlater rfl

/-- What is known of a token that was spent in a run, at the end of the run. -/
theorem spent_at_end {before between : List (Instant × Action)} {s : Instant}
    {token successor : String} {r : RefreshToken} {u : User}
    (horderly : Orderly scheme (before ++ (s, .rotate successor token) :: between))
    (hr : ((empty scheme).run before).1.refreshTokens[
      ((empty scheme).run before).1.scheme.digest token]? = some r)
    (hspent : r.spent = false) (hexp : s ≤ r.expires)
    (hu : ((empty scheme).run before).1.users[r.user]? = some u)
    (hrev : ¬ Occurs next (Revokes r.user)
      (((empty scheme).run before).1.next (s, .rotate successor token)) between) :
    let h := ((empty scheme).run (before ++ (s, .rotate successor token) :: between)).1
    let forgotten := Occurs next (Forgets r.created) ((empty scheme).run before).1
      ((s, .rotate successor token) :: between)
    Occurs next (Issues r.created r.user (scheme.digest token)) (empty scheme) before ∧
      (¬ forgotten →
        h.refreshTokens[scheme.digest token]? = some { r with spent := true }) ∧
      (forgotten → h.refreshTokens[scheme.digest token]? = none) := by
  intro h forgotten
  have hscheme : ((empty scheme).run before).1.scheme = scheme := (keeps_run _ before).scheme
  obtain ⟨hocc, hlife⟩ := issued_of_lookup hr
  have hlong : r.created + spentRetention ≤ r.expires := by
    rw [hlife]
    exact Nat.add_le_add_left (by decide) _
  -- no token that is drawn later has its key
  have hapart := horderly.fresh
  rw [keys_append] at hapart
  obtain ⟨-, -, hapart⟩ := List.nodup_append.1 hapart
  have hkey : ((empty scheme).run before).1.scheme.digest token ∉
      keys ((empty scheme).run before).1.scheme ((s, .rotate successor token) :: between) := by
    have hmem := mem_keys_of_issues hocc
    rw [hscheme] at hmem ⊢
    exact fun hmem' => hapart _ hmem _ hmem' rfl
  have hsince := spent_since (keyed_of_run scheme before) hr hspent hexp hu hkey hrev hlong
  rw [← run_append, hscheme] at hsince
  rw [hscheme] at hocc
  exact ⟨hocc, hsince⟩

theorem good_of_ok {s : Identity} {successor token : String} {u : User} {new : String}
    (hok : (s.rotate now successor token).2 = .ok (u, new)) :
    ∃ r, s.refreshTokens[s.scheme.digest token]? = some r ∧ r.spent = false ∧
      now ≤ r.expires ∧ s.users[r.user]? = some u := by
  have hcases := rotating s now successor token
  generalize s.rotate now successor token = out at hcases hok
  cases hcases with
  | rotated r u' hr hspent hexp hu =>
    cases hok
    exact ⟨r, hr, hspent, hexp, hu⟩
  | unknown | replayed | expired | orphaned => cases hok

/-- A token that was spent and is presented again within the hour is refused, and nothing
happens to anybody else's.  Everything that its user was ever issued is shut out by that if
the token has not been forgotten since it was spent, and only then: that is, if nobody
spent a good one later than an hour after this one was issued. -/
theorem replay_detected_iff {before between : List (Instant × Action)} {s s' : Instant}
    {token successor fresh : String} {u : User}
    (horderly : Orderly scheme
      (before ++ (s, .rotate successor token) :: between ++ [(s', .rotate fresh token)]))
    (hok : (((empty scheme).run before).1.rotate s successor token).2 = .ok (u, successor))
    (hkept : ¬ Occurs next (Revokes u.id)
      (((empty scheme).run before).1.next (s, .rotate successor token)) between)
    (hsoon : s' ≤ s + spentRetention) :
    let past := before ++ (s, .rotate successor token) :: between
    let h := ((empty scheme).run past).1
    (h.rotate s' fresh token).2 = .error .badRefreshToken ∧
    (∀ (key : String) (r : RefreshToken), r.user ≠ u.id →
      ((h.rotate s' fresh token).1.refreshTokens[key]? = some r ↔
        h.refreshTokens[key]? = some r)) ∧
    ∃ c, Occurs next (Issues c u.id (scheme.digest token)) (empty scheme) before ∧
      ((∀ key now, Occurs next (Issues now u.id key) (empty scheme) past →
          ShutOut scheme (past ++ [(s', .rotate fresh token)]) key) ↔
        ¬ Occurs next (Forgets c) ((empty scheme).run before).1
          ((s, .rotate successor token) :: between)) := by
  intro past h
  have hscheme : h.scheme = scheme := (keeps_run _ past).scheme
  obtain ⟨r, hr, hspent, hexp, hu⟩ := good_of_ok hok
  have hid : u.id = r.user := keyed_of_run scheme before r.user u hu
  rw [hid] at hkept ⊢
  obtain ⟨hocc, hstays, hgoes⟩ := spent_at_end horderly.of_append hr hspent hexp hu hkept
  -- what the second use does depends on whether the token is still known
  by_cases hforgotten : Occurs next (Forgets r.created) ((empty scheme).run before).1
      ((s, .rotate successor token) :: between)
  · have hout : h.rotate s' fresh token = (h, .error .badRefreshToken) :=
      rotate_of_unknown (by rw [hscheme]; exact hgoes hforgotten)
    rw [hout]
    refine ⟨rfl, fun _ _ _ => Iff.rfl, r.created, hocc, fun hall => ?_, fun hnone => ?_⟩
    · have hend : s' ≤ s + refreshLifetime :=
        Nat.le_trans hsoon (Nat.add_le_add_left (by decide) _)
      have hlive := live_since horderly.of_append hr hspent hexp hu hkept fun e he =>
        Nat.le_trans (horderly.le_last e (by simp [he])) hend
      have husers : r.user ∈ ((empty scheme).run past).1.users := by
        rw [run_append]
        exact (keeps_run _ _).stays _ (Table.mem_of_lookup hu)
      have hsame : ((empty scheme).run (past ++ [(s', .rotate fresh token)])).1 = h := by
        rw [run_append]
        change (h.rotate s' fresh token).1 = h
        rw [hout]
      obtain ⟨key, now, hocc', hnot⟩ :=
        Live.not_shutOut hlive husers hsame horderly horderly.le_last hend
      exact absurd (hall key now hocc') hnot
    · exact absurd hforgotten hnone
  · have hout : h.rotate s' fresh token = (h.revoke r.user, .error .badRefreshToken) :=
      rotate_of_spent (r := { r with spent := true })
        (by rw [hscheme]; exact hstays hforgotten) rfl
    rw [hout]
    refine ⟨rfl, fun key r' hother => ?_, r.created, hocc, fun _ => hforgotten,
      fun _ key now hocc' => ?_⟩
    · rw [lookup_revoke, Option.filter_eq_some_iff]
      exact ⟨And.left, fun hr' => ⟨hr', by simpa using hother⟩⟩
    · refine shutOut_of_absent ?_ ?_
      · rw [keys_append]
        exact List.mem_append_left _ (mem_keys_of_issues hocc')
      · rw [run_append]
        change (h.rotate s' fresh token).1.refreshTokens[key]? = none
        rw [hout]
        exact absent_of_revoke horderly.of_append.fresh hocc'

end Replay

/-- An account, and its first refresh token. -/
def enrolling : List (Instant × Action) :=
  [(0, .register ⟨1⟩ [] "a@example.com" "password123"), (0, .issue "first" ⟨1⟩)]

/-- The account that is registered by that. -/
def enrolled : User := ⟨⟨1⟩, "a@example.com", "password123", 0⟩

/-- A token is spent soon, and presented again: its successor is shut out. -/
theorem replay_detected_soon :
    Orderly .plain
        (enrolling ++ [(1000, .rotate "second" "first"), (2000, .rotate "third" "first")]) ∧
      ShutOut .plain
        (enrolling ++ [(1000, .rotate "second" "first"), (2000, .rotate "third" "first")])
        "second" := by
  have horderly : Orderly .plain
      (enrolling ++ (1000, .rotate "second" "first") :: [] ++ [(2000, .rotate "third" "first")]) :=
    ⟨by decide, by decide⟩
  have hok : (((empty .plain).run enrolling).1.rotate 1000 "second" "first").2
      = .ok (enrolled, "second") := by decide +kernel
  have hfirst : Occurs next (Issues 0 ⟨1⟩ "first") (empty .plain) enrolling :=
    .inr (.inl ⟨rfl, "first", rfl, .inl rfl⟩)
  have hsecond : Occurs next (Issues 1000 ⟨1⟩ "second") (empty .plain)
      (enrolling ++ [(1000, .rotate "second" "first")]) :=
    .inr (.inr (.inl ⟨rfl, "second", rfl, .inr ⟨"first", enrolled, rfl, hok, rfl⟩⟩))
  obtain ⟨-, -, c, hissued, hiff⟩ :=
    replay_detected_iff horderly hok (fun hocc => hocc) (by decide)
  obtain ⟨rfl, -⟩ := issues_unique (by decide) hissued hfirst
  refine ⟨horderly, hiff.2 ?_ "second" 1000 hsecond⟩
  rintro (⟨-, hlate⟩ | hnever)
  · exact absurd hlate (by decide)
  · exact hnever

/-- A token is spent more than an hour after it was issued, and presented again within the
same second: its successor is as good as before. -/
theorem replay_missed_late :
    Orderly .plain (enrolling ++
        [(3600001, .rotate "second" "first"), (3600002, .rotate "third" "first"),
          (3600003, .rotate "fourth" "second")]) ∧
      (((empty .plain).run enrolling).1.rotate 3600001 "second" "first").2
        = .ok (enrolled, "second") ∧
      (((empty .plain).run (enrolling ++ [(3600001, .rotate "second" "first")])).1.rotate
        3600002 "third" "first").2 = .error .badRefreshToken ∧
      (((empty .plain).run (enrolling ++
        [(3600001, .rotate "second" "first"), (3600002, .rotate "third" "first")])).1.rotate
          3600003 "fourth" "second").2 = .ok (enrolled, "fourth") :=
  ⟨⟨by decide, by decide⟩, by decide +kernel, by decide +kernel, by decide +kernel⟩

end Switchboard.Identity
