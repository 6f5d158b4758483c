import Mathlib.Data.List.Nodup
import Switchboard.Proofs.Identity.Replay

/-! # Which refresh tokens are good

A refresh token is good from when it is issued until its thirty days are over, unless it is
spent before, or all tokens of its user are revoked.  Nothing else makes it worthless: what is
forgotten when anybody's token is spent has expired or been spent itself.

* `Mints`, `Spends` — the events at which a token is issued, and at which it is spent;
* `Sessions` — runs in which nothing is drawn twice and digests tell tokens apart;
* `good_run` — a good token stays good while nothing of that happens to it;
* `worthless_run` — a token that is spent or unknown stays worthless;
* `mints_of_lookup`, `lookup_of_not` — a good token by what has happened in the run;
* `rotates_iff` — which tokens are taken, and that the others stay as good as they are.
-/

namespace Switchboard.Identity

variable {s : Identity} {scheme : Scheme} {as bs : List (Instant × Action)}
  {e : Instant × Action} {now : Instant} {user : AccountId} {token : String}

/-! ## Issuing and spending -/

/-- An event at which a user gets a token. -/
def Mints (token : String) (user : AccountId) (s : Identity) (e : Instant × Action) : Prop :=
  e.2 = .issue token user ∨
    ∃ old u, e.2 = .rotate token old ∧ (s.rotate e.1 token old).2 = .ok (u, token) ∧ u.id = user

/-- An event at which a token is spent for a new one. -/
def Spends (token : String) (s : Identity) (e : Instant × Action) : Prop :=
  ∃ fresh u, e.2 = .rotate fresh token ∧ (s.rotate e.1 fresh token).2 = .ok (u, fresh)

/-- A run in which time does not go back and no refresh token is drawn twice.  No account gets
an id for which a token has been issued before, and of the strings that are drawn or presented
no two have the same digest. -/
structure Sessions (scheme : Scheme) (strings : String → Prop) (as : List (Instant × Action)) :
    Prop where
  chronological : (as.map Prod.fst).Pairwise (· ≤ ·)
  fresh : (minted as).Nodup
  accounts : as.Pairwise fun e e' => ∀ token user salt email password,
    e.2 = .issue token user → e'.2 ≠ .register user salt email password
  drawn : ∀ token ∈ minted as, strings token
  presented : ∀ e ∈ as, ∀ fresh token, e.2 = .rotate fresh token → strings token
  apart : ∀ x y, strings x → strings y → scheme.digest x = scheme.digest y → x = y

theorem minted_append (as bs : List (Instant × Action)) :
    minted (as ++ bs) = minted as ++ minted bs :=
  List.filterMap_append

theorem Sessions.orderly {strings : String → Prop} (hs : Sessions scheme strings as) :
    Orderly scheme as where
  chronological := hs.chronological
  fresh := hs.fresh.map_on fun x hx y hy => hs.apart x y (hs.drawn x hx) (hs.drawn y hy)

theorem Sessions.of_append {strings : String → Prop} (hs : Sessions scheme strings (as ++ bs)) :
    Sessions scheme strings as where
  chronological := hs.orderly.of_append.chronological
  fresh := by
    have hfresh := hs.fresh
    rw [minted_append] at hfresh
    exact hfresh.of_append_left
  accounts := (List.pairwise_append.1 hs.accounts).1
  drawn token htoken := hs.drawn token (by rw [minted_append]; exact List.mem_append_left _ htoken)
  presented e he := hs.presented e (List.mem_append_left _ he)
  apart := hs.apart

theorem Mints.issues (hm : Mints token user s e) :
    Issues e.1 user (s.scheme.digest token) s e :=
  ⟨rfl, token, rfl, hm⟩

/-- Whoever gets a token can use it for thirty days. -/
theorem lookup_of_mints (hkeyed : s.Keyed) (hm : Mints token user s e) :
    (s.next e).refreshTokens[s.scheme.digest token]?
      = some ⟨user, e.1, e.1 + refreshLifetime, false⟩ := by
  obtain ⟨time, a⟩ := e
  obtain rfl | ⟨old, u, rfl, hok, rfl⟩ := hm
  · change (s.issue time token user).refreshTokens[s.scheme.digest token]? = _
    rw [lookup_issue, if_pos rfl]
  · obtain ⟨r, hr, hgood, hexp, hu⟩ := good_of_ok hok
    change (s.rotate time token old).1.refreshTokens[s.scheme.digest token]? = _
    rw [rotate_of_good hr hgood hexp, hu]
    dsimp only
    rw [lookup_issue, hkeyed r.user u hu]
    exact if_pos rfl

theorem Mints.mem_minted (hm : Mints token user s e) : token ∈ minted [e] := by
  obtain ⟨now, a⟩ := e
  obtain rfl | ⟨old, u, rfl, -⟩ := hm <;> exact List.mem_singleton_self _

/-! ## Accounts -/

/-- Whoever is known at the end and has not registered on the way was known before. -/
theorem mem_users_of_run (hmem : user ∈ (s.run as).1.users)
    (hnew : ∀ e ∈ as, ∀ salt email password, e.2 ≠ .register user salt email password) :
    user ∈ s.users := by
  induction as generalizing s with
  | nil => exact hmem
  | cons e as ih =>
    obtain ⟨hfirst, hlater⟩ := List.forall_mem_cons.1 hnew
    have hnext : user ∈ (s.next e).users := ih hmem hlater
    have hregisters := registers_next s e
    generalize s.next e = g at hregisters hnext
    cases hregisters with
    | same _ husers => rwa [husers] at hnext
    | new k salt email password u he _ _ husers =>
      rw [husers] at hnext
      obtain heq | hold := Std.ExtTreeMap.mem_insert.1 hnext
      · rw [Std.LawfulEqCmp.compare_eq_iff_eq] at heq
        exact absurd (heq ▸ he) (hfirst salt email password)
      · exact hold

/-! ## Good tokens stay good -/

section Stays

variable {key : String} {r : RefreshToken}

/-- A good token that is neither presented nor revoked is left alone. -/
theorem good_next (hkeyed : s.Keyed) (hr : s.refreshTokens[key]? = some r)
    (hgood : r.spent = false) (hexp : e.1 ≤ r.expires) (hkey : key ∉ keys s.scheme [e])
    (hrev : ¬ Revokes r.user s e) (hpresents : ¬ Presents key s e) :
    (s.next e).refreshTokens[key]? = some r := by
  have hcases := turning hkeyed e key
  rw [hr] at hcases
  generalize (s.next e).refreshTokens[key]? = after at hcases
  cases hcases with
  | kept => rfl
  | issued _ user hi => exact absurd hi.mem_keys hkey
  | spent _ _ hp => exact absurd hp hpresents
  | revoked _ hrev' => exact absurd hrev' hrev
  | expired _ _ hlate => exact absurd hlate (Nat.not_lt.2 hexp)
  | pruned _ _ hgone =>
    obtain hgone | ⟨-, hp⟩ := hgone
    · rw [isKept_iff.2 ⟨hexp, .inl hgood⟩] at hgone
      cases hgone
    · exact absurd hp hpresents

/-- Presenting a good token of somebody who is known spends it. -/
theorem spends_of_presents (hr : s.refreshTokens[s.scheme.digest token]? = some r)
    (hgood : r.spent = false) (hexp : e.1 ≤ r.expires) (hu : r.user ∈ s.users)
    (hone : ∀ fresh x, e.2 = .rotate fresh x →
      s.scheme.digest x = s.scheme.digest token → x = token)
    (hpresents : Presents (s.scheme.digest token) s e) : Spends token s e := by
  obtain ⟨fresh, x, he, hx⟩ := hpresents
  obtain rfl := hone fresh x he hx
  obtain ⟨u, hu⟩ := Table.mem_iff_lookup.1 hu
  refine ⟨fresh, u, he, ?_⟩
  rw [rotate_of_good hr hgood hexp, hu]

/-- A good token of somebody who is known stays good until it is spent, or revoked, or too old. -/
theorem good_run (hkeyed : s.Keyed) (hr : s.refreshTokens[s.scheme.digest token]? = some r)
    (hgood : r.spent = false) (hu : r.user ∈ s.users) (hexp : ∀ e ∈ as, e.1 ≤ r.expires)
    (hkey : s.scheme.digest token ∉ keys s.scheme as)
    (hrev : ¬ Occurs next (Revokes r.user) s as) (hspends : ¬ Occurs next (Spends token) s as)
    (hone : ∀ e ∈ as, ∀ fresh x, e.2 = .rotate fresh x →
      s.scheme.digest x = s.scheme.digest token → x = token) :
    (s.run as).1.refreshTokens[s.scheme.digest token]? = some r := by
  -- along the run the user stays known, so presenting the token would spend it
  induction as generalizing s with
  | nil => exact hr
  | cons e as ih =>
    rw [keys_cons, List.mem_append, not_or] at hkey
    rw [Occurs, not_or] at hrev hspends
    obtain ⟨hexp, hexp'⟩ := List.forall_mem_cons.1 hexp
    obtain ⟨hone, hone'⟩ := List.forall_mem_cons.1 hone
    have hpresents : ¬ Presents (s.scheme.digest token) s e :=
      fun hp => hspends.1 (spends_of_presents hr hgood hexp hu hone hp)
    have hnext := good_next hkeyed hr hgood hexp hkey.1 hrev.1 hpresents
    have hkeeps := keeps_next s e
    rw [run_cons, ← hkeeps.scheme]
    refine ih (hkeeps.keyed hkeyed) ?_ (hkeeps.stays _ hu) hexp' ?_ hrev.2 hspends.2 ?_ <;>
      rw [hkeeps.scheme]
    · exact hnext
    · exact hkey.2
    · exact hone'

end Stays

/-! ## Worthless tokens stay worthless -/

/-- There is no good token with a key. -/
def Worthless (s : Identity) (key : String) : Prop :=
  ∀ r, s.refreshTokens[key]? = some r → r.spent = true

section Worthless

variable {key : String}

theorem worthless_of_none (h : s.refreshTokens[key]? = none) : s.Worthless key := by
  intro r hr
  rw [h] at hr
  cases hr

theorem worthless_of_lookup {r : RefreshToken} (h : s.refreshTokens[key]? = some r)
    (hspent : r.spent = true) : s.Worthless key := by
  intro r' hr'
  rw [h] at hr'
  cases hr'
  exact hspent

theorem worthless_next (hkeyed : s.Keyed) (hw : s.Worthless key)
    (hkey : key ∉ keys s.scheme [e]) : (s.next e).Worthless key := by
  have hcases := turning hkeyed e key
  generalize hbefore : s.refreshTokens[key]? = before at hcases
  generalize hafter : (s.next e).refreshTokens[key]? = after at hcases
  cases hcases with
  | absent | revoked | pruned | expired => exact worthless_of_none hafter
  | issued _ user hi => exact absurd hi.mem_keys hkey
  | kept r => exact worthless_of_lookup hafter (hw r hbefore)
  | spent => exact worthless_of_lookup hafter rfl

theorem worthless_run (hkeyed : s.Keyed) (hw : s.Worthless key)
    (hkey : key ∉ keys s.scheme as) : (s.run as).1.Worthless key := by
  induction as generalizing s with
  | nil => exact hw
  | cons e as ih =>
    rw [keys_cons, List.mem_append, not_or] at hkey
    have hkeeps := keeps_next s e
    have hkey' : key ∉ keys (s.next e).scheme as := by
      rw [hkeeps.scheme]
      exact hkey.2
    exact ih (hkeeps.keyed hkeyed) (worthless_next hkeyed hw hkey.1) hkey'

/-- What is revoked is worth nothing afterwards. -/
theorem worthless_of_revokes (hkeyed : s.Keyed) (hrev : Revokes user s e)
    (huser : ∀ r, s.refreshTokens[key]? = some r → r.user = user)
    (hkey : key ∉ keys s.scheme [e]) : (s.next e).Worthless key := by
  have hcases := turning hkeyed e key
  generalize hbefore : s.refreshTokens[key]? = before at hcases
  generalize hafter : (s.next e).refreshTokens[key]? = after at hcases
  cases hcases with
  | absent | revoked | pruned | expired => exact worthless_of_none hafter
  | issued _ user hi => exact absurd hi.mem_keys hkey
  | kept r hnot => exact absurd (huser r hbefore ▸ hrev) hnot
  | spent => exact worthless_of_lookup hafter rfl

/-- So is what is spent. -/
theorem worthless_of_spends (hspends : Spends token s e)
    (hkey : s.scheme.digest token ∉ keys s.scheme [e]) :
    (s.next e).Worthless (s.scheme.digest token) := by
  obtain ⟨time, a⟩ := e
  obtain ⟨fresh, u, rfl, hok⟩ := hspends
  obtain ⟨r, hr, hgood, hexp, hu⟩ := good_of_ok hok
  have hne : s.scheme.digest fresh ≠ s.scheme.digest token :=
    fun heq => hkey (List.mem_singleton.2 heq.symm)
  have hafter := lookup_next_rotate hr hgood hexp hu hne
  split at hafter
  · exact worthless_of_none hafter
  · exact worthless_of_lookup hafter rfl

end Worthless

/-! ## What a run makes of a token -/

section Runs

variable {strings : String → Prop} {before between : List (Instant × Action)} {r : RefreshToken}

/-- The key of a token that was drawn is not drawn again. -/
theorem Sessions.not_mem_later (hs : Sessions scheme strings (as ++ bs)) {key : String}
    (hkey : key ∈ keys scheme as) : key ∉ keys scheme bs := by
  have hfresh := hs.orderly.fresh
  rw [keys_append] at hfresh
  exact fun hlater => List.disjoint_of_nodup_append hfresh hkey hlater

/-- A token that was spent in a run is worthless at its end. -/
theorem worthless_of_spent (hs : Sessions scheme strings as)
    (hspent : Occurs next (Spends token) (empty scheme) as) :
    ((empty scheme).run as).1.Worthless (scheme.digest token) := by
  obtain ⟨earlier, e, later, rfl, hspends⟩ := occurs_iff.1 hspent
  rw [← run_fst] at hspends
  have hscheme := scheme_run scheme earlier
  -- what is spent has been issued before, so its key is not drawn after that
  have hmem : scheme.digest token ∈ keys scheme earlier := by
    obtain ⟨fresh, u, -, hok⟩ := id hspends
    obtain ⟨r, hr, -⟩ := good_of_ok hok
    rw [hscheme] at hr
    exact mem_keys_of_issues (issued_of_lookup hr).1
  have hlater := hs.not_mem_later hmem
  rw [keys_cons, List.mem_append, not_or] at hlater
  have hkeeps := keeps_next ((empty scheme).run earlier).1 e
  have hworthless := worthless_of_spends hspends (by rw [hscheme]; exact hlater.1)
  rw [hscheme] at hworthless
  rw [run_split]
  refine worthless_run (hkeeps.keyed (keyed_of_run scheme earlier)) hworthless ?_
  rw [hkeeps.scheme, hscheme]
  exact hlater.2

/-- A token that a user got is worthless once the user's tokens are revoked. -/
theorem worthless_of_revoked (hs : Sessions scheme strings (before ++ e :: between))
    (hm : Mints token user ((empty scheme).run before).1 e)
    (hrev : Occurs next (Revokes user) (((empty scheme).run before).1.next e) between) :
    ((empty scheme).run (before ++ e :: between)).1.Worthless (scheme.digest token) := by
  obtain ⟨earlier, e', later, rfl, hrevokes⟩ := occurs_iff.1 hrev
  have hsplit : before ++ e :: (earlier ++ e' :: later)
      = (before ++ e :: earlier) ++ e' :: later := by
    rw [List.append_assoc, List.cons_append]
  rw [hsplit] at hs ⊢
  rw [← run_fst, ← run_split] at hrevokes
  have hissues := hm.issues
  rw [scheme_run] at hissues
  have hocc : Occurs next (Issues e.1 user (scheme.digest token)) (empty scheme)
      (before ++ e :: earlier) :=
    occurs_iff.2 ⟨before, e, earlier, rfl, by rwa [← run_fst]⟩
  have hlater := hs.not_mem_later (mem_keys_of_issues hocc)
  rw [keys_cons, List.mem_append, not_or] at hlater
  have hscheme := scheme_run scheme (before ++ e :: earlier)
  have hkeyed := keyed_of_run scheme (before ++ e :: earlier)
  have hkeeps := keeps_next ((empty scheme).run (before ++ e :: earlier)).1 e'
  have hworthless := worthless_of_revokes hkeyed hrevokes
    (fun r hr => (issues_unique hs.of_append.orderly.fresh (issued_of_lookup hr).1 hocc).2)
    (by rw [hscheme]; exact hlater.1)
  rw [run_split]
  refine worthless_run (hkeeps.keyed hkeyed) hworthless ?_
  rw [hkeeps.scheme, hscheme]
  exact hlater.2

/-- A good token was issued once, and has neither been spent nor been revoked since. -/
theorem mints_of_lookup (hs : Sessions scheme strings as) (htoken : strings token)
    (hr : ((empty scheme).run as).1.refreshTokens[scheme.digest token]? = some r)
    (hgood : r.spent = false) :
    ∃ before e between, as = before ++ e :: between ∧
      Mints token r.user ((empty scheme).run before).1 e ∧ r.expires = e.1 + refreshLifetime ∧
      ¬ Occurs next (Spends token) (empty scheme) as ∧
      ¬ Occurs next (Revokes r.user) (((empty scheme).run before).1.next e) between := by
  obtain ⟨hocc, hexp⟩ := issued_of_lookup hr
  obtain ⟨before, e, between, rfl, hissues⟩ := occurs_iff.1 hocc
  rw [← run_fst] at hissues
  obtain ⟨htime, token', hkey, hm⟩ := hissues
  rw [scheme_run] at hkey
  rw [← htime] at hexp hm
  have hm : Mints token' r.user ((empty scheme).run before).1 e := hm
  -- it is this very token that was drawn there
  have hdrawn : strings token' := by
    refine hs.drawn token' ?_
    rw [minted_append, ← List.singleton_append, minted_append]
    exact List.mem_append_right _ (List.mem_append_left _ hm.mem_minted)
  obtain rfl := hs.apart token' token hdrawn htoken hkey
  have hnot : ¬ ((empty scheme).run (before ++ e :: between)).1.Worthless
      (scheme.digest token') := by
    intro hworthless
    rw [hworthless r hr] at hgood
    cases hgood
  exact ⟨before, e, between, rfl, hm, hexp, fun hspent => hnot (worthless_of_spent hs hspent),
    fun hrev => hnot (worthless_of_revoked hs hm hrev)⟩

/-- A token that was issued to somebody is good if neither has happened to it. -/
theorem lookup_of_not (hs : Sessions scheme strings (before ++ e :: between))
    (hm : Mints token user ((empty scheme).run before).1 e)
    (hknown : user ∈ ((empty scheme).run (before ++ e :: between)).1.users)
    (hspends : ¬ Occurs next (Spends token) (empty scheme) (before ++ e :: between))
    (hrev : ¬ Occurs next (Revokes user) (((empty scheme).run before).1.next e) between)
    (hexp : ∀ e' ∈ between, e'.1 ≤ e.1 + refreshLifetime) :
    ((empty scheme).run (before ++ e :: between)).1.refreshTokens[scheme.digest token]?
      = some ⟨user, e.1, e.1 + refreshLifetime, false⟩ := by
  have hscheme := scheme_run scheme before
  have hkeyed := keyed_of_run scheme before
  have hkeeps := keeps_next ((empty scheme).run before).1 e
  have hscheme' := hkeeps.scheme.trans hscheme
  have hissued := lookup_of_mints hkeyed hm
  rw [← hkeeps.scheme] at hissued
  rw [run_split] at hknown ⊢
  have hmem : token ∈ minted (before ++ [e]) := by
    rw [minted_append]
    exact List.mem_append_right _ hm.mem_minted
  have hsplit : before ++ e :: between = (before ++ [e]) ++ between := by simp
  -- an account with an id for which tokens were issued is not new
  have huser : user ∈ (((empty scheme).run before).1.next e).users := by
    obtain hissue | ⟨old, u, -, hok, rfl⟩ := hm
    · refine mem_users_of_run hknown fun e' he' salt email password => ?_
      have haccounts := (List.pairwise_cons.1 (List.pairwise_append.1 hs.accounts).2.1).1
      exact haccounts e' he' token user salt email password hissue
    · obtain ⟨r, -, -, -, hu⟩ := good_of_ok hok
      rw [← hkeyed r.user u hu] at hu
      exact hkeeps.stays _ (Table.mem_of_lookup hu)
  have hlater : scheme.digest token ∉ keys scheme between := by
    rw [hsplit] at hs
    exact hs.not_mem_later (List.mem_map_of_mem hmem)
  have hstays := good_run (hkeeps.keyed hkeyed) hissued rfl huser hexp
    (by rw [hscheme']; exact hlater) hrev (fun hocc => hspends ?_) ?_
  · rwa [hscheme'] at hstays
  · rw [hsplit, occurs_append, List.foldl_append]
    exact .inr (by rwa [run_fst] at hocc)
  · intro e' he' fresh x hx
    rw [hscheme']
    refine hs.apart x token (hs.presented e' (by simp [he']) fresh x hx) (hs.drawn token ?_)
    rw [hsplit, minted_append]
    exact List.mem_append_left _ hmem

end Runs

/-! ## Which tokens are taken -/

/-- A token is taken if it is good, not too old, and of somebody who is known. -/
theorem rotate_ok_iff {fresh : String} {u : User} :
    (s.rotate now fresh token).2 = .ok (u, fresh) ↔
      ∃ r, s.refreshTokens[s.scheme.digest token]? = some r ∧ r.spent = false ∧
        now ≤ r.expires ∧ s.users[r.user]? = some u := by
  constructor
  · exact good_of_ok
  · rintro ⟨r, hr, hgood, hexp, hu⟩
    rw [rotate_of_good hr hgood hexp, hu]

/-- Spending a token leaves the others as good as they are. -/
theorem rotate_other {fresh other f : String} {u v : User} {time : Instant}
    (hok : (s.rotate now fresh token).2 = .ok (u, fresh)) (hle : now ≤ time)
    (htoken : s.scheme.digest other ≠ s.scheme.digest token)
    (hfresh : s.scheme.digest other ≠ s.scheme.digest fresh)
    (hother : (s.rotate time f other).2 = .ok (v, f)) (f' : String) :
    ((s.rotate now fresh token).1.rotate time f' other).2 = .ok (v, f') := by
  obtain ⟨r, hr, hgood, hexp, hu⟩ := good_of_ok hok
  obtain ⟨r', hr', hgood', hexp', hv⟩ := good_of_ok hother
  rw [rotate_of_good hr hgood hexp, hu]
  refine rotate_ok_iff.2 ⟨r', ?_, hgood', hexp', hv⟩
  dsimp only
  rw [lookup_issue]
  change (if s.scheme.digest fresh = s.scheme.digest other then _ else _) = _
  rw [if_neg hfresh.symm, lookup_spend]
  change (if s.scheme.digest token = s.scheme.digest other then _ else
    s.refreshTokens[s.scheme.digest other]?).filter _ = _
  rw [if_neg htoken.symm, hr', Option.filter_some, if_pos]
  exact isKept_iff.2 ⟨Nat.le_trans hle hexp', .inl hgood'⟩

/-- The new token is good at once. -/
theorem rotate_fresh {fresh : String} {u : User}
    (hok : (s.rotate now fresh token).2 = .ok (u, fresh)) (f : String) :
    ((s.rotate now fresh token).1.rotate now f fresh).2 = .ok (u, f) := by
  obtain ⟨r, hr, hgood, hexp, hu⟩ := good_of_ok hok
  rw [rotate_of_good hr hgood hexp, hu]
  refine rotate_ok_iff.2 ⟨⟨r.user, now, now + refreshLifetime, false⟩, ?_, rfl,
    Nat.le_add_right _ _, hu⟩
  dsimp only
  rw [lookup_issue]
  exact if_pos rfl

/-- Of what is known, nothing has the key of a token that is drawn only now. -/
theorem Sessions.ne_fresh {strings : String → Prop} {fresh key : String} {r : RefreshToken}
    (hs : Sessions scheme strings (as ++ [(now, .rotate fresh token)]))
    (hr : ((empty scheme).run as).1.refreshTokens[key]? = some r) :
    key ≠ scheme.digest fresh := by
  rintro rfl
  have hlater := hs.not_mem_later (mem_keys_of_issues (issued_of_lookup hr).1)
  exact hlater (List.mem_singleton_self _)

/-- A token that was spent is never taken again. -/
theorem Sessions.rotate_ne_ok {strings : String → Prop} (hs : Sessions scheme strings as)
    (hspent : Occurs next (Spends token) (empty scheme) as) (time : Instant) (f : String)
    (v : User) : (((empty scheme).run as).1.rotate time f token).2 ≠ .ok (v, f) := by
  intro hok
  obtain ⟨r, hr, hgood, -⟩ := good_of_ok hok
  rw [scheme_run] at hr
  rw [worthless_of_spent hs hspent r hr] at hgood
  cases hgood

/-- A token is taken if it was issued within the last thirty days to somebody who is known,
was not spent since, and the user's tokens were not revoked since.  Whoever hands it in gets
one that is good in its place, every other token is as good as it was, and the one that was
handed in is never taken again. -/
theorem rotates_iff {scheme : Scheme} {strings : String → Prop} {as : List (Instant × Action)}
    {now : Instant} {fresh token : String}
    (hs : Sessions scheme strings (as ++ [(now, .rotate fresh token)])) (u : User) :
    let s := ((empty scheme).run as).1
    let s' := (s.rotate now fresh token).1
    ((s.rotate now fresh token).2 = .ok (u, fresh) ↔
      ∃ before e between, as = before ++ e :: between ∧
        Mints token u.id ((empty scheme).run before).1 e ∧ s.users[u.id]? = some u ∧
        ¬ Occurs next (Spends token) (empty scheme) as ∧ now ≤ e.1 + refreshLifetime ∧
        ¬ Occurs next (Revokes u.id) (((empty scheme).run before).1.next e) between) ∧
    ((s.rotate now fresh token).2 = .ok (u, fresh) →
      (∀ f, (s'.rotate now f fresh).2 = .ok (u, f)) ∧
      (∀ other, strings other → other ≠ token → ∀ time, now ≤ time → ∀ f v,
        (s.rotate time f other).2 = .ok (v, f) →
          ∀ f', (s'.rotate time f' other).2 = .ok (v, f')) ∧
      ∀ later, Sessions scheme strings (as ++ (now, .rotate fresh token) :: later) →
        ∀ time f v, ((s'.run later).1.rotate time f token).2 ≠ .ok (v, f)) := by
  intro s s'
  have hscheme : s.scheme = scheme := scheme_run scheme as
  have hkeyed : s.Keyed := keyed_of_run scheme as
  have htoken : strings token := hs.presented (now, .rotate fresh token) (by simp) fresh token rfl
  refine ⟨⟨fun hok => ?_, ?_⟩, fun hok => ⟨rotate_fresh hok, ?_, ?_⟩⟩
  · -- the entry of a token that is taken has been made by some event
    obtain ⟨r, hr, hgood, hexp, hu⟩ := good_of_ok hok
    rw [hscheme] at hr
    have huser : r.user = u.id := (hkeyed r.user u hu).symm
    obtain ⟨before, e, between, heq, hm, hlife, hspends, hrev⟩ :=
      mints_of_lookup hs.of_append htoken hr hgood
    rw [huser] at hm hrev hu
    exact ⟨before, e, between, heq, hm, hu, hspends, hlife ▸ hexp, hrev⟩
  · -- the entry that the event made is still there: nothing since has removed or spent it
    rintro ⟨before, e, between, heq, hm, hu, hspends, hexp, hrev⟩
    have hlife : ∀ e' ∈ between, e'.1 ≤ e.1 + refreshLifetime := by
      intro e' he'
      refine Nat.le_trans (hs.orderly.le_last e' ?_) hexp
      simp [heq, he']
    have hs' := hs.of_append
    rw [heq] at hs' hspends
    have hr := lookup_of_not hs' hm (by rw [← heq]; exact Table.mem_of_lookup hu) hspends hrev
      hlife
    rw [← heq] at hr
    refine rotate_ok_iff.2 ⟨⟨u.id, e.1, e.1 + refreshLifetime, false⟩, ?_, rfl, hexp, hu⟩
    rw [hscheme]
    exact hr
  · -- another token is kept under another key, as the digest keeps strings apart
    intro other hstring hne time hle f v hother
    have htoken' : s.scheme.digest other ≠ s.scheme.digest token := by
      rw [hscheme]
      exact fun heq => hne (hs.apart other token hstring htoken heq)
    have hfresh : s.scheme.digest other ≠ s.scheme.digest fresh := by
      obtain ⟨r, hr, -⟩ := good_of_ok hother
      rw [hscheme] at hr ⊢
      exact hs.ne_fresh hr
    exact rotate_other hok hle htoken' hfresh hother
  · -- the rotation itself is the event that spends the token
    intro later hs' time f v
    have hspent : Occurs next (Spends token) (empty scheme)
        (as ++ (now, .rotate fresh token) :: later) :=
      occurs_append.2 (.inr (.inl ⟨fresh, u, rfl, by rwa [← run_fst]⟩))
    have hlater : (s'.run later).1
        = ((empty scheme).run (as ++ (now, .rotate fresh token) :: later)).1 :=
      (run_split scheme as (now, .rotate fresh token) later).symm
    rw [hlater]
    exact hs'.rotate_ne_ok hspent time f v

/-- Somebody has two tokens and hands in one of them: the other one is taken after that. -/
theorem rotates_one_of_two :
    let past := enrolling ++ [(10, .issue "other" ⟨1⟩)]
    Sessions .plain (fun _ => True) (past ++ [(1000, .rotate "second" "first")]) ∧
      (((empty .plain).run past).1.rotate 1000 "second" "first").2 = .ok (enrolled, "second") ∧
      (((((empty .plain).run past).1.rotate 1000 "second" "first").1).rotate 2000 "third"
        "other").2 = .ok (enrolled, "third") := by
  intro past
  have hs : Sessions .plain (fun _ => True) (past ++ [(1000, .rotate "second" "first")]) :=
    ⟨by decide, by decide, by simp [past, enrolling], fun _ _ => trivial,
      fun _ _ _ _ _ => trivial, fun _ _ _ _ heq => heq⟩
  have hok : (((empty .plain).run past).1.rotate 1000 "second" "first").2
      = .ok (enrolled, "second") := by decide +kernel
  have hother : (((empty .plain).run past).1.rotate 2000 "third" "other").2
      = .ok (enrolled, "third") := by decide +kernel
  obtain ⟨-, hthen⟩ := rotates_iff hs enrolled
  obtain ⟨-, hothers, -⟩ := hthen hok
  exact ⟨hs, hok, hothers "other" trivial (by decide) 2000 (by decide) "third" enrolled hother
    "third"⟩

end Switchboard.Identity
