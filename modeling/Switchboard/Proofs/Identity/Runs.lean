import Switchboard.Proofs.History
import Switchboard.Proofs.Identity.Rotation

/-! # Runs of a store

Whatever refresh token a store knows was issued in the run, and under the key of a token
that is issued only once nobody else's can ever be found.

* `minted`, `Orderly` — tokens that are drawn in a run, and runs in which time does not go
  back and no token is drawn twice;
* `Registers`, `registers_next` — what an action does to the accounts;
* `Keeps`, `keeps_run` — accounts stay where they are;
* `issued_of_lookup` — where the tokens of a store come from;
* `issues_unique` — a key is issued once;
* `absent_run` — a key that is not issued again stays unknown;
* `Scheme.plain` — the scheme of runs that are worked out by hand.
-/

namespace Switchboard.Identity

theorem run_fst (s : Identity) (as : List (Instant × Action)) :
    (s.run as).1 = as.foldl next s := by
  induction as generalizing s with
  | nil => rfl
  | cons e as ih =>
    rw [List.foldl_cons, ← ih]
    rfl

theorem run_cons (s : Identity) (e : Instant × Action) (as : List (Instant × Action)) :
    (s.run (e :: as)).1 = ((s.next e).run as).1 := rfl

theorem run_append (s : Identity) (as bs : List (Instant × Action)) :
    (s.run (as ++ bs)).1 = ((s.run as).1.run bs).1 := by
  rw [run_fst, run_fst, run_fst, List.foldl_append]

/-! ## Tokens that are drawn -/

/-- The refresh token that is drawn for an action. -/
def Action.token? : Action → Option String
  | .issue token _ => some token
  | .rotate fresh _ => some fresh
  | _ => none

/-- The refresh tokens that are drawn in a run. -/
def minted (as : List (Instant × Action)) : List String := as.filterMap (·.2.token?)

/-- The keys of the refresh tokens that are drawn in a run. -/
def keys (scheme : Scheme) (as : List (Instant × Action)) : List String :=
  (minted as).map scheme.digest

/-- Time does not go back, and no two refresh tokens that are drawn have the same key. -/
structure Orderly (scheme : Scheme) (as : List (Instant × Action)) : Prop where
  chronological : (as.map Prod.fst).Pairwise (· ≤ ·)
  fresh : (keys scheme as).Nodup

theorem keys_append (scheme : Scheme) (as bs : List (Instant × Action)) :
    keys scheme (as ++ bs) = keys scheme as ++ keys scheme bs := by
  unfold keys minted
  rw [List.filterMap_append, List.map_append]

theorem keys_cons (scheme : Scheme) (e : Instant × Action) (as : List (Instant × Action)) :
    keys scheme (e :: as) = keys scheme [e] ++ keys scheme as :=
  keys_append scheme [e] as

theorem Orderly.of_append {scheme : Scheme} {as bs : List (Instant × Action)}
    (ho : Orderly scheme (as ++ bs)) : Orderly scheme as := by
  have hchron := ho.chronological
  have hfresh := ho.fresh
  rw [List.map_append, List.pairwise_append] at hchron
  rw [keys_append, List.nodup_append] at hfresh
  exact ⟨hchron.1, hfresh.1⟩

theorem Orderly.le_last {scheme : Scheme} {as : List (Instant × Action)} {e : Instant × Action}
    (ho : Orderly scheme (as ++ [e])) : ∀ e' ∈ as ++ [e], e'.1 ≤ e.1 := by
  have hchron := ho.chronological
  rw [List.map_append, List.pairwise_append] at hchron
  obtain ⟨-, -, hlast⟩ := hchron
  intro e' hmem
  obtain hmem | hmem := List.mem_append.1 hmem
  · exact hlast e'.1 (List.mem_map_of_mem hmem) e.1 (List.mem_singleton_self _)
  · obtain rfl := List.mem_singleton.1 hmem
    exact Nat.le_refl _

theorem Orderly.le_later {scheme : Scheme} {as bs : List (Instant × Action)}
    {e : Instant × Action} (ho : Orderly scheme (as ++ e :: bs)) : ∀ e' ∈ bs, e.1 ≤ e'.1 := by
  have hchron := ho.chronological
  rw [List.map_append, List.pairwise_append, List.map_cons, List.pairwise_cons] at hchron
  obtain ⟨-, ⟨hlater, -⟩, -⟩ := hchron
  exact fun e' hmem => hlater e'.1 (List.mem_map_of_mem hmem)

/-! ## Accounts -/

/-- What an action can do to the accounts: nothing, or add the one that registers. -/
inductive Registers (s : Identity) (a : Action) : Identity → Prop
  | same (g : Identity) : g.scheme = s.scheme → g.users = s.users → g.emails = s.emails →
      Registers s a g
  | new (g : Identity) (k : AccountId) (salt : List UInt8) (email password : String) (u : User) :
      a = .register k salt email password → u.id = k → g.scheme = s.scheme →
      g.users = s.users.insert k u → g.emails = s.emails.insert u.email k → Registers s a g

theorem registers_register (s : Identity) (now : Instant) (k : AccountId) (salt : List UInt8)
    (email password : String) : Registers s (.register k salt email password)
      (s.register now k salt email password).1 := by
  unfold register
  dsimp only
  split
  · exact .same s rfl rfl rfl
  · split
    · exact .same s rfl rfl rfl
    · exact .new _ k salt email password _ rfl rfl rfl rfl rfl

theorem registers_next (s : Identity) (e : Instant × Action) : Registers s e.2 (s.next e) := by
  obtain ⟨now, a⟩ := e
  cases a with
  | register k salt email password =>
    simp only [next, step, Prod.map_fst, id]
    exact registers_register s now k salt email password
  | rotate fresh token =>
    have hcases := rotating s now fresh token
    have hsame : Registers s (.rotate fresh token) (s.rotate now fresh token).1 := by
      generalize s.rotate now fresh token = out at hcases
      cases hcases <;> exact .same _ rfl rfl rfl
    exact hsame
  | authenticate | devices | issue | revoke => exact .same _ rfl rfl rfl
  | pair d token account name =>
    simp only [next, step, Prod.map_fst, pair, id]
    split <;> exact .same _ rfl rfl rfl
  | unpair account d =>
    simp only [next, step, Prod.map_fst, unpair, id]
    split
    · split <;> exact .same _ rfl rfl rfl
    · exact .same _ rfl rfl rfl
  | resolve token =>
    simp only [next, step, Prod.map_fst, resolve, id]
    split <;> exact .same _ rfl rfl rfl

/-- What no action changes, whatever is asked: how tokens are looked up, and that whoever
is known stays known. -/
structure Keeps (s g : Identity) : Prop where
  scheme : g.scheme = s.scheme
  stays : ∀ k ∈ s.users, k ∈ g.users
  keyed : s.Keyed → g.Keyed

theorem keeps_next (s : Identity) (e : Instant × Action) : Keeps s (s.next e) := by
  have hregisters := registers_next s e
  generalize s.next e = g at hregisters
  cases hregisters with
  | same hscheme husers =>
    exact ⟨hscheme, fun k hk => husers ▸ hk, fun hs k u hu => hs k u (husers ▸ hu)⟩
  | new k salt email password u _ hid hscheme husers =>
    refine ⟨hscheme, fun k' hk' => ?_, fun hs k' u' hu' => ?_⟩
    · rw [husers]
      exact Std.ExtTreeMap.mem_insert.2 (.inr hk')
    · rw [husers, Table.lookup_insert] at hu'
      split at hu'
      · rename_i hk
        cases hu'
        rw [hid, hk]
      · exact hs k' u' hu'

theorem keeps_run (s : Identity) (as : List (Instant × Action)) : Keeps s (s.run as).1 := by
  rw [run_fst]
  induction as generalizing s with
  | nil => exact ⟨rfl, fun _ hk => hk, fun hs => hs⟩
  | cons e as ih =>
    have hstep := keeps_next s e
    have hrest := ih (s.next e)
    exact ⟨hrest.scheme.trans hstep.scheme, fun k hk => hrest.stays k (hstep.stays k hk),
      fun hs => hrest.keyed (hstep.keyed hs)⟩

theorem scheme_run (scheme : Scheme) (as : List (Instant × Action)) :
    ((empty scheme).run as).1.scheme = scheme :=
  (keeps_run _ as).scheme

theorem run_split (scheme : Scheme) (before : List (Instant × Action)) (e : Instant × Action)
    (between : List (Instant × Action)) :
    ((empty scheme).run (before ++ e :: between)).1
      = ((((empty scheme).run before).1.next e).run between).1 := by
  rw [run_append, run_cons]

theorem keyed_empty (scheme : Scheme) : (empty scheme).Keyed := by
  intro k u hu
  simp [empty] at hu

theorem keyed_of_run (scheme : Scheme) (as : List (Instant × Action)) :
    ((empty scheme).run as).1.Keyed :=
  (keeps_run _ as).keyed (keyed_empty scheme)

/-! ## Where tokens come from -/

variable {s : Identity} {now : Instant} {user : AccountId} {key : String}
  {as : List (Instant × Action)}

theorem Issues.mem_keys {e : Instant × Action} (hi : Issues now user key s e) :
    key ∈ keys s.scheme [e] := by
  obtain ⟨now', a⟩ := e
  obtain ⟨rfl, token, rfl, rfl | ⟨old, u, rfl, -⟩⟩ := hi <;>
    exact List.mem_singleton_self _

/-- Who gets a token at an event, and under which key, is settled. -/
theorem Issues.unique {e : Instant × Action} {now' : Instant} {user' : AccountId}
    (hi : Issues now user key s e) (hi' : Issues now' user' key s e) :
    now = now' ∧ user = user' := by
  obtain ⟨hnow, token, -, ha⟩ := hi
  obtain ⟨hnow', token', -, ha'⟩ := hi'
  refine ⟨hnow.symm.trans hnow', ?_⟩
  obtain ha | ⟨old, u, ha, hu, rfl⟩ := ha
  · obtain ha' | ⟨old', u', ha', -, -⟩ := ha'
    · rw [ha] at ha'
      cases ha'
      rfl
    · rw [ha] at ha'
      cases ha'
  · obtain ha' | ⟨old', u', ha', hu', rfl⟩ := ha'
    · rw [ha] at ha'
      cases ha'
    · rw [ha] at ha'
      cases ha'
      rw [hnow] at hnow'
      rw [← hnow', hu] at hu'
      cases hu'
      rfl

theorem mem_keys_of_issues (hocc : Occurs next (Issues now user key) s as) :
    key ∈ keys s.scheme as := by
  induction as generalizing s with
  | nil => exact hocc.elim
  | cons e as ih =>
    rw [keys_cons]
    obtain hnow | hlater := hocc
    · exact List.mem_append_left _ hnow.mem_keys
    · have hmem := ih hlater
      rw [(keeps_next s e).scheme] at hmem
      exact List.mem_append_right _ hmem

/-- If no two tokens have the same key, a key is issued to one user at one time. -/
theorem issues_unique {now' : Instant} {user' : AccountId} (hfresh : (keys s.scheme as).Nodup)
    (hocc : Occurs next (Issues now user key) s as)
    (hocc' : Occurs next (Issues now' user' key) s as) : now = now' ∧ user = user' := by
  induction as generalizing s with
  | nil => exact hocc.elim
  | cons e as ih =>
    rw [keys_cons] at hfresh
    obtain ⟨-, hfresh', hapart⟩ := List.nodup_append.1 hfresh
    rw [← (keeps_next s e).scheme] at hfresh' hapart
    obtain hi | hlater := hocc
    · obtain hi' | hlater' := hocc'
      · exact hi.unique hi'
      · -- the key would be drawn now and once more later
        refine absurd rfl (hapart key ?_ key (mem_keys_of_issues hlater'))
        rw [(keeps_next s e).scheme]
        exact hi.mem_keys
    · obtain hi' | hlater' := hocc'
      · refine absurd rfl (hapart key ?_ key (mem_keys_of_issues hlater))
        rw [(keeps_next s e).scheme]
        exact hi'.mem_keys
      · exact ih hfresh' hlater hlater'

/-- What a token is, apart from whether it is spent, was settled when it was issued. -/
theorem issued_or_known (hkeyed : s.Keyed) {r : RefreshToken}
    (hr : (s.run as).1.refreshTokens[key]? = some r) :
    Occurs next (Issues r.created r.user key) s as ∧ r.expires = r.created + refreshLifetime ∨
      ∃ r₀, s.refreshTokens[key]? = some r₀ ∧ r₀.user = r.user ∧ r₀.created = r.created ∧
        r₀.expires = r.expires := by
  rw [run_fst] at hr
  -- a token that is known after the first event was issued at it or known before it
  induction as generalizing s with
  | nil => exact .inr ⟨r, hr, rfl, rfl, rfl⟩
  | cons e as ih =>
    obtain ⟨hocc, hexp⟩ | ⟨r₁, hr₁, huser, hcreated, hexp⟩ :=
      ih ((keeps_next s e).keyed hkeyed) hr
    · exact .inl ⟨.inr hocc, hexp⟩
    · have hcases := turning hkeyed e key
      rw [hr₁] at hcases
      generalize s.refreshTokens[key]? = known at hcases ⊢
      cases hcases with
      | issued _ user hi =>
        dsimp only at huser hcreated hexp
        rw [← huser, ← hcreated, ← hexp]
        exact .inl ⟨.inl hi, rfl⟩
      | kept => exact .inr ⟨r₁, rfl, huser, hcreated, hexp⟩
      | spent r₀ => exact .inr ⟨r₀, rfl, huser, hcreated, hexp⟩

theorem issued_of_lookup {scheme : Scheme} {r : RefreshToken}
    (hr : ((empty scheme).run as).1.refreshTokens[key]? = some r) :
    Occurs next (Issues r.created r.user key) (empty scheme) as ∧
      r.expires = r.created + refreshLifetime := by
  obtain hocc | ⟨r₀, hr₀, -⟩ := issued_or_known (keyed_empty scheme) hr
  · exact hocc
  · simp [empty] at hr₀

/-! ## Keys that are not issued -/

/-- An unknown key stays unknown as long as no token is issued that has it. -/
theorem absent_next {e : Instant × Action} (hkeyed : s.Keyed)
    (hkey : key ∉ keys s.scheme [e]) (hr : s.refreshTokens[key]? = none) :
    (s.next e).refreshTokens[key]? = none := by
  have hcases := turning hkeyed e key
  rw [hr] at hcases
  generalize (s.next e).refreshTokens[key]? = after at hcases
  cases hcases with
  | issued _ user hi => exact absurd hi.mem_keys hkey
  | absent => rfl

theorem absent_run (hkeyed : s.Keyed) (hkey : key ∉ keys s.scheme as)
    (hr : s.refreshTokens[key]? = none) : (s.run as).1.refreshTokens[key]? = none := by
  rw [run_fst]
  induction as generalizing s with
  | nil => exact hr
  | cons e as ih =>
    rw [keys_cons, List.mem_append, not_or] at hkey
    refine ih ((keeps_next s e).keyed hkeyed) ?_ (absent_next hkeyed hkey.1 hr)
    rw [(keeps_next s e).scheme]
    exact hkey.2

/-! ## Runs on paper -/

/-- Nothing is hidden: passwords and tokens are kept as they are. -/
def Scheme.plain : Scheme := ⟨fun _ password => password, fun password line => password = line, id⟩

end Switchboard.Identity
