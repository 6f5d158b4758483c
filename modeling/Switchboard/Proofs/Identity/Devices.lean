import Mathlib.Data.List.Induction
import Mathlib.Data.List.Nodup
import Switchboard.Proofs.Identity.Pairing

/-! # Which devices there are

The devices of a store are those that were paired in the run and have not been removed since.
A token is good for the device that it was drawn for, as long as that device is there; the
account that paired a device is the one that sees it and can remove it; and a device was last
seen when its token was last presented.

* `drawn`, `Pairings` — what is drawn for devices in a run, and runs in which nothing of that
  is drawn twice and digests tell tokens apart;
* `lastSight`, `Standing` — when a device was last seen, and what a device that is there owes
  to the history of the run;
* `standing_concat` — the devices that stand after one more event;
* `devices_of_run` — the store has these devices, and no others;
* `devices_accounted` — tokens, removals and lists by the history of the run.
-/

namespace Switchboard.Identity

variable {scheme : Scheme} {strings : String → Prop} {as : List (Instant × Action)}
  {e : Instant × Action} {token : String} {d : Device}

/-! ## Histories -/

/-- What is drawn for devices in a run: their ids and their tokens. -/
def drawn (as : List (Instant × Action)) : List (DeviceId × String) := as.filterMap (·.2.drawn?)

/-- A run in which no two devices are drawn the same id or the same token.  Of the strings that
are drawn or presented, no two have the same digest. -/
structure Pairings (scheme : Scheme) (strings : String → Prop) (as : List (Instant × Action)) :
    Prop where
  ids : ((drawn as).map Prod.fst).Nodup
  tokens : ((drawn as).map Prod.snd).Nodup
  known : ∀ p ∈ drawn as, strings p.2
  apart : ∀ x y, strings x → strings y → scheme.digest x = scheme.digest y → x = y

/-- When a device was last found by its token in a run, if it was. -/
def lastSight (i : DeviceId) : Identity → List (Instant × Action) → Option Instant
  | _, [] => none
  | s, e :: as => (lastSight i (s.next e) as).or (sight i s e)

/-- A device was paired in a run and got a token, and has not been removed since; it was last
seen when it was last found by its token. -/
def Standing (scheme : Scheme) (as : List (Instant × Action)) (token : String) (d : Device) :
    Prop :=
  ∃ before now name paired after,
    let pairing := (now, .pair paired.id token paired.account name)
    let s := ((empty scheme).run before).1
    as = before ++ pairing :: after ∧
      (s.pair now paired.id token paired.account name).2 = .ok paired ∧
      paired.name = Text.trim name ∧ paired.created = now ∧
      ¬ Occurs next (Unpairs paired.id) (s.next pairing) after ∧
      d = { paired with lastSeen := lastSight paired.id (s.next pairing) after }

theorem drawn_concat (as : List (Instant × Action)) (e : Instant × Action) :
    drawn (as ++ [e]) = drawn as ++ e.2.drawn?.toList := by
  rw [drawn, List.filterMap_append, ← drawn]
  cases he : e.2.drawn? <;> simp [he]

theorem Pairings.of_concat (hp : Pairings scheme strings (as ++ [e])) :
    Pairings scheme strings as where
  ids := by
    have hids := hp.ids
    rw [drawn_concat, List.map_append, List.nodup_append] at hids
    exact hids.1
  tokens := by
    have htokens := hp.tokens
    rw [drawn_concat, List.map_append, List.nodup_append] at htokens
    exact htokens.1
  known p hmem := hp.known p (by rw [drawn_concat]; exact List.mem_append_left _ hmem)
  apart := hp.apart

theorem lastSight_concat (i : DeviceId) (s : Identity) (as : List (Instant × Action))
    (e : Instant × Action) :
    lastSight i s (as ++ [e]) = (sight i (as.foldl next s) e).or (lastSight i s as) := by
  induction as generalizing s with
  | nil => simp [lastSight]
  | cons e' as ih => simp only [List.cons_append, lastSight, ih, List.foldl_cons, Option.or_assoc]

/-- A device that stands was drawn its id and its token, and is kept with the digest of it. -/
theorem Standing.drawn (hd : Standing scheme as token d) :
    (d.id, token) ∈ drawn as ∧ d.digest = scheme.digest token := by
  obtain ⟨before, now, name, paired, after, rfl, hok, -, -, -, rfl⟩ := hd
  obtain ⟨hname, hpaired⟩ := pair_ok_iff.1 hok
  refine ⟨List.mem_filterMap.2 ⟨_, List.mem_append_right _ List.mem_cons_self, if_pos hname⟩, ?_⟩
  have hdigest := congrArg Device.digest hpaired
  rwa [scheme_run] at hdigest

/-- After one more event the devices stand that stood before and are not removed by it, and
the one that is paired by it. -/
theorem standing_concat :
    Standing scheme (as ++ [e]) token d ↔
      (∃ d₀, Standing scheme as token d₀ ∧ ¬ Unpairs d₀.id ((empty scheme).run as).1 e ∧
        d = { d₀ with lastSeen :=
          (sight d₀.id ((empty scheme).run as).1 e).or d₀.lastSeen }) ∨
      ∃ i account name, e.2 = .pair i token account name ∧ nameFlaw? (Text.trim name) = none ∧
        d = ⟨i, account, Text.trim name, scheme.digest token, e.1, none⟩ := by
  constructor
  · rintro ⟨before, now, name, paired, after, heq, hok, hname, htime, hun, rfl⟩
    obtain rfl | ⟨after, e', rfl⟩ := after.eq_nil_or_concat
    · -- it is the pairing that comes last
      obtain ⟨rfl, he⟩ := List.append_inj' heq rfl
      cases he
      obtain ⟨hflaw, hpaired⟩ := pair_ok_iff.1 hok
      rw [scheme_run] at hpaired
      rw [hpaired]
      exact .inr ⟨_, _, name, rfl, hflaw, rfl⟩
    · -- the last event comes after the pairing, and may see the device
      rw [List.concat_eq_append] at heq hun
      rw [List.concat_eq_append, lastSight_concat]
      rw [← List.cons_append, ← List.append_assoc] at heq
      obtain ⟨rfl, he⟩ := List.append_inj' heq rfl
      cases he
      rw [occurs_concat, not_or, ← run_fst] at hun
      rw [run_split, ← run_fst]
      exact .inl ⟨_, ⟨before, now, name, paired, after, rfl, hok, hname, htime, hun.1, rfl⟩,
        hun.2, rfl⟩
  · rintro (⟨d₀, ⟨before, now, name, paired, after, rfl, hok, hname, htime, hun, rfl⟩, hkept,
      rfl⟩ | ⟨i, account, name, he, hflaw, rfl⟩)
    · rw [run_split] at hkept
      refine ⟨before, now, name, paired, after ++ [e], by simp, hok, hname, htime, ?_, ?_⟩
      · rw [occurs_concat, not_or, ← run_fst]
        exact ⟨hun, hkept⟩
      · rw [lastSight_concat, run_split, ← run_fst]
    · obtain ⟨now, a⟩ := e
      cases he
      refine ⟨as, now, name, ⟨i, account, Text.trim name, scheme.digest token, now, none⟩, [],
        rfl, ?_, rfl, rfl, fun hocc => hocc, rfl⟩
      rw [pair_ok_iff, scheme_run]
      exact ⟨hflaw, rfl⟩

/-! ## The devices of a store -/

/-- The store has the devices that stand. -/
def Holds (s : Identity) (scheme : Scheme) (as : List (Instant × Action)) : Prop :=
  ∀ d : Device, s.devices[d.id]? = some d ↔ ∃ token, Standing scheme as token d

/-- What is drawn for a device has not been drawn before, so the store does not know it. -/
theorem unknown_of_holds (hp : Pairings scheme strings (as ++ [e]))
    (hs : ((empty scheme).run as).1.Matched) (hh : ((empty scheme).run as).1.Holds scheme as) :
    Unknown ((empty scheme).run as).1 e := by
  intro i token hdrawn
  have hids := hp.ids
  have htokens := hp.tokens
  rw [drawn_concat, hdrawn, List.map_append, List.nodup_append] at hids htokens
  rw [scheme_run]
  constructor
  · -- a device that is there stands, so its id was drawn before
    by_contra hknown
    obtain ⟨d, hd⟩ := Option.ne_none_iff_exists'.1 hknown
    obtain rfl := hs.keyed i d hd
    obtain ⟨token', hstanding⟩ := (hh d).1 hd
    exact hids.2.2 d.id (List.mem_map_of_mem hstanding.drawn.1) d.id (by simp) rfl
  · -- and so was its token, which is the only one with its digest
    by_contra hknown
    obtain ⟨j, hj⟩ := Option.ne_none_iff_exists'.1 hknown
    obtain ⟨d, hd, hdigest⟩ := (hs.tokens _ j).1 hj
    obtain rfl := hs.keyed j d hd
    obtain ⟨token', hstanding⟩ := (hh d).1 hd
    obtain ⟨hmem, hdigest'⟩ := hstanding.drawn
    have hsame : token' = token := by
      refine hp.apart _ _ (hp.of_concat.known _ hmem) (hp.known (i, token) ?_) ?_
      · rw [drawn_concat, hdrawn]
        simp
      · rw [← hdigest', hdigest]
    subst hsame
    exact htokens.2.2 token' (List.mem_map_of_mem hmem) token' (by simp) rfl

theorem Holds.next (hs : ((empty scheme).run as).1.Matched)
    (hnew : Unknown ((empty scheme).run as).1 e)
    (hh : ((empty scheme).run as).1.Holds scheme as) :
    (((empty scheme).run as).1.next e).Holds scheme (as ++ [e]) := by
  intro d
  rw [lookup_next hs hnew, scheme_run]
  constructor
  · rintro (⟨d₀, hd₀, hun, hd⟩ | ⟨i, token, account, name, he, hname, hd⟩)
    · obtain ⟨token, hstanding⟩ := (hh d₀).1 hd₀
      exact ⟨token, standing_concat.2 (.inl ⟨d₀, hstanding, hun, hd⟩)⟩
    · exact ⟨token, standing_concat.2 (.inr ⟨i, account, name, he, hname, hd⟩)⟩
  · rintro ⟨token, hstanding⟩
    obtain ⟨d₀, hd₀, hun, hd⟩ | ⟨i, account, name, he, hname, hd⟩ :=
      standing_concat.1 hstanding
    · exact .inl ⟨d₀, (hh d₀).2 ⟨token, hd₀⟩, hun, hd⟩
    · exact .inr ⟨i, token, account, name, he, hname, hd⟩

/-- After any run the two tables of devices match, and the devices are those that stand. -/
theorem devices_of_run (hp : Pairings scheme strings as) :
    ((empty scheme).run as).1.Matched ∧ ((empty scheme).run as).1.Holds scheme as := by
  induction as using List.reverseRecOn with
  | nil =>
    refine ⟨matched_empty scheme, fun d => ⟨fun hd => ?_, ?_⟩⟩
    · simp [run, empty] at hd
    · rintro ⟨token, before, now, name, paired, after, heq, -⟩
      simp at heq
  | append_singleton as e ih =>
    obtain ⟨hs, hh⟩ := ih hp.of_concat
    have hnew := unknown_of_holds hp hs hh
    have hlast : ((empty scheme).run (as ++ [e])).1 = ((empty scheme).run as).1.next e := by
      rw [run_append]
      rfl
    rw [hlast]
    exact ⟨hs.next hnew, hh.next hs hnew⟩

/-! ## Tokens and lists -/

/-- A token is good for the device that it was drawn for, as long as that device stands. -/
theorem found_iff (hp : Pairings scheme strings as) (htoken : strings token) :
    ((empty scheme).run as).1.found token = some d ↔ Standing scheme as token d := by
  obtain ⟨hs, hh⟩ := devices_of_run hp
  rw [hs.found_eq_some, hh d, scheme_run]
  constructor
  · rintro ⟨⟨token', hstanding⟩, hdigest⟩
    obtain ⟨hmem, hdigest'⟩ := hstanding.drawn
    obtain rfl := hp.apart token' token (hp.known _ hmem) htoken (hdigest'.symm.trans hdigest)
    exact hstanding
  · exact fun hstanding => ⟨⟨token, hstanding⟩, hstanding.drawn.2⟩

theorem mem_devicesOf {s : Identity} (hs : s.Matched) {account : AccountId} :
    d ∈ s.devicesOf account ↔ s.devices[d.id]? = some d ∧ d.account = account := by
  rw [devicesOf, List.mem_mergeSort, List.mem_filter, Table.mem_values, decide_eq_true_eq]
  constructor
  · rintro ⟨⟨i, hd⟩, haccount⟩
    exact ⟨hs.keyed i d hd ▸ hd, haccount⟩
  · rintro ⟨hd, haccount⟩
    exact ⟨⟨d.id, hd⟩, haccount⟩

theorem nodup_devicesOf {s : Identity} (hs : s.Matched) (account : AccountId) :
    (s.devicesOf account).Nodup :=
  (List.mergeSort_perm _ _).nodup_iff.2 ((Table.nodup_values hs.keyed).filter _)

/-- A device that stands was paired at its time. -/
theorem Standing.mem (hd : Standing scheme as token d) :
    ∃ name, (d.created, .pair d.id token d.account name) ∈ as := by
  obtain ⟨before, now, name, paired, after, rfl, -, -, htime, -, rfl⟩ := hd
  exact ⟨name, List.mem_append_right _ (htime ▸ List.mem_cons_self)⟩

/-- No two devices stand that were paired at the same time. -/
theorem Standing.eq_of_created (hp : Pairings scheme strings as)
    (hclock : (as.map Prod.fst).Pairwise (· < ·)) {token' : String} {d' : Device}
    (hd : Standing scheme as token d) (hd' : Standing scheme as token' d')
    (htime : d.created = d'.created) : d = d' := by
  obtain ⟨-, hh⟩ := devices_of_run hp
  obtain ⟨name, hmem⟩ := hd.mem
  obtain ⟨name', hmem'⟩ := hd'.mem
  have honce : (as.map Prod.fst).Nodup := hclock.imp Nat.ne_of_lt
  have hsame := List.inj_on_of_nodup_map honce hmem hmem' htime
  simp only [Prod.mk.injEq, Action.pair.injEq] at hsame
  have hlookup := (hh d).2 ⟨token, hd⟩
  rw [hsame.2.1, (hh d').2 ⟨token', hd'⟩] at hlookup
  exact (Option.some.inj hlookup).symm

/-- A list of devices has the one that was paired first in front, and each of them once. -/
theorem pairwise_devicesOf (hp : Pairings scheme strings as)
    (hclock : (as.map Prod.fst).Pairwise (· < ·)) (account : AccountId) :
    (((empty scheme).run as).1.devicesOf account).Pairwise fun d d' => d.created < d'.created := by
  obtain ⟨hs, hh⟩ := devices_of_run hp
  have honce := nodup_devicesOf hs account
  have hsorted : (((empty scheme).run as).1.devicesOf account).Pairwise
      fun d d' => decide (d.created ≤ d'.created) = true :=
    List.pairwise_mergeSort (fun a b c => by simpa using Nat.le_trans)
      (fun a b => by simpa using Nat.le_total a.created b.created) _
  refine (hsorted.and honce).imp_of_mem fun {d d'} hmem hmem' hle => ?_
  obtain ⟨token, hd⟩ := (hh d).1 ((mem_devicesOf hs).1 hmem).1
  obtain ⟨token', hd'⟩ := (hh d').1 ((mem_devicesOf hs).1 hmem').1
  exact Nat.lt_of_le_of_ne (of_decide_eq_true hle.1)
    fun htime => hle.2 (hd.eq_of_created hp hclock hd' htime)

/-- Whoever presents a token is the device that it was drawn for, if that one stands. -/
theorem verify_device_iff (hp : Pairings scheme strings as) (htoken : strings token)
    (keys : AccessToken.Keys) (now : Instant) (p : Principal) :
    (((empty scheme).run as).1.verify keys now (.device token)).2 = .ok p ↔
      ∃ d, Standing scheme as token d ∧ p = .desktop d.account d.id d.name := by
  simp only [← found_iff hp htoken, verify, resolve_eq]
  cases ((empty scheme).run as).1.found token with
  | none => simp
  | some d => simp [eq_comm]

/-- The devices of a store by the history of the run.  The table of tokens is the inverse of
that of devices; a token is good for the device that it was drawn for while that one stands;
an account removes the devices that it has paired and that stand, and an attempt on any other
changes nothing; and it is shown these devices, in the order in which they were paired, each
with the time at which it was last seen. -/
theorem devices_accounted {scheme : Scheme} {strings : String → Prop}
    {as : List (Instant × Action)} (hp : Pairings scheme strings as)
    (hclock : (as.map Prod.fst).Pairwise (· < ·)) :
    let s := ((empty scheme).run as).1
    s.Matched ∧
    (∀ token, strings token → ∀ now,
      (∀ d, (s.resolve now token).2 = some d ↔
        ∃ d₀, Standing scheme as token d₀ ∧ d = { d₀ with lastSeen := some now }) ∧
      ∀ keys p, (s.verify keys now (.device token)).2 = .ok p ↔
        ∃ d, Standing scheme as token d ∧ p = .desktop d.account d.id d.name) ∧
    (∀ account i,
      (∀ d, (s.unpair account i).2 = .ok d ↔
        d.id = i ∧ d.account = account ∧ ∃ token, Standing scheme as token d) ∧
      ((∀ d, (s.unpair account i).2 ≠ .ok d) →
        s.unpair account i = (s, .error .unknownDevice))) ∧
    ∀ account,
      (∀ d, d ∈ s.devicesOf account ↔
        d.account = account ∧ ∃ token, Standing scheme as token d) ∧
      (s.devicesOf account).Pairwise fun d d' => d.created < d'.created := by
  intro s
  obtain ⟨hs, hh⟩ := devices_of_run hp
  refine ⟨hs, fun token htoken now => ⟨fun d => ?_, fun keys p => ?_⟩,
    fun account i => ⟨fun d => ?_, fun hnot => ?_⟩, fun account => ⟨fun d => ?_, ?_⟩⟩
  · simp only [← found_iff hp htoken, resolve_eq]
    change _ ↔ ∃ d₀, s.found token = some d₀ ∧ _
    cases s.found token with
    | none => simp
    | some d₀ => simp [eq_comm]
  · exact verify_device_iff hp htoken keys now p
  · rw [unpair_ok_iff, ← hh d]
    constructor
    · rintro ⟨hd, haccount⟩
      obtain rfl := hs.keyed i d hd
      exact ⟨rfl, haccount, hd⟩
    · rintro ⟨rfl, haccount, hd⟩
      exact ⟨hd, haccount⟩
  · obtain ⟨d, hd, rfl⟩ | hsame := unpair_cases s account i
    · exact absurd (unpair_ok_iff.2 ⟨hd, rfl⟩) (hnot d)
    · exact hsame
  · rw [mem_devicesOf hs, hh d, and_comm]
  · exact pairwise_devicesOf hp hclock account

/-- One account pairs two devices and removes the second, and another account pairs a third. -/
def pairingHistory : List (Instant × Action) :=
  [(1, .pair ⟨1⟩ "one" ⟨9⟩ " Desk "), (2, .pair ⟨2⟩ "two" ⟨9⟩ "Laptop"), (3, .resolve "one"),
   (4, .unpair ⟨9⟩ ⟨2⟩), (5, .pair ⟨3⟩ "three" ⟨8⟩ "Other")]

/-- The first device is there, with the time at which its token was presented, and the token of
the second is good for nothing. -/
theorem devices_accounted_removed :
    Pairings .plain (fun _ => True) pairingHistory ∧
      (∃ token, Standing .plain pairingHistory token
        ⟨⟨1⟩, ⟨9⟩, "Desk", "one", 1, some 3⟩) ∧
      ¬ ∃ d, Standing .plain pairingHistory "two" d := by
  have hp : Pairings .plain (fun _ => True) pairingHistory :=
    ⟨by decide +kernel, by decide +kernel, fun _ _ => trivial, fun _ _ _ _ heq => heq⟩
  have hlist : ((empty .plain).run pairingHistory).1.devicesOf ⟨9⟩
      = [⟨⟨1⟩, ⟨9⟩, "Desk", "one", 1, some 3⟩] := by decide +kernel
  have hunknown : (((empty .plain).run pairingHistory).1.resolve 6 "two").2 = none := by
    decide +kernel
  obtain ⟨-, htokens, -, hlists⟩ := devices_accounted hp (by decide)
  refine ⟨hp, (((hlists ⟨9⟩).1 _).1 (by rw [hlist]; exact List.mem_singleton_self _)).2, ?_⟩
  rintro ⟨d, hd⟩
  have hfound := ((htokens "two" trivial 6).1 { d with lastSeen := some 6 }).2 ⟨d, hd, rfl⟩
  rw [hunknown] at hfound
  cases hfound

end Switchboard.Identity
