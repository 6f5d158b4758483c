import Switchboard.Proofs.Identity.Pairing

/-! # Who is let in

A store lets in the mobiles of the accounts that it knows and the desktops on the devices that
it knows.  Only the removal of a device takes back what it has let in; and a token whose device
was removed is worth nothing until another device is drawn one with the same digest.

* `Admits` — the principals whom a store lets in;
* `verifying`, `admits_resolve` — the principal of credentials is one of them;
* `kept_next`, `Retains`, `retains_next` — what is known stays known, apart from removals;
* `tokens_next`, `tokens_run` — a token becomes good for a device when the device is paired;
* `Action.IsQuiet`, `quiet_run` — most actions are not about devices, and keep what is known.
-/

namespace Switchboard.Identity

variable {s g : Identity} {e : Instant × Action} {d : Device} {p : Principal} {now : Instant}

/-- A principal is a mobile of an account that is known, or the desktop on a device that is
known, under its name and of its account. -/
inductive Admits (s : Identity) : Principal → Prop
  | mobile (account : AccountId) : account ∈ s.users → Admits s (.mobile account)
  | desktop (d : Device) : s.devices[d.id]? = some d →
      Admits s (.desktop d.account d.id d.name)

/-- What was known is known still, though devices may have been seen in the meantime. -/
structure Retains (s g : Identity) : Prop where
  users : ∀ k ∈ s.users, k ∈ g.users
  devices : ∀ d : Device, s.devices[d.id]? = some d →
    ∃ t, g.devices[d.id]? = some { d with lastSeen := t }

theorem Retains.refl (s : Identity) : Retains s s :=
  ⟨fun _ hk => hk, fun d hd => ⟨d.lastSeen, hd⟩⟩

theorem Retains.trans {k : Identity} (hr : Retains s g) (hr' : Retains g k) : Retains s k where
  users i hi := hr'.users i (hr.users i hi)
  devices d hd := by
    obtain ⟨t, ht⟩ := hr.devices d hd
    exact hr'.devices { d with lastSeen := t } ht

theorem Admits.retains (hp : s.Admits p) (hr : Retains s g) : g.Admits p := by
  cases hp with
  | mobile account haccount => exact .mobile account (hr.users account haccount)
  | desktop d hd =>
    obtain ⟨t, ht⟩ := hr.devices d hd
    exact .desktop { d with lastSeen := t } ht

/-! ## Credentials -/

/-- What comes of credentials: whoever is turned away leaves the store as it is. -/
inductive Verifies (s : Identity) (now : Instant) :
    Access.Credentials → Identity × Except Access.Refusal Principal → Prop
  | refused (c : Access.Credentials) (e : Access.Refusal) : Verifies s now c (s, .error e)
  | mobile (token : String) (account : AccountId) : account ∈ s.users →
      Verifies s now (.bearer token) (s, .ok (.mobile account))
  | desktop (token : String) (d : Device) : s.found token = some d →
      Verifies s now (.device token)
        (s.next (now, .resolve token), .ok (.desktop d.account d.id d.name))

theorem verifying (s : Identity) (keys : AccessToken.Keys) (now : Instant)
    (c : Access.Credentials) : Verifies s now c (s.verify keys now c) := by
  cases c with
  | bearer token =>
    simp only [verify]
    split
    · exact .refused _ _
    · next account _ _ =>
      split
      · next huser => exact .mobile token account (of_decide_eq_true huser)
      · exact .refused _ _
  | device token =>
    simp only [verify]
    cases hd : s.found token with
    | none =>
      simp only [resolve_eq, hd]
      exact .refused _ _
    | some d =>
      have hdesktop : Verifies s now _ _ := .desktop token d hd
      rw [next_resolve] at hdesktop
      simp only [resolve_eq, hd] at hdesktop ⊢
      exact hdesktop

/-- A device that is found by its token is let in from then on. -/
theorem admits_resolve {token : String} (now : Instant) (hd : s.found token = some d) :
    (s.next (now, .resolve token)).Admits (.desktop d.account d.id d.name) := by
  refine .desktop { d with lastSeen := some now } ?_
  simp only [next_resolve, resolve_eq, hd]
  rw [Table.lookup_insert, if_pos rfl]

/-- A token is worth nothing to a store none of whose devices has it. -/
theorem verify_unknown {token : String} (keys : AccessToken.Keys) (now : Instant)
    (hnone : s.found token = none) :
    s.verify keys now (.device token) = (s, .error .unknownDevice) := by
  simp only [verify, resolve_eq, hnone]

/-! ## Events -/

/-- A device that is not removed is there afterwards. -/
theorem kept_next (hs : s.Matched) (hnew : Unknown s e) (hd : s.devices[d.id]? = some d)
    (hkept : ¬ Unpairs d.id s e) :
    ∃ t, (s.next e).devices[d.id]? = some { d with lastSeen := t } := by
  refine ⟨(sight d.id s e).or d.lastSeen, ?_⟩
  exact (lookup_next (d := { d with lastSeen := _ }) hs hnew).2 (.inl ⟨d, hd, hkept, rfl⟩)

theorem retains_next (hs : s.Matched) (hnew : Unknown s e) (hkept : ∀ i, ¬ Unpairs i s e) :
    Retains s (s.next e) where
  users := (keeps_next s e).stays
  devices d hd := kept_next hs hnew hd (hkept d.id)

/-- A token is good for a device that it was good for before, or for the one that is paired. -/
theorem tokens_next {key : String} {i : DeviceId}
    (hi : (s.next e).deviceTokens[key]? = some i) :
    s.deviceTokens[key]? = some i ∨
      ∃ token, e.2.drawn? = some (i, token) ∧ key = s.scheme.digest token := by
  have halters := alters s e
  generalize s.next e = g at halters hi
  cases halters with
  | same _ _ _ _ _ htokens => exact .inl (htokens ▸ hi)
  | paired i token account name he hname =>
    obtain ⟨rfl, rfl⟩ | ⟨-, hi⟩ := Table.lookup_insert_eq_some.1 hi
    · exact .inr ⟨token, by rw [he]; exact if_pos hname, rfl⟩
    · exact .inl hi
  | unpaired i d he hd =>
    rw [Table.lookup_erase, Option.ite_none_left_eq_some] at hi
    exact .inl hi.2
  | resolved => exact .inl hi

theorem tokens_run {as : List (Instant × Action)} {key : String} {i : DeviceId}
    (hi : (s.run as).1.deviceTokens[key]? = some i) :
    s.deviceTokens[key]? = some i ∨
      ∃ e ∈ as, ∃ token, e.2.drawn? = some (i, token) ∧ key = s.scheme.digest token := by
  rw [run_fst] at hi
  induction as generalizing s with
  | nil => exact .inl hi
  | cons e as ih =>
    obtain hi | ⟨e', he', token, hdrawn, hkey⟩ := ih hi
    · obtain hold | ⟨token, hdrawn, hkey⟩ := tokens_next hi
      · exact .inl hold
      · exact .inr ⟨e, List.mem_cons_self, token, hdrawn, hkey⟩
    · rw [(keeps_next s e).scheme] at hkey
      exact .inr ⟨e', List.mem_cons_of_mem _ he', token, hdrawn, hkey⟩

/-- An action brings no device and takes none away. -/
def Action.IsQuiet : Action → Prop
  | .pair .. | .unpair .. => False
  | _ => True

theorem Action.IsQuiet.drawn? {a : Action} (ha : a.IsQuiet) : a.drawn? = none := by
  cases a <;> first | rfl | exact ha.elim

theorem Action.IsQuiet.not_unpairs (ha : e.2.IsQuiet) (i : DeviceId) : ¬ Unpairs i s e := by
  rintro ⟨account, d, he, -⟩
  rw [he] at ha
  exact ha

theorem unknown_of_quiet (ha : e.2.IsQuiet) : Unknown s e := by
  intro i token hdrawn
  rw [ha.drawn?] at hdrawn
  cases hdrawn

/-- Quiet actions keep what is known. -/
theorem quiet_run {as : List (Instant × Action)} (hs : s.Matched)
    (has : ∀ e ∈ as, e.2.IsQuiet) : (s.run as).1.Matched ∧ Retains s (s.run as).1 := by
  rw [run_fst]
  induction as generalizing s with
  | nil => exact ⟨hs, .refl s⟩
  | cons e as ih =>
    obtain ⟨ha, has⟩ := List.forall_mem_cons.1 has
    have hnew : Unknown s e := unknown_of_quiet ha
    obtain ⟨hmatched, hretains⟩ := ih (hs.next hnew) has
    exact ⟨hmatched, (retains_next hs hnew ha.not_unpairs).trans hretains⟩

end Switchboard.Identity
