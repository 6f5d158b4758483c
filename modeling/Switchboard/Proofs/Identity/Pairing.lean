import Switchboard.Identity.Verify
import Switchboard.Proofs.Identity.Runs

/-! # What happens to a paired device

Devices are known by their ids, and by the digests of their tokens.  A device comes when it
is paired and goes when its account removes it; whoever presents its token sees it, and
nothing else concerns it.

* `Unpairs`, `sight` — the events at which a device goes, and at which it is seen;
* `Alters`, `alters` — what an event does to the devices;
* `Matched` — the two tables of devices say the same;
* `found_eq_some`, `unpair_ok_iff`, `resolve_eq` — what is asked of the store, by its devices;
* `Matched.add`, `Matched.remove`, `Matched.update` — what keeps the tables matched;
* `Matched.next` — so does an event that draws nothing that is known;
* `lookup_next` — the devices that are there after an event.
-/

namespace Switchboard.Identity

variable {s : Identity} {now : Instant} {account : AccountId} {i : DeviceId} {d : Device}
  {token name : String} {e : Instant × Action}

/-! ## Pairing -/

theorem pair_of_name (s : Identity) (now : Instant) (i : DeviceId) (token : String)
    (account : AccountId) (hname : nameFlaw? (Text.trim name) = none) :
    s.pair now i token account name =
      (s.addDevice ⟨i, account, Text.trim name, s.scheme.digest token, now, none⟩,
        .ok ⟨i, account, Text.trim name, s.scheme.digest token, now, none⟩) := by
  unfold pair
  simp only [hname]

theorem pair_of_flaw {flaw : Refusal} (hname : nameFlaw? (Text.trim name) = some flaw) :
    s.pair now i token account name = (s, .error flaw) := by
  unfold pair
  simp only [hname]

theorem pair_ok_iff :
    (s.pair now i token account name).2 = .ok d ↔
      nameFlaw? (Text.trim name) = none ∧
        d = ⟨i, account, Text.trim name, s.scheme.digest token, now, none⟩ := by
  cases hname : nameFlaw? (Text.trim name) with
  | none => simp [pair_of_name s now i token account hname, eq_comm]
  | some flaw => simp [pair_of_flaw hname]

/-! ## Removing -/

theorem unpair_of_found (hd : s.devices[i]? = some d) :
    s.unpair d.account i =
      ({ s with
          devices := s.devices.erase i
          deviceTokens := s.deviceTokens.erase d.digest }, .ok d) := by
  unfold unpair
  simp only [hd, if_true]

/-- Nobody removes what they do not have. -/
theorem unpair_of_not (h : ∀ d, s.devices[i]? = some d → d.account ≠ account) :
    s.unpair account i = (s, .error .unknownDevice) := by
  unfold unpair
  split
  · next d hd => rw [if_neg (h d hd)]
  · rfl

theorem unpair_cases (s : Identity) (account : AccountId) (i : DeviceId) :
    (∃ d, s.devices[i]? = some d ∧ d.account = account) ∨
      s.unpair account i = (s, .error .unknownDevice) := by
  by_cases hhas : ∃ d, s.devices[i]? = some d ∧ d.account = account
  · exact .inl hhas
  · exact .inr (unpair_of_not fun d hd haccount => hhas ⟨d, hd, haccount⟩)

theorem unpair_ok_iff :
    (s.unpair account i).2 = .ok d ↔ s.devices[i]? = some d ∧ d.account = account := by
  constructor
  · intro hok
    obtain ⟨d', hd, rfl⟩ | hnot := unpair_cases s account i
    · rw [unpair_of_found hd] at hok
      cases hok
      exact ⟨hd, rfl⟩
    · rw [hnot] at hok
      cases hok
  · rintro ⟨hd, rfl⟩
    rw [unpair_of_found hd]

/-! ## Presenting a token -/

/-- The device that is known by a token. -/
def found (s : Identity) (token : String) : Option Device :=
  (s.deviceTokens[s.scheme.digest token]?).bind fun i => s.devices[i]?

theorem resolve_eq (s : Identity) (now : Instant) (token : String) :
    s.resolve now token =
      match s.found token with
      | some d =>
        ({ s with devices := s.devices.insert d.id { d with lastSeen := some now } },
          some { d with lastSeen := some now })
      | none => (s, none) := rfl

/-! ## Events -/

section Next

variable (s : Identity) (now : Instant)

theorem next_register (k : AccountId) (salt : List UInt8) (email password : String) :
    s.next (now, .register k salt email password) = (s.register now k salt email password).1 := by
  simp only [next, step, Prod.map_fst, id]

theorem next_pair (i : DeviceId) (token : String) (account : AccountId) (name : String) :
    s.next (now, .pair i token account name) = (s.pair now i token account name).1 := by
  simp only [next, step, Prod.map_fst, id]

theorem next_unpair (account : AccountId) (i : DeviceId) :
    s.next (now, .unpair account i) = (s.unpair account i).1 := by
  simp only [next, step, Prod.map_fst, id]

theorem next_resolve (token : String) :
    s.next (now, .resolve token) = (s.resolve now token).1 := by
  simp only [next, step, Prod.map_fst, id]

theorem next_rotate (fresh token : String) :
    s.next (now, .rotate fresh token) = (s.rotate now fresh token).1 := by
  simp only [next, step, Prod.map_fst, id]

end Next

/-- What is drawn for a device that is paired: its id and its token.  Nothing is drawn for a
device that cannot have its name. -/
def Action.drawn? : Action → Option (DeviceId × String)
  | .pair i token _ name => if nameFlaw? (Text.trim name) = none then some (i, token) else none
  | _ => none

theorem Action.eq_of_drawn? {i' : DeviceId} {token' : String}
    (hdrawn : (Action.pair i token account name).drawn? = some (i', token')) :
    i' = i ∧ token' = token := by
  simp only [drawn?, Option.ite_none_right_eq_some, Option.some.injEq, Prod.mk.injEq] at hdrawn
  exact ⟨hdrawn.2.1.symm, hdrawn.2.2.symm⟩

/-- An event at which an account removes a device that it has. -/
def Unpairs (i : DeviceId) (s : Identity) (e : Instant × Action) : Prop :=
  ∃ account d, e.2 = .unpair account i ∧ (s.unpair account i).2 = .ok d

/-- The time of an event at which a device is found by its token. -/
def sight (i : DeviceId) (s : Identity) (e : Instant × Action) : Option Instant :=
  match e.2 with
  | .resolve token => if (s.resolve e.1 token).2.any (·.id = i) then some e.1 else none
  | _ => none

/-- What an event can do to the devices. -/
inductive Alters (s : Identity) (e : Instant × Action) : Identity → Prop
  | same (g : Identity) : e.2.drawn? = none → (∀ i, ¬ Unpairs i s e) →
      (∀ i, sight i s e = none) → g.devices = s.devices → g.deviceTokens = s.deviceTokens →
      Alters s e g
  | paired (i : DeviceId) (token : String) (account : AccountId) (name : String) :
      e.2 = .pair i token account name → nameFlaw? (Text.trim name) = none →
      Alters s e
        (s.addDevice ⟨i, account, Text.trim name, s.scheme.digest token, e.1, none⟩)
  | unpaired (i : DeviceId) (d : Device) :
      e.2 = .unpair d.account i → s.devices[i]? = some d →
      Alters s e
        { s with
          devices := s.devices.erase i
          deviceTokens := s.deviceTokens.erase d.digest }
  | resolved (token : String) (d : Device) : e.2 = .resolve token → s.found token = some d →
      Alters s e { s with devices := s.devices.insert d.id { d with lastSeen := some e.1 } }

theorem sight_of_found (he : e.2 = .resolve token) (hd : s.found token = some d) (i : DeviceId) :
    sight i s e = if d.id = i then some e.1 else none := by
  unfold sight
  rw [he]
  simp only [resolve_eq, hd, Option.any_some, decide_eq_true_eq]

theorem unpairs_iff : Unpairs i s e ↔ ∃ d, e.2 = .unpair d.account i ∧ s.devices[i]? = some d := by
  constructor
  · rintro ⟨account, d, he, hok⟩
    obtain ⟨hd, rfl⟩ := unpair_ok_iff.1 hok
    exact ⟨d, he, hd⟩
  · rintro ⟨d, he, hd⟩
    exact ⟨d.account, d, he, unpair_ok_iff.2 ⟨hd, rfl⟩⟩

theorem alters (s : Identity) (e : Instant × Action) : Alters s e (s.next e) := by
  obtain ⟨now, a⟩ := e
  cases a with
  | pair i token account name =>
    rw [next_pair]
    cases hname : nameFlaw? (Text.trim name) with
    | none =>
      rw [pair_of_name _ _ _ _ _ hname]
      exact .paired i token account name rfl hname
    | some flaw =>
      rw [pair_of_flaw hname]
      refine .same s ?_ ?_ (fun _ => rfl) rfl rfl
      · simp [Action.drawn?, hname]
      · simp [Unpairs]
  | unpair account i =>
    rw [next_unpair]
    obtain ⟨d, hd, rfl⟩ | hnot := unpair_cases s account i
    · rw [unpair_of_found hd]
      exact .unpaired i d rfl hd
    · rw [hnot]
      refine .same s rfl ?_ (fun _ => rfl) rfl rfl
      rintro i' ⟨account', d, he, hok⟩
      cases he
      rw [hnot] at hok
      cases hok
  | resolve token =>
    rw [next_resolve, resolve_eq]
    cases hd : s.found token with
    | some d => exact .resolved token d rfl hd
    | none =>
      refine .same s rfl ?_ (fun i => ?_) rfl rfl
      · simp [Unpairs]
      · simp [sight, resolve_eq, hd]
  -- the calls from here on leave both tables as they are
  | register i salt email password =>
    have hsame : ((s.register now i salt email password).1.devices = s.devices) ∧
        (s.register now i salt email password).1.deviceTokens = s.deviceTokens := by
      unfold register
      dsimp only
      split
      · exact ⟨rfl, rfl⟩
      · split <;> exact ⟨rfl, rfl⟩
    rw [next_register]
    exact .same _ rfl (by simp [Unpairs]) (fun _ => rfl) hsame.1 hsame.2
  | rotate fresh token =>
    have hcases := rotating s now fresh token
    have hsame : (s.rotate now fresh token).1.devices = s.devices ∧
        (s.rotate now fresh token).1.deviceTokens = s.deviceTokens := by
      generalize s.rotate now fresh token = out at hcases ⊢
      cases hcases <;> exact ⟨rfl, rfl⟩
    rw [next_rotate]
    exact .same _ rfl (by simp [Unpairs]) (fun _ => rfl) hsame.1 hsame.2
  | authenticate | devices | issue | revoke =>
    exact .same _ rfl (by simp [Unpairs]) (fun _ => rfl) rfl rfl

/-! ## The two tables -/

/-- Devices are kept under their ids, and the table of tokens says which device has which
digest, neither more nor less. -/
structure Matched (s : Identity) : Prop where
  keyed : ∀ (i : DeviceId) (d : Device), s.devices[i]? = some d → d.id = i
  tokens : ∀ (key : String) (i : DeviceId),
    s.deviceTokens[key]? = some i ↔ ∃ d, s.devices[i]? = some d ∧ d.digest = key

/-- What an event draws for a device is not known yet. -/
def Unknown (s : Identity) (e : Instant × Action) : Prop :=
  ∀ i token, e.2.drawn? = some (i, token) →
    s.devices[i]? = none ∧ s.deviceTokens[s.scheme.digest token]? = none

theorem matched_empty (scheme : Scheme) : (empty scheme).Matched :=
  ⟨by simp [empty], by simp [empty]⟩

theorem Matched.found_eq_some (hs : s.Matched) :
    s.found token = some d ↔ s.devices[d.id]? = some d ∧ d.digest = s.scheme.digest token := by
  rw [found, Option.bind_eq_some_iff]
  constructor
  · rintro ⟨i, hi, hd⟩
    obtain ⟨d', hd', hdigest⟩ := (hs.tokens _ i).1 hi
    rw [hd] at hd'
    cases hd'
    obtain rfl := hs.keyed i d hd
    exact ⟨hd, hdigest⟩
  · rintro ⟨hd, hdigest⟩
    exact ⟨d.id, (hs.tokens _ _).2 ⟨d, hd, hdigest⟩, hd⟩

/-- No two devices have the same token. -/
theorem Matched.eq_of_digest (hs : s.Matched) {i' : DeviceId} {d' : Device}
    (hd : s.devices[i]? = some d) (hd' : s.devices[i']? = some d') (heq : d.digest = d'.digest) :
    i = i' := by
  have hi := (hs.tokens d'.digest i).2 ⟨d, hd, heq⟩
  rw [(hs.tokens d'.digest i').2 ⟨d', hd', rfl⟩] at hi
  cases hi
  rfl

/-- A device that is added is new, and so is its token. -/
theorem Matched.add (hs : s.Matched) (hid : s.devices[d.id]? = none)
    (hkey : s.deviceTokens[d.digest]? = none) : (s.addDevice d).Matched := by
  refine ⟨fun i d' hd' => ?_, fun key i => ?_⟩
  · obtain ⟨rfl, rfl⟩ | ⟨-, hd'⟩ := Table.lookup_insert_eq_some.1 hd'
    · rfl
    · exact hs.keyed i d' hd'
  · simp only [addDevice, Table.lookup_insert_eq_some, hs.tokens]
    constructor
    · rintro (⟨rfl, rfl⟩ | ⟨hne, d', hd', rfl⟩)
      · exact ⟨d, .inl ⟨rfl, rfl⟩, rfl⟩
      · refine ⟨d', .inr ⟨?_, hd'⟩, rfl⟩
        rintro rfl
        rw [hid] at hd'
        cases hd'
    · rintro ⟨d', ⟨rfl, rfl⟩ | ⟨hne, hd'⟩, rfl⟩
      · exact .inl ⟨rfl, rfl⟩
      · refine .inr ⟨fun hsame => ?_, d', hd', rfl⟩
        have hknown := (hs.tokens d'.digest i).2 ⟨d', hd', rfl⟩
        rw [← hsame, hkey] at hknown
        cases hknown

theorem Matched.remove (hs : s.Matched) (hd : s.devices[i]? = some d) :
    Matched { s with
      devices := s.devices.erase i
      deviceTokens := s.deviceTokens.erase d.digest } := by
  refine ⟨fun i' d' hd' => ?_, fun key i' => ?_⟩
  · rw [Table.lookup_erase, Option.ite_none_left_eq_some] at hd'
    exact hs.keyed i' d' hd'.2
  · simp only [Table.lookup_erase, Option.ite_none_left_eq_some, hs.tokens]
    constructor
    · rintro ⟨hne, d', hd', rfl⟩
      refine ⟨d', ⟨?_, hd'⟩, rfl⟩
      rintro rfl
      rw [hd] at hd'
      cases hd'
      exact hne rfl
    · rintro ⟨d', ⟨hne, hd'⟩, rfl⟩
      exact ⟨fun hsame => hne (hs.eq_of_digest hd hd' hsame), d', hd', rfl⟩

/-- The record of a device may change as long as its id and its token do not. -/
theorem Matched.update (hs : s.Matched) {d' : Device} (hd : s.devices[d.id]? = some d)
    (hid : d'.id = d.id) (hdigest : d'.digest = d.digest) :
    Matched { s with devices := s.devices.insert d.id d' } := by
  refine ⟨fun i e he => ?_, fun key i => ?_⟩
  · obtain ⟨rfl, rfl⟩ | ⟨-, he⟩ := Table.lookup_insert_eq_some.1 he
    · exact hid
    · exact hs.keyed i e he
  · simp only [Table.lookup_insert_eq_some, hs.tokens]
    constructor
    · rintro ⟨e, he, rfl⟩
      by_cases hi : d.id = i
      · subst hi
        rw [hd] at he
        cases he
        exact ⟨d', .inl ⟨rfl, rfl⟩, hdigest⟩
      · exact ⟨e, .inr ⟨hi, he⟩, rfl⟩
    · rintro ⟨e, ⟨rfl, rfl⟩ | ⟨-, he⟩, rfl⟩
      · exact ⟨d, hd, hdigest.symm⟩
      · exact ⟨e, he, rfl⟩

theorem Matched.next (hs : s.Matched) (hnew : Unknown s e) : (s.next e).Matched := by
  have halters := alters s e
  generalize s.next e = g at halters
  cases halters with
  | same _ _ _ _ hdevices htokens =>
    exact ⟨by rw [hdevices]; exact hs.keyed, by rw [hdevices, htokens]; exact hs.tokens⟩
  | paired i token account name he hname =>
    obtain ⟨hid, hkey⟩ := hnew i token (by rw [he]; exact if_pos hname)
    exact hs.add hid hkey
  | unpaired i d he hd => exact hs.remove hd
  | resolved token d he hd => exact hs.update (hs.found_eq_some.1 hd).1 rfl rfl

/-- After an event there are the devices that were there before and are not removed by it,
and the one that is paired by it. -/
theorem lookup_next (hs : s.Matched) (hnew : Unknown s e) :
    (s.next e).devices[d.id]? = some d ↔
      (∃ d₀ : Device, s.devices[d₀.id]? = some d₀ ∧ ¬ Unpairs d₀.id s e ∧
        d = { d₀ with lastSeen := (sight d₀.id s e).or d₀.lastSeen }) ∨
      ∃ i token account name, e.2 = .pair i token account name ∧
        nameFlaw? (Text.trim name) = none ∧
        d = ⟨i, account, Text.trim name, s.scheme.digest token, e.1, none⟩ := by
  have halters := alters s e
  generalize s.next e = g at halters
  cases halters with
  | same _ hdrawn hun hsight hdevices =>
    rw [hdevices]
    constructor
    · exact fun hd => .inl ⟨d, hd, hun d.id, by rw [hsight]; rfl⟩
    · rintro (⟨d₀, hd, -, rfl⟩ | ⟨i, token, account, name, he, hname, -⟩)
      · rw [hsight]
        exact hd
      · rw [he, Action.drawn?, if_pos hname] at hdrawn
        cases hdrawn
  | paired i token account name he hname =>
    obtain ⟨hid, -⟩ := hnew i token (by rw [he]; exact if_pos hname)
    have hsight : ∀ i', sight i' s e = none := fun i' => by simp [sight, he]
    have hun : ∀ i', ¬ Unpairs i' s e := fun i' => by simp [Unpairs, he]
    simp only [addDevice, Table.lookup_insert_eq_some]
    constructor
    · rintro (⟨-, rfl⟩ | ⟨-, hd⟩)
      · exact .inr ⟨i, token, account, name, he, hname, rfl⟩
      · exact .inl ⟨d, hd, hun d.id, by rw [hsight]; rfl⟩
    · rintro (⟨d₀, hd, -, rfl⟩ | ⟨i', token', account', name', he', -, rfl⟩)
      · -- the new id is not that of a device that was there
        refine .inr ⟨?_, by rw [hsight]; exact hd⟩
        rintro rfl
        dsimp only at hid
        rw [hd] at hid
        cases hid
      · rw [he] at he'
        cases he'
        exact .inl ⟨rfl, rfl⟩
  -- `sight` is silent here, so what remains is who has gone
  | unpaired i d' he hd' =>
    have hsight : ∀ i', sight i' s e = none := fun i' => by simp [sight, he]
    have hun : ∀ i', Unpairs i' s e ↔ i' = i := by
      intro i'
      rw [unpairs_iff, he]
      constructor
      · rintro ⟨d'', heq, -⟩
        exact (Action.unpair.inj heq).2.symm
      · rintro rfl
        exact ⟨d', rfl, hd'⟩
    simp only [Table.lookup_erase, Option.ite_none_left_eq_some, hsight, hun, Option.none_or, he]
    constructor
    · rintro ⟨hne, hd⟩
      exact .inl ⟨d, hd, Ne.symm hne, rfl⟩
    · rintro (⟨d₀, hd, hne, rfl⟩ | ⟨i', token, account, name, heq, -⟩)
      · exact ⟨Ne.symm hne, hd⟩
      · cases heq
  | resolved token d' he hd' =>
    obtain ⟨hd'', -⟩ := hs.found_eq_some.1 hd'
    have hun : ∀ i', ¬ Unpairs i' s e := fun i' => by simp [Unpairs, he]
    simp only [Table.lookup_insert_eq_some, sight_of_found he hd']
    constructor
    · rintro (⟨-, rfl⟩ | ⟨hne, hd⟩)
      · exact .inl ⟨d', hd'', hun d'.id, by rw [if_pos rfl]; rfl⟩
      · exact .inl ⟨d, hd, hun d.id, by rw [if_neg hne]; rfl⟩
    · rintro (⟨d₀, hd, -, rfl⟩ | ⟨i', token', account, name, heq, -⟩)
      · -- only the device that was found is seen
        by_cases hne : d'.id = d₀.id
        · rw [← hne, hd''] at hd
          cases hd
          exact .inl ⟨rfl, by rw [if_pos rfl]; rfl⟩
        · exact .inr ⟨hne, by rw [if_neg hne]; exact hd⟩
      · rw [he] at heq
        cases heq

end Switchboard.Identity
