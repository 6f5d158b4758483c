import Switchboard.Proofs.Identity.Admission
import Switchboard.Proofs.Relay.Membership
import Switchboard.Service.Run

/-! # What a service goes through

Whatever a client asks for comes down to one of four things: the service learns something that
is not about devices, a device is paired, a device is removed and its desktop sent away, or
somebody whom it lets in connects.  Along all of them, and along whatever happens on connections,
the two halves of the service stay in step: whoever is in the hub is somebody whom the store
lets in.

* `Turns` — the four things; `turns_register`, `turns_login`, `turns_refresh`, `turns_pair`,
  `turns_unpair` — what clients ask for comes down to them;
* `Identifies`, `identifying` — who is let in;
* `Turns.scheme_eq`, `Turns.unknown` — a token becomes known only when it is drawn;
* `Sound` — the two halves are in step, and nothing that is still to be drawn is in use;
* `Sound.next`, `Sound.move` — they stay in step.
-/

namespace Switchboard.Service

variable {s g : Service} {clock : Clock} {fresh : Fresh} {coming : List Fresh} {p : Principal}
  {as : List Identity.Action}

/-! ## What may happen -/

/-- The store has gone through some actions, all at one time. -/
def learn (s : Service) (now : Instant) (as : List Identity.Action) : Service :=
  { s with identity := (s.identity.run (as.map fun a => (now, a))).1 }

/-- What may happen to a service when a client asks for something. -/
inductive Turns (s : Service) (clock : Clock) (fresh : Fresh) : Service → Prop
  | learns (as : List Identity.Action) : (∀ a ∈ as, a.IsQuiet) →
      Turns s clock fresh (s.learn clock.wall as)
  | pairs (account : AccountId) (name : String) :
      Turns s clock fresh (s.learn clock.wall [.pair fresh.id fresh.token account name])
  | unpairs (device : DeviceId) (d : Identity.Device) : s.identity.devices[device]? = some d →
      Turns s clock fresh
        { s.learn clock.wall [.unpair d.account device] with
          relay := s.relay.next (clock.steady, .evict d.account device) }
  | connects (as : List Identity.Action) (p : Principal) : (∀ a ∈ as, a.IsQuiet) →
      (s.learn clock.wall as).identity.Admits p →
      Turns s clock fresh
        { s.learn clock.wall as with
          relay := s.relay.next (clock.steady, .start ⟨fresh.id, p, fresh.outbox⟩) }

theorem learn_one (s : Service) (now : Instant) (a : Identity.Action) :
    s.learn now [a] = { s with identity := s.identity.next (now, a) } := rfl

theorem learn_cons (s : Service) (now : Instant) (a : Identity.Action)
    (as : List Identity.Action) :
    s.learn now (a :: as) = (s.learn now [a]).learn now as := by
  rw [learn_one]
  unfold learn
  rw [List.map_cons, Identity.run_cons]

theorem turns_refl (s : Service) (clock : Clock) (fresh : Fresh) : Turns s clock fresh s :=
  .learns [] (by simp)

/-- Whoever is welcomed is issued a refresh token. -/
theorem welcome_fst (s : Service) (now : Instant) (fresh : Fresh) (u : Identity.User) :
    (s.welcome now fresh u).1 = s.learn now [.issue fresh.token u.id] := rfl

theorem turns_register (s : Service) (clock : Clock) (fresh : Fresh) (email password : String) :
    Turns s clock fresh (s.register clock.wall fresh email password).1 := by
  have hnext := Identity.next_register s.identity clock.wall fresh.id fresh.salt email password
  unfold register
  generalize s.identity.register clock.wall fresh.id fresh.salt email password = out at hnext
  obtain ⟨identity, e | u⟩ := out
  · exact turns_refl s clock fresh
  · have hlearns : Turns s clock fresh (s.learn clock.wall
        [.register fresh.id fresh.salt email password, .issue fresh.token u.id]) :=
      .learns _ (by simp [Identity.Action.IsQuiet])
    rw [learn_cons, learn_one s, hnext] at hlearns
    dsimp only
    rw [welcome_fst]
    exact hlearns

theorem turns_login (s : Service) (clock : Clock) (fresh : Fresh) (email password : String) :
    Turns s clock fresh (s.login clock.wall fresh email password).1 := by
  unfold login
  cases s.identity.authenticate email password with
  | error e => exact turns_refl s clock fresh
  | ok u =>
    dsimp only
    rw [welcome_fst]
    exact .learns _ (by simp [Identity.Action.IsQuiet])

theorem turns_refresh (s : Service) (clock : Clock) (fresh : Fresh) (token : String) :
    Turns s clock fresh (s.refresh clock.wall fresh token).1 := by
  have hlearn : (s.refresh clock.wall fresh token).1
      = s.learn clock.wall [.rotate fresh.token token] := by
    rw [learn_one, Identity.next_rotate]
    unfold refresh
    generalize s.identity.rotate clock.wall fresh.token token = out
    obtain ⟨identity, e | u⟩ := out <;> rfl
  rw [hlearn]
  exact .learns _ (by simp [Identity.Action.IsQuiet])

theorem turns_pair (s : Service) (clock : Clock) (fresh : Fresh) (account : AccountId)
    (name : String) : Turns s clock fresh (s.pair clock.wall fresh account name).1 := by
  have hpairs : Turns s clock fresh _ := .pairs account name
  rw [learn_one, Identity.next_pair] at hpairs
  unfold pair
  generalize s.identity.pair clock.wall fresh.id fresh.token account name = out at hpairs
  obtain ⟨identity, e | d⟩ := out
  · exact turns_refl s clock fresh
  · exact hpairs

/-- A device that is found is removed and its desktop sent away. -/
theorem unpair_of_found (clock : Clock) {device : DeviceId} {d : Identity.Device}
    (hd : s.identity.devices[device]? = some d) :
    (s.unpair clock.steady d.account device).1 =
      { s.learn clock.wall [.unpair d.account device] with
        relay := s.relay.next (clock.steady, .evict d.account device) } := by
  unfold unpair
  rw [learn_one, Identity.next_unpair, Identity.unpair_of_found hd]
  rfl

theorem turns_unpair (s : Service) (clock : Clock) (fresh : Fresh) (account : AccountId)
    (device : DeviceId) : Turns s clock fresh (s.unpair clock.steady account device).1 := by
  obtain ⟨d, hd, rfl⟩ | hnot := Identity.unpair_cases s.identity account device
  · rw [unpair_of_found clock hd]
    exact .unpairs device d hd
  · unfold unpair
    rw [hnot]
    exact turns_refl s clock fresh

/-- What comes of the question who wants to connect: whoever is turned away is told that they
are not known, and leaves the service as it is. -/
inductive Identifies (s : Service) (now : Instant) : Service × Except Problem Principal → Prop
  | refused (p : Problem) : p.status = 401 → Identifies s now (s, .error p)
  | admitted (as : List Identity.Action) (p : Principal) : (∀ a ∈ as, a.IsQuiet) →
      (s.learn now as).identity.Admits p → Identifies s now (s.learn now as, .ok p)

theorem identifying (s : Service) (now : Instant) (token deviceToken : Option String) :
    Identifies s now (s.identify now token deviceToken) := by
  unfold identify
  cases Access.Credentials.ofQuery token deviceToken with
  | error e => exact .refused _ rfl
  | ok c =>
    have hcases := Identity.verifying s.identity s.keys now c
    dsimp only
    generalize s.identity.verify s.keys now c = out at hcases
    cases hcases with
    | refused e => exact .refused _ rfl
    | mobile token account haccount =>
      exact .admitted [] _ (by simp) (.mobile account haccount)
    | desktop token d hd =>
      exact .admitted [.resolve token] _ (by simp [Identity.Action.IsQuiet])
        (Identity.admits_resolve now hd)

/-! ## What becomes known -/

theorem Turns.identity (ht : Turns s clock fresh g) :
    ∃ as, g.identity = (s.learn clock.wall as).identity ∧
      ∀ a ∈ as, ∀ i token, a.drawn? = some (i, token) → token = fresh.token := by
  have hquiet (as : List Identity.Action) (has : ∀ a ∈ as, a.IsQuiet) :
      ∀ a ∈ as, ∀ i token, a.drawn? = some (i, token) → token = fresh.token := by
    intro a ha i token hdrawn
    rw [(has a ha).drawn?] at hdrawn
    cases hdrawn
  cases ht with
  | learns as has => exact ⟨as, rfl, hquiet as has⟩
  | pairs account name =>
    refine ⟨_, rfl, fun a ha i token hdrawn => ?_⟩
    obtain rfl := List.mem_singleton.1 ha
    exact (Identity.Action.eq_of_drawn? hdrawn).2
  | unpairs device d hd => exact ⟨_, rfl, by simp [Identity.Action.drawn?]⟩
  | connects as p has => exact ⟨as, rfl, hquiet as has⟩

theorem Turns.scheme_eq (ht : Turns s clock fresh g) :
    g.identity.scheme = s.identity.scheme := by
  obtain ⟨as, heq, -⟩ := ht.identity
  rw [heq]
  exact (Identity.keeps_run _ _).scheme

/-- A token that is unknown is unknown still, if its digest is not that of the one that is
drawn. -/
theorem Turns.unknown (ht : Turns s clock fresh g) {key : String}
    (hkey : key ≠ s.identity.scheme.digest fresh.token)
    (hnone : s.identity.deviceTokens[key]? = none) :
    g.identity.deviceTokens[key]? = none := by
  obtain ⟨as, heq, hdraws⟩ := ht.identity
  by_contra hknown
  obtain ⟨i, hi⟩ := Option.ne_none_iff_exists'.1 hknown
  rw [heq] at hi
  obtain hold | ⟨e, he, token, hdrawn, rfl⟩ := Identity.tokens_run hi
  · rw [hnone] at hold
    cases hold
  · obtain ⟨a, ha, rfl⟩ := List.mem_map.1 he
    rw [hdraws a ha i token hdrawn] at hkey
    exact hkey rfl

/-! ## Staying in step -/

/-- Whoever is in the hub is somebody whom the store lets in, and what is still to come is not
in use. -/
structure Sound (s : Service) (coming : List Fresh) : Prop where
  matched : s.identity.Matched
  relay : s.relay.Sound (coming.map (·.id))
  admitted : Hub.Peopled (fun _ c => s.identity.Admits c.principal) s.relay.hub
  unused : ∀ f ∈ coming, ∀ (key : String) (i : DeviceId),
    s.identity.deviceTokens[key]? = some i →
      i ≠ f.id ∧ key ≠ s.identity.scheme.digest f.token
  digests : (coming.map fun f => s.identity.scheme.digest f.token).Nodup

namespace Sound

theorem empty (scheme : Identity.Scheme) (keys : AccessToken.Keys) (config : Config)
    (hids : (coming.map (·.id)).Nodup)
    (hdigests : (coming.map fun f => scheme.digest f.token).Nodup) :
    Sound (.empty scheme keys config) coming where
  matched := Identity.matched_empty scheme
  relay := .empty config hids
  admitted := .empty config
  unused f _ key i hi := by simp [Service.empty, Identity.empty] at hi
  digests := hdigests

/-- What has come is not to come any more. -/
theorem rest (hs : Sound s (fresh :: coming)) : Sound s coming where
  matched := hs.matched
  relay := hs.relay.fewer (List.sublist_cons_self _ _)
  admitted := hs.admitted
  unused f hf := hs.unused f (List.mem_cons_of_mem _ hf)
  digests := (List.nodup_cons.1 hs.digests).2

/-- Nobody knows a device that has not been drawn yet. -/
theorem unknown (hs : Sound s (fresh :: coming)) (now : Instant) (account : AccountId)
    (name : String) : s.identity.Unknown (now, .pair fresh.id fresh.token account name) := by
  have hunused := hs.unused fresh List.mem_cons_self
  rintro i token hdrawn
  obtain ⟨rfl, rfl⟩ := Identity.Action.eq_of_drawn? hdrawn
  constructor
  · -- a device that is known has a token that is known
    by_contra hknown
    obtain ⟨d, hd⟩ := Option.ne_none_iff_exists'.1 hknown
    exact (hunused d.digest _ ((hs.matched.tokens _ _).2 ⟨d, hd, rfl⟩)).1 rfl
  · by_contra hknown
    obtain ⟨i, hi⟩ := Option.ne_none_iff_exists'.1 hknown
    exact (hunused _ i hi).2 rfl

/-- A store that goes on leaves the service in step, if it forgets nobody who is in the hub and
learns of no device that is still to come. -/
theorem replace (hs : Sound s coming) {identity : Identity} (hm : identity.Matched)
    (hscheme : identity.scheme = s.identity.scheme)
    (hadmitted : Hub.Peopled (fun _ c => identity.Admits c.principal) s.relay.hub)
    (hunused : ∀ f ∈ coming, ∀ (key : String) (i : DeviceId),
      identity.deviceTokens[key]? = some i →
        i ≠ f.id ∧ key ≠ s.identity.scheme.digest f.token) :
    Sound { s with identity } coming where
  matched := hm
  relay := hs.relay
  admitted := hadmitted
  unused := by rwa [hscheme]
  digests := by
    rw [hscheme]
    exact hs.digests

theorem learn (hs : Sound s coming) (now : Instant) (has : ∀ a ∈ as, a.IsQuiet) :
    Sound (s.learn now as) coming := by
  have hquiet : ∀ e ∈ as.map fun a => (now, a), e.2.IsQuiet := by
    rintro e he
    obtain ⟨a, ha, rfl⟩ := List.mem_map.1 he
    exact has a ha
  obtain ⟨hmatched, hretains⟩ := Identity.quiet_run hs.matched hquiet
  refine hs.replace hmatched (Identity.keeps_run _ _).scheme
    (hs.admitted.imp fun _ _ hc => hc.retains hretains) fun f hf key i hi => ?_
  obtain hold | ⟨e, he, token, hdrawn, -⟩ := Identity.tokens_run hi
  · exact hs.unused f hf key i hold
  · rw [(hquiet e he).drawn?] at hdrawn
    cases hdrawn

theorem pair (hs : Sound s (fresh :: coming)) (now : Instant) (account : AccountId)
    (name : String) :
    Sound (s.learn now [.pair fresh.id fresh.token account name]) coming := by
  have hnew := hs.unknown now account name
  have hretains := Identity.retains_next hs.matched hnew (by simp [Identity.Unpairs])
  rw [learn_one]
  refine hs.rest.replace (hs.matched.next hnew) (Identity.keeps_next _ _).scheme
    (hs.admitted.imp fun _ _ hc => hc.retains hretains) fun f hf key i hi => ?_
  obtain hold | ⟨token, hdrawn, rfl⟩ := Identity.tokens_next hi
  · exact hs.rest.unused f hf key i hold
  · -- it is the device that is paired now, and what comes later is different from it
    obtain ⟨rfl, rfl⟩ := Identity.Action.eq_of_drawn? hdrawn
    refine ⟨fun hid => ?_, fun hdigest => ?_⟩
    · exact (List.nodup_cons.1 hs.relay.fresh).1 (List.mem_map.2 ⟨f, hf, hid.symm⟩)
    · exact (List.nodup_cons.1 hs.digests).1 (List.mem_map.2 ⟨f, hf, hdigest.symm⟩)

/-- Something happens on connections, and whoever connects is let in by the store. -/
theorem relayed (hs : Sound s coming) {e : Instant × Relay.Event}
    (hr : s.relay.Sound (e.2.arrival?.toList ++ coming.map (·.id)))
    (hnew : ∀ c, e.2 = .start c → s.identity.Admits c.principal) :
    Sound { s with relay := s.relay.next e } coming where
  matched := hs.matched
  relay := hr.next
  admitted := Relay.peopled_next hs.admitted hnew
  unused := hs.unused
  digests := hs.digests

/-- A device is removed and its desktop is sent away, so that nobody is left in the hub who runs
on it. -/
theorem unpair (hs : Sound s coming) (clock : Clock) {device : DeviceId} {d : Identity.Device}
    (hd : s.identity.devices[device]? = some d) :
    Sound { s.learn clock.wall [.unpair d.account device] with
      relay := s.relay.next (clock.steady, .evict d.account device) } coming := by
  have hnew : s.identity.Unknown (clock.wall, .unpair d.account device) := by
    simp [Identity.Unknown, Identity.Action.drawn?]
  have hkeeps := Identity.keeps_next s.identity (clock.wall, .unpair d.account device)
  have hevicted := hs.relayed (e := (clock.steady, .evict d.account device)) hs.relay (by simp)
  have hwf := hevicted.relay.consistent.wellFormed
  rw [learn_one]
  refine hevicted.replace (hs.matched.next hnew) hkeeps.scheme ⟨?_, ?_⟩ ?_
  · rintro account ⟨i, p, o⟩ hc
    have haccount := ((hwf account).desktop _ hc).1
    cases hevicted.admitted.desktop account _ hc with
    | mobile account' huser => exact .mobile account' (hkeeps.stays _ huser)
    | desktop d' hd' =>
      -- the desktop that was on the device was in the account's room, and is not any more
      have hkept : ¬ Identity.Unpairs d'.id s.identity
          (clock.wall, .unpair d.account device) := by
        rw [Identity.unpairs_iff]
        rintro ⟨d'', heq, -⟩
        obtain ⟨-, rfl⟩ := Identity.Action.unpair.inj heq
        rw [hd] at hd'
        cases hd'
        cases haccount
        exact Hub.desktop_evict hc rfl
      obtain ⟨t, ht⟩ := Identity.kept_next hs.matched hnew hd' hkept
      exact .desktop { d' with lastSeen := t } ht
  · rintro account i ⟨j, p, o⟩ hm
    have hrole := ((hwf account).mobile i _ hm).2.2
    cases hevicted.admitted.mobile account _ _ hm with
    | mobile account' huser => exact .mobile account' (hkeeps.stays _ huser)
    | desktop => cases hrole
  · intro f hf key i hi
    obtain hold | ⟨token, hdrawn, -⟩ := Identity.tokens_next hi
    · exact hs.unused f hf key i hold
    · cases hdrawn

theorem next (hs : Sound s (fresh :: coming)) (ht : Turns s clock fresh g) : Sound g coming := by
  cases ht with
  | learns as has => exact hs.rest.learn clock.wall has
  | pairs account name => exact hs.pair clock.wall account name
  | unpairs device d hd => exact hs.rest.unpair clock hd
  | connects as p has hp =>
    -- the store learns who it is before the connection is started under the id that was drawn
    have hlearnt := hs.learn clock.wall has
    refine hlearnt.rest.relayed hlearnt.relay fun c hc => ?_
    cases hc
    exact hp

theorem move (hs : Sound s coming) (clock : Clock) (o : OutboxId) (m : Socket.Move) :
    Sound (s.step clock (.move o m)) coming :=
  hs.relayed (e := (clock.steady, .move o m)) hs.relay (by simp)

end Sound

end Switchboard.Service
