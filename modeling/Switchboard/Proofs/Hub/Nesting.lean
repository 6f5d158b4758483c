import Switchboard.Proofs.Hub.Offers

/-! # Telling that leads to telling

Whoever cannot be told something may be taken out of the hub for it, and if that was a desktop its
mobiles are told, which may take out others.  Four calls ask for each other in this way.  The
relation here has one case for every way through each of them, with what the call asks for as its
premises, so that it relates a call to something only if the call comes to an end.  All calls do,
in every hub, also where rooms and index say different things, and in whatever order mobiles are
told: whoever is taken out was in the index and is not any more, so there is less and less to take
out.

* `RollCall` — an order in which the mobiles of a room are told;
* `Call`, `Outcome`, `Unfolds` — the four calls, what they come to, and who is taken out on the way;
* `Unfolds.eq` — the hub does what the relation says;
* `Clears`, `Unfolds.clears` — those who are taken out were in the index, and nobody else is missing
  from it;
* `Unfolds.unique` — a call does not come to two results;
* `ends_deregister`, `ends_deliverTo`, `ends_deliver` — a call ends if those do that it asks for;
* `nested_delivery_ends` — the calls end in every hub.
-/

namespace Switchboard.Hub

/-! ## The four calls -/

/-- For every hub and account, an order in which the mobiles of its room are told something. -/
structure RollCall where
  mobiles : Hub → AccountId → List Connection
  perm : ∀ h account, (mobiles h account).Perm (h.room account).mobiles.values

/-- The order of ids, in which the hub tells mobiles. -/
def RollCall.byId : RollCall := ⟨fun h account => (h.room account).mobiles.values, fun _ _ => .rfl⟩

/-- The calls that ask for each other. -/
inductive Call where
  | deliver (ps : List Parcel)
  | deliverTo (p : Parcel)
  | deregister (c : ConnectionId)
  | announce (account : AccountId) (notice : Notice)

/-- What comes of a call: how many were reached, whether a text was put in, or whether there was
somebody to take out. -/
inductive Outcome where
  | reached (n : Nat)
  | put (r : Except Outbox.Refusal Unit)
  | left (b : Bool)

/-- What the hub makes of a call. -/
def perform (h : Hub) : Call → Hub × Outcome
  | .deliver ps => (h.deliver ps).map id .reached
  | .deliverTo p => (h.deliverTo p).map id .put
  | .deregister c => (h.deregister c).map id .left
  | .announce account notice => (h.announce account notice).map id .reached

/-- A call comes to an end: the hub and the outcome, and the connections that were taken out on the
way, one after the other. -/
inductive Unfolds (roll : RollCall) : Hub → Call → Hub → Outcome → List ConnectionId → Prop
  | done (h : Hub) : Unfolds roll h (.deliver []) h (.reached 0) []
  | reached {h k g : Hub} {p : Parcel} {ps : List Parcel} {n : Nat}
      {gone later : List ConnectionId} : Unfolds roll h (.deliverTo p) k (.put (.ok ())) gone →
      Unfolds roll k (.deliver ps) g (.reached n) later →
      Unfolds roll h (.deliver (p :: ps)) g (.reached (n + 1)) (gone ++ later)
  | missed {h k g : Hub} {p : Parcel} {ps : List Parcel} {n : Nat} {e : Outbox.Refusal}
      {gone later : List ConnectionId} : Unfolds roll h (.deliverTo p) k (.put (.error e)) gone →
      Unfolds roll k (.deliver ps) g (.reached n) later →
      Unfolds roll h (.deliver (p :: ps)) g (.reached n) (gone ++ later)
  | put {h g : Hub} {p : Parcel} : h.push p.outbox p.text = .ok g →
      Unfolds roll h (.deliverTo p) g (.put (.ok ())) []
  | ended {h g : Hub} {p : Parcel} {a : Outcome} {gone : List ConnectionId} :
      h.push p.outbox p.text = .error .closed → Unfolds roll h (.deregister p.id) g a gone →
      Unfolds roll h (.deliverTo p) g (.put (.error .closed)) gone
  | closed {h g : Hub} {p : Parcel} {a : Outcome} {gone : List ConnectionId} :
      h.push p.outbox p.text = .error .full → h.config.overflow = .close →
      Unfolds roll (h.pushClose p.outbox overflowReason) (.deregister p.id) g a gone →
      Unfolds roll h (.deliverTo p) g (.put (.error .full)) gone
  | dropped {h : Hub} {p : Parcel} : h.push p.outbox p.text = .error .full →
      h.config.overflow = .dropNewest → Unfolds roll h (.deliverTo p) h (.put (.error .full)) []
  | unknown {h : Hub} {c : ConnectionId} : h.index[c]? = none →
      Unfolds roll h (.deregister c) h (.left false) []
  | quietly {h : Hub} {c : ConnectionId} {account : AccountId} : h.index[c]? = some account →
      ((h.room account).remove c).2 = none →
      Unfolds roll h (.deregister c) (h.detach c).1 (.left true) [c]
  | announced {h g : Hub} {c : ConnectionId} {account : AccountId} {d : Connection} {a : Outcome}
      {gone : List ConnectionId} : h.index[c]? = some account →
      ((h.room account).remove c).2 = some d →
      Unfolds roll (h.detach c).1 (.announce account (presence false d.principal)) g a gone →
      Unfolds roll h (.deregister c) g (.left true) (c :: gone)
  | called {h g : Hub} {account : AccountId} {notice : Notice} {a : Outcome}
      {gone : List ConnectionId} :
      Unfolds roll h (.deliver (parcels (roll.mobiles h account) notice.render)) g a gone →
      Unfolds roll h (.announce account notice) g a gone

variable {roll : RollCall} {h g k : Hub} {call : Call} {a : Outcome} {p : Parcel}
  {ps : List Parcel} {c : ConnectionId} {account : AccountId} {gone later : List ConnectionId}

/-! ## What the hub does -/

section Perform

variable {n : Nat} {r : Except Outbox.Refusal Unit} {b : Bool} {notice : Notice}

theorem perform_deliver :
    h.perform (.deliver ps) = (g, .reached n) ↔ h.deliver ps = (g, n) := by
  simp [perform, Prod.ext_iff]

theorem perform_deliverTo :
    h.perform (.deliverTo p) = (g, .put r) ↔ h.deliverTo p = (g, r) := by
  simp [perform, Prod.ext_iff]

theorem perform_deregister :
    h.perform (.deregister c) = (g, .left b) ↔ h.deregister c = (g, b) := by
  simp [perform, Prod.ext_iff]

/-- Whatever the outcome, the hub is the one that the call leaves. -/
theorem fst_perform (hcall : h.perform call = (g, a)) : (h.perform call).1 = g := by rw [hcall]

/-- Only a desktop's leaving has to be told. -/
theorem deregister_quietly (hi : h.index[c]? = some account)
    (hd : ((h.room account).remove c).2 = none) : h.deregister c = ((h.detach c).1, true) := by
  have hnothing : (h.detach c).2 = [] := by
    rw [detach_eq hi, farewell, hd]
  rw [deregister, if_pos (Table.mem_of_lookup hi)]
  dsimp only
  rw [hnothing, deliverAll]

/-- The mobiles are told of a desktop that is taken out as they are told anything else. -/
theorem deregister_announced {d : Connection} (hi : h.index[c]? = some account)
    (hd : ((h.room account).remove c).2 = some d) :
    h.deregister c =
      (((h.detach c).1.announce account (presence false d.principal)).1, true) := by
  -- the room lets go of a desktop only if it is the one that is taken out
  have hdesk : (h.room account).isDesktop c = true ∧ (h.room account).desktop = some d := by
    rw [Room.remove_departed] at hd
    split at hd
    · exact ⟨by assumption, hd⟩
    · cases hd
  obtain ⟨d', hd', rfl⟩ := Room.isDesktop_iff.1 hdesk.1
  obtain rfl : d' = d := Option.some.inj (hd'.symm.trans hdesk.2)
  rw [deregister, if_pos (Table.mem_of_lookup hi)]
  dsimp only
  rw [(detach_desktop hi hd').1, announce, deliver_fst]

end Perform

/-- In the order of ids, the hub makes of every call what the relation says. -/
theorem Unfolds.eq (hu : Unfolds .byId h call g a gone) : h.perform call = (g, a) := by
  induction hu with
  | done h => rfl
  | reached _ _ ihto ihrest =>
    rw [perform_deliver] at ihrest ⊢
    rw [deliver, perform_deliverTo.1 ihto]
    simp only [ihrest]
  | missed _ _ ihto ihrest =>
    rw [perform_deliver] at ihrest ⊢
    rw [deliver, perform_deliverTo.1 ihto]
    simp only [ihrest]
  | put hp =>
    obtain ⟨b, hb, rfl⟩ := push_eq_ok.1 hp
    rw [perform_deliverTo, deliverTo_ok hb]
  | ended hp _ ih =>
    rw [perform_deliverTo, deliverTo_error (push_eq_error.1 hp)]
    simp only [undelivered, ← deregister_fst, ← fst_perform ih, perform, Prod.map_fst, id]
  | closed hp hclose _ ih =>
    rw [perform_deliverTo, deliverTo_error (push_eq_error.1 hp)]
    simp only [undelivered, hclose, ← deregister_fst, ← fst_perform ih, perform, Prod.map_fst, id]
  | dropped hp hdrop =>
    rw [perform_deliverTo, deliverTo_error (push_eq_error.1 hp)]
    simp only [undelivered, hdrop, deliverAll]
  | unknown hi =>
    rw [perform_deregister, deregister, if_neg (Table.not_mem_iff_lookup.2 hi)]
  | quietly hi hd => rw [perform_deregister, deregister_quietly hi hd]
  | announced hi hd _ ih =>
    rw [perform_deregister, deregister_announced hi hd]
    simp only [← fst_perform ih, perform, Prod.map_fst, id]
  | called _ ih => exact ih

/-! ## Who is taken out -/

/-- Some connections have been taken out of a hub: each was in the index, and none is any more.
Nobody else is missing. -/
structure Clears (h : Hub) (gone : List ConnectionId) (g : Hub) : Prop where
  nodup : gone.Nodup
  known : ∀ c ∈ gone, c ∈ h.index
  index : ∀ c : ConnectionId, g.index[c]? = if c ∈ gone then none else h.index[c]?
  size : gone.length + g.index.size = h.index.size

namespace Clears

theorem refl (hindex : g.index = h.index) : h.Clears [] g where
  nodup := .nil
  known := by simp
  index := by simp [hindex]
  size := by simp [hindex]

theorem detach (hc : c ∈ h.index) : h.Clears [c] (h.detach c).1 where
  nodup := List.nodup_singleton c
  known := by simpa using hc
  index c' := by
    rw [detach_index, Table.lookup_erase]
    simp [eq_comm]
  size := by
    rw [detach_index, Std.ExtTreeMap.size_erase]
    have := Table.size_erase_lt hc
    simp only [Std.ExtTreeMap.contains_iff_mem, hc, if_true, List.length_singleton]
    omega

theorem trans (hgone : h.Clears gone k) (hlater : k.Clears later g) :
    h.Clears (gone ++ later) g where
  nodup := by
    refine List.nodup_append.2 ⟨hgone.nodup, hlater.nodup, ?_⟩
    rintro c hc _ hc' rfl
    have hnone := hgone.index c
    rw [if_pos hc] at hnone
    exact Table.not_mem_iff_lookup.2 hnone (hlater.known c hc')
  known c hc := by
    obtain hc | hc := List.mem_append.1 hc
    · exact hgone.known c hc
    · by_cases hc' : c ∈ gone
      · exact hgone.known c hc'
      · obtain ⟨account, hi⟩ := Table.mem_iff_lookup.1 (hlater.known c hc)
        rw [hgone.index, if_neg hc'] at hi
        exact Table.mem_of_lookup hi
  index c := by
    rw [hlater.index, hgone.index]
    by_cases hc : c ∈ gone <;> by_cases hc' : c ∈ later <;> simp [hc, hc']
  size := by
    rw [List.length_append, ← hgone.size, ← hlater.size, Nat.add_assoc]

theorem size_le (hgone : h.Clears gone g) : g.index.size ≤ h.index.size := by
  have := hgone.size
  omega

end Clears

/-- Each call takes out those who are missing afterwards, itself or by what it asks for. -/
theorem Unfolds.clears (hu : Unfolds roll h call g a gone) : h.Clears gone g := by
  induction hu with
  | done h => exact .refl rfl
  | reached _ _ ihto ihrest | missed _ _ ihto ihrest => exact ihto.trans ihrest
  | put hp => exact .refl (push_index hp)
  | ended _ _ ih => exact ih
  | closed _ _ _ ih => exact (Clears.refl (pushClose_index _ _ _)).trans ih
  | dropped => exact .refl rfl
  | unknown => exact .refl rfl
  | quietly hi => exact .detach (Table.mem_of_lookup hi)
  | announced hi _ _ ih => exact (Clears.detach (Table.mem_of_lookup hi)).trans ih
  | called _ ih => exact ih

/-! ## One result -/

/-- Which case applies is settled by the hub, so there are no two ways through a call. -/
theorem Unfolds.unique {g' : Hub} {a' : Outcome} {gone' : List ConnectionId}
    (hu : Unfolds roll h call g a gone) (hu' : Unfolds roll h call g' a' gone') :
    g' = g ∧ a' = a ∧ gone' = gone := by
  -- the other way through is inverted in each case; what the hub looks up refutes the rest
  induction hu generalizing g' a' gone' with
  | done h =>
    cases hu'
    exact ⟨rfl, rfl, rfl⟩
  | reached _ _ ihto ihrest =>
    cases hu' with
    | reached hto hrest =>
      obtain ⟨rfl, -, rfl⟩ := ihto hto
      obtain ⟨rfl, heq, rfl⟩ := ihrest hrest
      cases heq
      exact ⟨rfl, rfl, rfl⟩
    | missed hto _ =>
      obtain ⟨-, heq, -⟩ := ihto hto
      cases heq
  | missed _ _ ihto ihrest =>
    cases hu' with
    | reached hto _ =>
      obtain ⟨-, heq, -⟩ := ihto hto
      cases heq
    | missed hto hrest =>
      obtain ⟨rfl, -, rfl⟩ := ihto hto
      obtain ⟨rfl, heq, rfl⟩ := ihrest hrest
      cases heq
      exact ⟨rfl, rfl, rfl⟩
  -- whether the outbox takes the text is the same for both
  | put hp =>
    cases hu' with
    | put hp' =>
      cases hp.symm.trans hp'
      exact ⟨rfl, rfl, rfl⟩
    | ended hp' | closed hp' | dropped hp' =>
      cases hp.symm.trans hp'
  | ended hp _ ih =>
    cases hu' with
    | ended _ hout =>
      obtain ⟨rfl, -, rfl⟩ := ih hout
      exact ⟨rfl, rfl, rfl⟩
    | put hp' | closed hp' | dropped hp' =>
      cases hp.symm.trans hp'
  | closed hp hclose _ ih =>
    cases hu' with
    | closed _ _ hout =>
      obtain ⟨rfl, -, rfl⟩ := ih hout
      exact ⟨rfl, rfl, rfl⟩
    | dropped _ hdrop =>
      cases hclose.symm.trans hdrop
    | put hp' | ended hp' =>
      cases hp.symm.trans hp'
  | dropped hp hdrop =>
    cases hu' with
    | dropped => exact ⟨rfl, rfl, rfl⟩
    | closed _ hclose =>
      cases hdrop.symm.trans hclose
    | put hp' | ended hp' =>
      cases hp.symm.trans hp'
  -- and so are the index and what `detach` leaves to tell
  | unknown hi =>
    cases hu' with
    | unknown => exact ⟨rfl, rfl, rfl⟩
    | quietly hi' | announced hi' =>
      cases hi.symm.trans hi'
  | quietly hi hd =>
    cases hu' with
    | unknown hi' =>
      cases hi.symm.trans hi'
    | quietly => exact ⟨rfl, rfl, rfl⟩
    | announced hi' hd' =>
      cases hi.symm.trans hi'
      cases hd.symm.trans hd'
  | announced hi hd _ ih =>
    cases hu' with
    | unknown hi' =>
      cases hi.symm.trans hi'
    | quietly hi' hd' =>
      cases hi.symm.trans hi'
      cases hd.symm.trans hd'
    | announced hi' hd' htold =>
      cases hi.symm.trans hi'
      cases hd.symm.trans hd'
      obtain ⟨rfl, -, rfl⟩ := ih htold
      exact ⟨rfl, rfl, rfl⟩
  | called _ ih =>
    cases hu' with
    | called htold => exact ih htold

theorem Unfolds.put_of_deliverTo (hu : Unfolds roll h (.deliverTo p) g a gone) :
    ∃ r, a = .put r := by
  cases hu <;> exact ⟨_, rfl⟩

theorem Unfolds.reached_of_deliver (hu : Unfolds roll h (.deliver ps) g a gone) :
    ∃ n, a = .reached n := by
  cases hu <;> exact ⟨_, rfl⟩

/-! ## The calls end -/

/-- A call comes to an end. -/
def Ends (roll : RollCall) (h : Hub) (call : Call) : Prop :=
  ∃ g a gone, Unfolds roll h call g a gone

/-- Taking somebody out asks for an announcement only when the entry is gone, so it is enough that
announcements end in hubs with fewer entries. -/
theorem ends_deregister
    (hless : ∀ g : Hub, g.index.size < h.index.size →
      ∀ account notice, Ends roll g (.announce account notice)) (c : ConnectionId) :
    Ends roll h (.deregister c) := by
  cases hi : h.index[c]? with
  | none => exact ⟨_, _, _, .unknown hi⟩
  | some account =>
    cases hd : ((h.room account).remove c).2 with
    | none => exact ⟨_, _, _, .quietly hi hd⟩
    | some d =>
      have hsize : (h.detach c).1.index.size < h.index.size := by
        rw [detach_index]
        exact Table.size_erase_lt (Table.mem_of_lookup hi)
      obtain ⟨g, a, gone, htold⟩ := hless _ hsize account (presence false d.principal)
      exact ⟨_, _, _, .announced hi hd htold⟩

theorem ends_deliverTo
    (hout : ∀ g : Hub, g.index = h.index → ∀ c, Ends roll g (.deregister c)) (p : Parcel) :
    Ends roll h (.deliverTo p) := by
  cases hp : h.push p.outbox p.text with
  | ok k => exact ⟨_, _, _, .put hp⟩
  | error e =>
    cases e with
    | closed =>
      obtain ⟨g, a, gone, hu⟩ := hout h rfl p.id
      exact ⟨_, _, _, .ended hp hu⟩
    | full =>
      cases ho : h.config.overflow with
      | close =>
        obtain ⟨g, a, gone, hu⟩ := hout _ (pushClose_index h p.outbox overflowReason) p.id
        exact ⟨_, _, _, .closed hp ho hu⟩
      | dropNewest => exact ⟨_, _, _, .dropped hp ho⟩

/-- Nobody is added to the index on the way, so the rest of a list is told in a hub that has no more
entries than before. -/
theorem ends_deliver
    (hto : ∀ g : Hub, g.index.size ≤ h.index.size → ∀ p, Ends roll g (.deliverTo p))
    (ps : List Parcel) : Ends roll h (.deliver ps) := by
  induction ps generalizing h with
  | nil => exact ⟨_, _, _, .done h⟩
  | cons p ps ih =>
    obtain ⟨k, a, gone, hfirst⟩ := hto h (Nat.le_refl _) p
    have hsize : k.index.size ≤ h.index.size := hfirst.clears.size_le
    obtain ⟨g, a', later, hrest⟩ := ih fun g' hg' => hto g' (Nat.le_trans hg' hsize)
    obtain ⟨n, rfl⟩ := hrest.reached_of_deliver
    obtain ⟨r, rfl⟩ := hfirst.put_of_deliverTo
    cases r with
    | ok _ => exact ⟨_, _, _, .reached hfirst hrest⟩
    | error e => exact ⟨_, _, _, .missed hfirst hrest⟩

/-- Every call ends, by induction on the number of entries in the index. -/
theorem ends (roll : RollCall) (h : Hub) (call : Call) : Ends roll h call := by
  induction hsize : h.index.size using Nat.strongRecOn generalizing h call with
  | ind n ih =>
    subst hsize
    -- whatever is asked for on the way is asked for in a hub with no more entries, and an
    -- announcement only in one with fewer
    have hout : ∀ g : Hub, g.index.size ≤ h.index.size → ∀ c, Ends roll g (.deregister c) :=
      fun g hg => ends_deregister fun k hk account notice =>
        ih k.index.size (Nat.lt_of_lt_of_le hk hg) k (.announce account notice) rfl
    have hto : ∀ g : Hub, g.index.size ≤ h.index.size → ∀ p, Ends roll g (.deliverTo p) :=
      fun g hg => ends_deliverTo fun k hk => hout k (hk ▸ hg)
    cases call with
    | deregister c => exact hout h (Nat.le_refl _) c
    | deliverTo p => exact hto h (Nat.le_refl _) p
    | deliver ps => exact ends_deliver hto ps
    | announce account notice =>
      obtain ⟨g, a, gone, hu⟩ :=
        ends_deliver hto (parcels (roll.mobiles h account) notice.render)
      exact ⟨_, _, _, .called hu⟩

/-- In every hub, and in whatever order mobiles are told, the calls that ask for each other come to
an end, and to one result.  Whoever is taken out on the way was in the index when the call was made
and is not any more, nobody is taken out twice, and nobody else leaves the index, so no more are
taken out than there were entries.  What the hub does is what the calls come to in the order of
ids. -/
theorem nested_delivery_ends (h : Hub) (call : Call) :
    (∀ roll, ∃ g a gone, Unfolds roll h call g a gone ∧ h.Clears gone g ∧
      gone.length ≤ h.index.size ∧
      ∀ g' a' gone', Unfolds roll h call g' a' gone' → g' = g ∧ a' = a ∧ gone' = gone) ∧
    ∃ gone, Unfolds .byId h call (h.perform call).1 (h.perform call).2 gone := by
  constructor
  · intro roll
    obtain ⟨g, a, gone, hu⟩ := ends roll h call
    refine ⟨g, a, gone, hu, hu.clears, ?_, fun _ _ _ hu' => hu.unique hu'⟩
    have hsize := hu.clears.size
    omega
  · obtain ⟨g, a, gone, hu⟩ := ends .byId h call
    exact ⟨gone, hu.eq ▸ hu⟩

end Switchboard.Hub
