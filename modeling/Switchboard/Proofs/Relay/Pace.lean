import Switchboard.Proofs.Relay.Agreement
import Switchboard.Proofs.Socket.Hearing

/-! # The pace of a client

A socket's bucket is full when the socket starts, and afterwards nothing changes it but the texts
that the socket hears.  So the texts that come through in any span of time are as many as a bucket
lets through, no matter what else happens in the relay.

* `config_next` — a relay keeps its configuration;
* `hearings` — the texts that a socket hears in a run;
* `paces_run` — they are put to its bucket in turn;
* `opens_next`, `exists_start` — there is nothing to hear before a socket starts;
* `TextsPaced`, `texts_paced` — how many texts reach the hub, and what becomes of the others.
-/

namespace Switchboard

open Limits

/-! ## The configuration -/

theorem Socket.Transition.config {h g : Hub} {s s' : Socket} (hd : Socket.Transition h s g s') :
    g.config = h.config := by
  induction hd with
  | becomes => rfl
  | passes | leaves => exact (Hub.gains_next _ _).config
  | takes | heeds | ends => rfl
  | andThen _ _ ih ih' => exact ih'.trans ih

theorem Socket.config_start (h : Hub) (now : Instant) (c : Connection) :
    (Socket.start h now c).hub.config = h.config := by
  rw [start_eq]
  cases (opened h c).refusal? c with
  | some e => rfl
  | none => exact (Hub.gains_next (opened h c) (.register c)).config

theorem Socket.bucket_start (h : Hub) (now : Instant) (c : Connection) :
    (Socket.start h now c).socket.bucket = .full h.config.burst h.config.perSecond now := by
  rw [start_eq]
  cases (opened h c).refusal? c with
  | some e => exact bucket_quit _
  | none => rfl

namespace Relay

open Socket (Hearing Move Paces)

variable {r : Relay} {e : Instant × Event} {es : List (Instant × Event)} {o : OutboxId}
  {s : Socket} {x : Hearing}

theorem config_next (r : Relay) (e : Instant × Event) :
    (r.next e).hub.config = r.hub.config := by
  obtain ⟨now, e⟩ := e
  cases e with
  | start c =>
    rw [next_start]
    split
    · rfl
    · exact Socket.config_start r.hub now c
  | move o m =>
    cases hget : r.sockets[o]? with
    | none => rw [next_move_none now m hget]
    | some s =>
      rw [next_move now m hget]
      exact (Socket.transition_step r.hub s now m).config
  | evict account device =>
    have hg : Hub.Gains (fun _ => False) (fun _ _ _ => False) r.hub
        (r.hub.evict account device).1 :=
      Hub.gains_evict r.hub account device
    exact hg.config

/-! ## What a socket hears -/

/-- The texts that a socket hears at an event. -/
def hearingsAt (o : OutboxId) (r : Relay) (e : Instant × Event) : List Hearing :=
  match e.2, r.sockets[o]? with
  | .move o' m, some s => if o' = o then m.hearings r.hub s e.1 else []
  | _, _ => []

/-- The texts that a socket hears in a run. -/
def hearings (o : OutboxId) (r : Relay) : List (Instant × Event) → List Hearing
  | [] => []
  | e :: es => hearingsAt o r e ++ hearings o (r.next e) es

theorem hearingsAt_move (now : Instant) (m : Move) (hget : r.sockets[o]? = some s) :
    hearingsAt o r (now, .move o m) = m.hearings r.hub s now := by
  simp [hearingsAt, hget]

/-- A socket after an event, if there was one before. -/
theorem paces_next (hget : r.sockets[o]? = some s) (hs : s.Admitted) (e : Instant × Event) :
    ∃ s', (r.next e).sockets[o]? = some s' ∧ s'.Admitted ∧
      Paces s.bucket (hearingsAt o r e) s'.bucket := by
  obtain ⟨now, m, rfl, hget'⟩ | ⟨hother, hget'⟩ := socket_next hget e
  · refine ⟨_, hget', (Socket.transition_step r.hub s now m).admitted hs, ?_⟩
    rw [hearingsAt_move now m hget]
    exact Socket.paces_step hs m
  · have hnothing : hearingsAt o r e = [] := by
      unfold hearingsAt
      split
      · rename_i o' m _ heq _
        refine if_neg fun ho => ?_
        subst ho
        exact hother m heq
      · rfl
    rw [hnothing]
    exact ⟨s, hget', hs, .nil _⟩

theorem paces_run (hget : r.sockets[o]? = some s) (hs : s.Admitted)
    (es : List (Instant × Event)) :
    ∃ s', (es.foldl next r).sockets[o]? = some s' ∧
      Paces s.bucket (hearings o r es) s'.bucket := by
  induction es generalizing r s with
  | nil => exact ⟨s, hget, .nil _⟩
  | cons e es ih =>
    obtain ⟨s', hget', hs', hfirst⟩ := paces_next hget hs e
    obtain ⟨s'', hget'', hrest⟩ := ih hget' hs'
    exact ⟨s'', hget'', hfirst.append hrest⟩

/-- A socket that there is not before an event hears nothing, and if there is one after it, then
it has started with a full bucket. -/
theorem opens_next (hget : r.sockets[o]? = none) (e : Instant × Event) :
    hearingsAt o r e = [] ∧ ((r.next e).sockets[o]? = none ∧ (∀ c, e.2 = .start c → c.outbox ≠ o) ∨
      ∃ c s, e.2 = .start c ∧ c.outbox = o ∧ (r.next e).sockets[o]? = some s ∧ s.Admitted ∧
        s.bucket = .full r.hub.config.burst r.hub.config.perSecond e.1) := by
  obtain ⟨now, e⟩ := e
  refine ⟨by cases e <;> simp [hearingsAt, hget], ?_⟩
  cases e with
  | start c =>
    rw [next_start]
    split
    · rename_i hold
      refine .inl ⟨hget, ?_⟩
      rintro _ ⟨⟩ rfl
      exact Table.not_mem_iff_lookup.2 hget hold
    · by_cases ho : c.outbox = o
      · refine .inr ⟨c, _, rfl, ho, ?_, Socket.admitted_start r.hub now c,
          Socket.bucket_start r.hub now c⟩
        rw [Table.lookup_insert, if_pos ho]
      · refine .inl ⟨?_, ?_⟩
        · rw [Table.lookup_insert, if_neg ho, hget]
        · rintro _ ⟨⟩
          exact ho
  | move o' m =>
    refine .inl ⟨?_, by simp⟩
    cases hother : r.sockets[o']? with
    | none => rwa [next_move_none now m hother]
    | some s' =>
      rw [next_move now m hother, Table.lookup_insert, if_neg, hget]
      rintro rfl
      rw [hget] at hother
      cases hother
  | evict account device => exact .inl ⟨hget, by simp⟩

/-- All sockets are let in before they are running. -/
def LetIn (r : Relay) : Prop := ∀ (o : OutboxId) (s : Socket), r.sockets[o]? = some s → s.Admitted

theorem letIn_empty (config : Config) : LetIn (.empty config) := by
  intro o s hget
  simp [Relay.empty] at hget

theorem LetIn.next (hr : LetIn r) (e : Instant × Event) : LetIn (r.next e) := by
  intro o s hget
  -- whoever was there before is let in still, and whoever is new starts so
  cases hbefore : r.sockets[o]? with
  | some s₀ =>
    obtain ⟨s', hget', hs', -⟩ := paces_next hbefore (hr o s₀ hbefore) e
    rw [hget] at hget'
    cases hget'
    exact hs'
  | none =>
    obtain ⟨-, ⟨hnone, -⟩ | ⟨c, s', -, -, hget', hs', -⟩⟩ := opens_next hbefore e
    · rw [hget] at hnone
      cases hnone
    · rw [hget] at hget'
      cases hget'
      exact hs'

theorem LetIn.run (hr : LetIn r) (es : List (Instant × Event)) : LetIn (es.foldl Relay.next r) := by
  induction es generalizing r with
  | nil => exact hr
  | cons e es ih => exact ih (hr.next e)

theorem config_run (r : Relay) (es : List (Instant × Event)) :
    (es.foldl next r).hub.config = r.hub.config := by
  induction es generalizing r with
  | nil => rfl
  | cons e es ih => exact (ih (r.next e)).trans (config_next r e)

/-! ## When it hears something -/

theorem mem_hearingsAt (hr : LetIn r) (hx : x ∈ hearingsAt o r e) :
    x.time = e.1 ∧ x.socket.phase = .running ∧ ∃ i, x.socket.id = some i := by
  unfold hearingsAt at hx
  split at hx
  · rename_i o' m s _ hget
    split at hx
    · exact Move.mem_hearings (hr o s hget) hx
    · cases hx
  · cases hx

theorem mem_hearings (hr : LetIn r) (hx : x ∈ hearings o r es) :
    x.time ∈ es.map Prod.fst ∧ x.socket.phase = .running ∧ ∃ i, x.socket.id = some i := by
  induction es generalizing r with
  | nil => cases hx
  | cons e es ih =>
    obtain hx | hx := List.mem_append.1 hx
    · obtain ⟨htime, hrest⟩ := mem_hearingsAt hr hx
      exact ⟨by simp [htime], hrest⟩
    · obtain ⟨htime, hrest⟩ := ih (hr.next e) hx
      exact ⟨List.mem_cons_of_mem _ htime, hrest⟩

theorem ordered_hearings (hr : LetIn r) (ordered : (es.map Prod.fst).Pairwise (· ≤ ·)) :
    ((hearings o r es).map (·.time)).Pairwise (· ≤ ·) := by
  induction es generalizing r with
  | nil => exact .nil
  | cons e es ih =>
    obtain ⟨hlater, hordered⟩ := List.pairwise_cons.1 ordered
    rw [hearings, List.map_append, List.pairwise_append]
    refine ⟨?_, ih (hr.next e) hordered, ?_⟩
    · -- all that is heard at one event is heard at the same time
      refine List.pairwise_map.2 (List.pairwise_of_forall_mem_list fun x hx y hy => ?_)
      rw [(mem_hearingsAt hr hx).1, (mem_hearingsAt hr hy).1]
    · simp only [List.mem_map]
      rintro _ ⟨x, hx, rfl⟩ _ ⟨y, hy, rfl⟩
      rw [(mem_hearingsAt hr hx).1]
      exact hlater _ (mem_hearings (hr.next e) hy).1

theorem hearings_append (before after : List (Instant × Event)) :
    hearings o r (before ++ after) =
      hearings o r before ++ hearings o (before.foldl next r) after := by
  induction before generalizing r with
  | nil => rfl
  | cons e before ih =>
    rw [List.cons_append, hearings, ih, hearings, List.append_assoc, List.foldl_cons]

/-- What there is not in the end has never been there. -/
theorem hearings_eq_nil (hr : LetIn r) (hnone : (es.foldl next r).sockets[o]? = none) :
    hearings o r es = [] := by
  induction es generalizing r with
  | nil => rfl
  | cons e es ih =>
    cases hget : r.sockets[o]? with
    | some s =>
      -- a socket that is there stays
      obtain ⟨s', hget', -⟩ := paces_run hget (hr o s hget) (e :: es)
      rw [hnone] at hget'
      cases hget'
    | none => rw [hearings, (opens_next hget e).1, ih (hr.next e) hnone, List.append_nil]

/-- A socket starts with a full bucket, and puts all that it hears to it from then on. -/
theorem paces_of_start {opened : Instant} {c : Connection}
    {before after : List (Instant × Event)} (hr : LetIn r) (ho : c.outbox = o)
    (hnone : (before.foldl next r).sockets[o]? = none)
    (ordered : ((before ++ (opened, .start c) :: after).map Prod.fst).Pairwise (· ≤ ·)) :
    let xs := hearings o r (before ++ (opened, .start c) :: after)
    (opened :: xs.map (·.time)).Pairwise (· ≤ ·) ∧
      ∃ b, Paces (.full r.hub.config.burst r.hub.config.perSecond opened) xs b := by
  intro xs
  have hlast : LetIn (before.foldl next r) := hr.run before
  obtain ⟨hnothing, ⟨-, hno⟩ | ⟨_, s, -, -, hget, hs, hbucket⟩⟩ :=
    opens_next hnone (opened, .start c)
  · exact absurd ho (hno c rfl)
  · -- there was nobody before to hear anything
    have hxs : xs = hearings o ((before.foldl next r).next (opened, .start c)) after := by
      simp only [xs, hearings_append, hearings_eq_nil hr hnone, hearings, hnothing, List.nil_append]
    rw [List.map_append, List.map_cons] at ordered
    obtain ⟨hlater, hordered⟩ := List.pairwise_cons.1 (List.pairwise_append.1 ordered).2.1
    obtain ⟨s', -, hpaces⟩ := paces_run hget hs after
    rw [hbucket, config_run, ← hxs] at hpaces
    refine ⟨List.pairwise_cons.2 ⟨fun u hu => ?_, ?_⟩, s'.bucket, hpaces⟩
    · rw [hxs] at hu
      obtain ⟨x, hx, rfl⟩ := List.mem_map.1 hu
      exact hlater _ (mem_hearings (hlast.next _) hx).1
    · rw [hxs]
      exact ordered_hearings (hlast.next _) hordered

/-- Whatever is heard in a run is heard after the start of a socket. -/
theorem exists_start (es : List (Instant × Event)) (hr : LetIn r)
    (hget : r.sockets[o]? = none) : hearings o r es = [] ∨
    ∃ before opened c after, es = before ++ (opened, .start c) :: after ∧ c.outbox = o ∧
      (before.foldl next r).sockets[o]? = none := by
  induction es generalizing r with
  | nil => exact .inl rfl
  | cons e es ih =>
    obtain ⟨hnothing, ⟨hnone, -⟩ | ⟨c, s, hstart, ho, -⟩⟩ := opens_next hget e
    · obtain hnil | ⟨before, opened, c, after, rfl, ho, hnone'⟩ := ih (hr.next e) hnone
      · exact .inl (by rw [hearings, hnothing, hnil, List.append_nil])
      · exact .inr ⟨e :: before, opened, c, after, rfl, ho, hnone'⟩
    · obtain ⟨opened, e⟩ := e
      cases hstart
      exact .inr ⟨[], opened, c, es, rfl, ho, hget⟩

/-- Counting the texts that pass is counting what the bucket lets through. -/
theorem countP_passed {b b' : Bucket} {xs : List Hearing} (hp : Paces b xs b')
    (p : Instant → Bool) :
    xs.countP (fun x => x.passes && p x.time) =
      (admitted Bucket.take b (xs.map (·.time))).countP p := by
  rw [← hp.passed, List.countP_map, List.countP_filter]
  refine List.countP_congr fun x _ => ?_
  simp [and_comm]

/-! ## What comes of it -/

theorem sent_hearingsAt (o : OutboxId) (r : Relay) (e : Instant × Event) :
    ((hearingsAt o r e).flatMap fun x => x.outcome.sent.map fun f => (o, f)).Sublist
      (r.step e.1 e.2).2 := by
  unfold hearingsAt
  split
  · rename_i o' m s hmove hget
    split
    · rename_i ho
      subst ho
      rw [hmove, step, act, hget, ← List.map_flatMap]
      exact (Move.sent_hearings r.hub s e.1 m).map _
    · exact List.nil_sublist _
  · exact List.nil_sublist _

theorem sent_hearings (o : OutboxId) (r : Relay) (es : List (Instant × Event)) :
    ((hearings o r es).flatMap fun x => x.outcome.sent.map fun f => (o, f)).Sublist
      (r.run es).2 := by
  induction es generalizing r with
  | nil => exact .slnil
  | cons e es ih =>
    rw [hearings, List.flatMap_append]
    exact (sent_hearingsAt o r e).append (ih _)

/-- How many of the texts that a socket hears reach the hub, and what comes of each of them. -/
structure TextsPaced (config : Config) (o : OutboxId) (es : List (Instant × Event)) : Prop where
  within : ∀ s t : Instant, (hearings o (empty config) es).countP
      (fun x => x.passes && decide (s ≤ x.time ∧ x.time ≤ t)) ≤
    config.burst + (config.perSecond * (t - s)) ⌈/⌉ 1000
  start : ∀ before opened c after, es = before ++ (opened, .start c) :: after → c.outbox = o →
    o ∉ ((empty config).run before).1.sockets → ∀ t : Nat,
      (hearings o (empty config) es).countP
          (fun x => x.passes && decide (x.time ≤ opened + t)) ≤
        config.burst + config.perSecond * t / 1000
  /-- Nothing else that a client says has an effect on the hub. -/
  reach : ∀ before now m after, es = before ++ (now, .move o m) :: after → m.Listens →
    let r := ((empty config).run before).1
    (r.next (now, .move o m)).hub =
      ((hearingsAt o r (now, .move o m)).filter (·.passes)).foldl Hearing.reach r.hub
  passed : ∀ x ∈ hearings o (empty config) es, x.passes = true → ∃ i, x.socket.id = some i ∧
    x.outcome.hub = (x.routed i).1 ∧
    x.outcome.sent = (x.routed i).2.toList.map fun reply => .text reply.render
  limited : ∀ x ∈ hearings o (empty config) es, x.passes = false →
    x.outcome.hub = x.hub ∧ x.outcome.sent = [.text (Socket.tooFast x.text).render]
  /-- The answers are sent. -/
  sent : ((hearings o (empty config) es).flatMap fun x =>
    x.outcome.sent.map fun f => (o, f)).Sublist ((empty config).run es).2

end Relay

end Switchboard
