import Switchboard.Limits.Window
import Switchboard.Proofs.History
import Switchboard.Proofs.Table

/-! # How much a limiter of windows lets through

The calls of one address are counted in windows.  A window begins with the first call after the
last one is over or forgotten, and lets through as many calls as the limiter allows; a span as
long as a window meets two of them at most.

The call that comes after a window is over is let through whatever the limit is.  That is one call
too many if the limit is zero, and then only: it is the first one of the next window.

* `CountTransition` — all that an action does to the count of one address;
* `allowed` — when the calls of an address are let through in a run;
* `allowed_rest`, `allowed_fresh`, `allowed_span` — how many in what is left of a window, and in a
  span of time;
* `Past` — what has been let through already, and where the count stands;
* `bounded`, `bounded_iff` — the bounds, and when they are those of the limiter.
-/

namespace Switchboard.WindowLimiter

/-- The limiter after an action at its time. -/
def next (l : WindowLimiter) (e : Instant × Action) : WindowLimiter := l.step e.1 e.2

/-- The time of an action, if it is a call of an address that is let through. -/
def allowed? (key : String) (l : WindowLimiter) (e : Instant × Action) : Option Instant :=
  if l.allowsAt key e.1 e.2 then some e.1 else none

/-- When the calls of an address are let through in a run. -/
def allowed (key : String) (l : WindowLimiter) : List (Instant × Action) → List Instant
  | [] => []
  | e :: es => (allowed? key l e).toList ++ allowed key (l.next e) es

/-- What an action can do to the count of one address, and the call that it lets through. -/
inductive CountTransition (maxCalls windowMs : Nat) (now : Instant) :
    Option Count → Option Count → Option Instant → Prop
  | ignores {c? : Option Count} : CountTransition maxCalls windowMs now c? c? none
  | forgets {c : Count} (ended : c.start + windowMs < now) :
      CountTransition maxCalls windowMs now (some c) none none
  | begins (room : 0 < maxCalls) :
      CountTransition maxCalls windowMs now none (some ⟨1, now⟩) (some now)
  | bars (full : maxCalls = 0) : CountTransition maxCalls windowMs now none (some ⟨0, now⟩) none
  | reopens {c : Count} (ended : c.start + windowMs < now) :
      CountTransition maxCalls windowMs now (some c) (some ⟨1, now⟩) (some now)
  | counts {c : Count} (lasts : now ≤ c.start + windowMs) (room : c.calls < maxCalls) :
      CountTransition maxCalls windowMs now (some c) (some ⟨c.calls + 1, c.start⟩) (some now)
  | refuses {c : Count} (lasts : now ≤ c.start + windowMs) (full : maxCalls ≤ c.calls) :
      CountTransition maxCalls windowMs now (some c) (some c) none

variable {key : String} {l : WindowLimiter} {e : Instant × Action} {es : List (Instant × Action)}
  {c : Count} {limit : Nat} {s t u : Instant} {past : List Instant}

/-! ## One action -/

theorem isOver_eq_true {windowMs : Nat} {now : Instant} :
    isOver windowMs now c = true ↔ c.start + windowMs < now := by
  simp only [isOver, decide_eq_true_eq]
  lia

theorem isOver_eq_false {windowMs : Nat} {now : Instant} :
    isOver windowMs now c = false ↔ now ≤ c.start + windowMs := by
  simp only [isOver, decide_eq_false_iff_not]
  lia

@[simp] theorem next_maxCalls : (l.next e).maxCalls = l.maxCalls := by
  obtain ⟨now, key' | _⟩ := e <;> rfl

@[simp] theorem next_windowMs : (l.next e).windowMs = l.windowMs := by
  obtain ⟨now, key' | _⟩ := e <;> rfl

theorem countTransition_next (key : String) (l : WindowLimiter) (e : Instant × Action) :
    CountTransition l.maxCalls l.windowMs e.1 l.counts[key]? (l.next e).counts[key]?
      (allowed? key l e) := by
  obtain ⟨now, key' | _⟩ := e
  case check =>
    by_cases hkey : key' = key
    · subst hkey
      simp only [next, step, allowed?, allowsAt, check, Table.lookup_insert, if_true, true_and,
        decide_eq_true_eq, Std.ExtTreeMap.getD_eq_getD_getElem?]
      cases l.counts[key']? with
      | none =>
        -- a count that begins now is not over
        have hlasts : isOver l.windowMs now ⟨0, now⟩ = false :=
          isOver_eq_false.2 (Nat.le_add_right now _)
        simp only [Option.getD_none, Count.step, hlasts]
        by_cases hroom : 0 < l.maxCalls
        · simpa [hroom] using CountTransition.begins hroom
        · simpa [hroom] using CountTransition.bars (Nat.eq_zero_of_not_pos hroom)
      | some c =>
        simp only [Option.getD_some, Count.step]
        cases hover : isOver l.windowMs now c with
        | true => exact .reopens (isOver_eq_true.1 hover)
        | false =>
          have hlasts := isOver_eq_false.1 hover
          by_cases hroom : c.calls < l.maxCalls
          · simpa [hroom] using CountTransition.counts hlasts hroom
          · simpa [hroom] using CountTransition.refuses hlasts (Nat.le_of_not_lt hroom)
    · simp only [next, step, allowed?, allowsAt, check, Table.lookup_insert, hkey, false_and,
        decide_false, Bool.false_eq_true, if_false]
      exact .ignores
  case purge =>
    simp only [next, step, allowed?, allowsAt, purge, Table.lookup_filter, Bool.false_eq_true,
      if_false]
    cases l.counts[key]? with
    | none => exact .ignores
    | some c =>
      cases hover : isOver l.windowMs now c with
      | true =>
        simp only [Option.filter_some, hover, Bool.true_eq_false, decide_false, Bool.false_eq_true,
          if_false]
        exact .forgets (isOver_eq_true.1 hover)
      | false =>
        simp only [Option.filter_some, hover, decide_true, if_true]
        exact .ignores

/-! ## What is left of a window -/

theorem allowed?_eq_some : allowed? key l e = some u ↔
    u = e.1 ∧ e.2 = .check key ∧ (l.check key e.1).1 = true := by
  obtain ⟨now, key' | _⟩ := e
  · simp only [allowed?, allowsAt, decide_eq_true_eq, Option.ite_none_right_eq_some,
      Option.some.injEq, Action.check.injEq]
    constructor
    · rintro ⟨⟨rfl, hyes⟩, rfl⟩
      exact ⟨rfl, rfl, hyes⟩
    · rintro ⟨rfl, rfl, hyes⟩
      exact ⟨⟨rfl, hyes⟩, rfl⟩
  · simp [allowed?, allowsAt]

theorem mem_allowed {u : Instant} (hu : u ∈ allowed key l es) : u ∈ es.map Prod.fst := by
  induction es generalizing l with
  | nil => simp [allowed] at hu
  | cons e es ih =>
    rw [allowed, List.mem_append] at hu
    obtain hu | hu := hu
    · rw [Option.mem_toList] at hu
      simp [(allowed?_eq_some.1 hu).1]
    · simpa using Or.inr (ih hu)

theorem countP_allowed_eq_zero (ht : ∀ u ∈ es.map Prod.fst, t < u) :
    (allowed key l es).countP (fun u => u ≤ t) = 0 := by
  rw [List.countP_eq_zero]
  intro u hu
  simpa using ht u (mem_allowed hu)

/-- One action lets through one call at most. -/
theorem countP_call_le (p : Instant → Bool) (u? : Option Instant) : u?.toList.countP p ≤ 1 :=
  Nat.le_trans List.countP_le_length Option.length_toList_le

/-- Until a window is over, no more calls are let through than are missing to the limit. -/
theorem allowed_rest (hlimit : l.maxCalls ≤ limit) (hc : l.counts[key]? = some c)
    (hcalls : c.calls ≤ limit) (ordered : (es.map Prod.fst).Pairwise (· ≤ ·)) :
    (allowed key l es).countP (fun u => u ≤ c.start + l.windowMs) ≤ limit - c.calls := by
  induction es generalizing l c with
  | nil => simp [allowed]
  | cons e es ih =>
    obtain ⟨hlater, hordered⟩ := List.pairwise_cons.1 ordered
    by_cases hover : c.start + l.windowMs < e.1
    · -- the window is over, and nothing that comes later belongs to it
      rw [countP_allowed_eq_zero]
      · exact Nat.zero_le _
      · intro u hu
        obtain rfl | hu := List.mem_cons.1 hu
        · exact hover
        · exact Nat.lt_of_lt_of_le hover (hlater u hu)
    · have htransition := countTransition_next key l e
      rw [hc] at htransition
      rw [allowed, List.countP_append]
      generalize hc' : (l.next e).counts[key]? = c', allowed? key l e = u? at htransition
      have hkept : ∀ {d : Count}, c' = some d → d.calls ≤ limit →
          (allowed key (l.next e) es).countP (fun u => u ≤ d.start + l.windowMs) ≤
            limit - d.calls := by
        rintro d rfl hd
        simpa using ih (l := l.next e) (by simpa using hlimit) hc' hd hordered
      cases htransition with
      | ignores | refuses => simpa using hkept rfl hcalls
      | forgets hgone | reopens hgone => exact absurd hgone hover
      | counts lasts room =>
        -- the call that is let through is one less to come
        have hone := countP_call_le (fun u => u ≤ c.start + l.windowMs) (some e.1)
        have hrest := hkept rfl (d := ⟨c.calls + 1, c.start⟩) (by lia)
        dsimp only at hrest
        lia

/-! ## A span of time -/

/-- A call that begins a window, and those that follow until the window is over. -/
theorem allowed_begun {now : Instant} {n : Nat} (hlimit : l.maxCalls ≤ limit)
    (hc : l.counts[key]? = some ⟨n, now⟩) (hn : n ≤ limit) (ht : t ≤ now + l.windowMs)
    (ordered : (es.map Prod.fst).Pairwise (· ≤ ·)) :
    n + (allowed key l es).countP (fun u => u ≤ t) ≤ limit := by
  have hrest := allowed_rest hlimit hc hn ordered
  have hmono : (allowed key l es).countP (fun u => u ≤ t) ≤
      (allowed key l es).countP (fun u => u ≤ now + l.windowMs) := by
    refine List.countP_mono_left fun u _ hu => ?_
    exact decide_eq_true (Nat.le_trans (of_decide_eq_true hu) ht)
  lia

theorem allowed_fresh (hlimit : l.maxCalls ≤ limit) (hc : l.counts[key]? = none)
    (hs : ∀ u ∈ es.map Prod.fst, s ≤ u) (ht : t ≤ s + l.windowMs)
    (ordered : (es.map Prod.fst).Pairwise (· ≤ ·)) :
    (allowed key l es).countP (fun u => u ≤ t) ≤ limit := by
  induction es generalizing l with
  | nil => simp [allowed]
  | cons e es ih =>
    obtain ⟨-, hordered⟩ := List.pairwise_cons.1 ordered
    have hse : s ≤ e.1 := hs e.1 (by simp)
    have htransition := countTransition_next key l e
    rw [hc] at htransition
    rw [allowed, List.countP_append]
    generalize hc' : (l.next e).counts[key]? = c', allowed? key l e = u? at htransition
    have hbegun : ∀ {n : Nat}, c' = some ⟨n, e.1⟩ → n ≤ limit →
        n + (allowed key (l.next e) es).countP (fun u => u ≤ t) ≤ limit := by
      rintro n rfl hn
      refine allowed_begun (by simpa using hlimit) hc' hn ?_ hordered
      rw [next_windowMs]
      lia
    cases htransition with
    | ignores =>
      simpa using ih (by simpa using hlimit) hc' (fun u hu => hs u (List.mem_cons_of_mem _ hu))
        (by simpa using ht) hordered
    | begins room =>
      have hone := countP_call_le (fun u => u ≤ t) (some e.1)
      have hrest := hbegun rfl (by lia)
      lia
    | bars full => simpa using hbegun rfl (Nat.zero_le _)

/-- A span as long as a window meets the one that has begun, and one more. -/
theorem allowed_span (hlimit : l.maxCalls ≤ limit) (hpos : 0 < limit)
    (hc : l.counts[key]? = some c) (hcalls : c.calls ≤ limit)
    (hs : ∀ u ∈ es.map Prod.fst, s ≤ u) (ht : t ≤ s + l.windowMs)
    (ordered : (es.map Prod.fst).Pairwise (· ≤ ·)) :
    (allowed key l es).countP (fun u => u ≤ t) ≤ (limit - c.calls) + limit := by
  induction es generalizing l c with
  | nil => simp [allowed]
  | cons e es ih =>
    obtain ⟨-, hordered⟩ := List.pairwise_cons.1 ordered
    have hse : s ≤ e.1 := hs e.1 (by simp)
    have hs' : ∀ u ∈ es.map Prod.fst, s ≤ u := fun u hu => hs u (List.mem_cons_of_mem _ hu)
    have hlimit' : (l.next e).maxCalls ≤ limit := by simpa using hlimit
    have ht' : t ≤ s + (l.next e).windowMs := by simpa using ht
    have htransition := countTransition_next key l e
    rw [hc] at htransition
    rw [allowed, List.countP_append]
    generalize hc' : (l.next e).counts[key]? = c', allowed? key l e = u? at htransition
    cases htransition with
    | ignores | refuses => simpa using ih hlimit' hc' hcalls hs' ht' hordered
    -- the window has ended within the span, and only one more can begin in it
    | forgets ended =>
      rw [Option.toList_none, List.countP_nil, Nat.zero_add]
      exact Nat.le_add_left_of_le (allowed_fresh hlimit' hc' hs' ht' hordered)
    | reopens ended =>
      have hone := countP_call_le (fun u => u ≤ t) (some e.1)
      have hrest := allowed_begun (t := t) hlimit' hc' hpos (by lia) hordered
      lia
    -- the call is taken from what the window has left
    | counts lasts room =>
      have hone := countP_call_le (fun u => u ≤ t) (some e.1)
      have hcalls' : c.calls + 1 ≤ limit := Nat.lt_of_lt_of_le room hlimit
      have hrest := ih hlimit' hc' hcalls' hs' ht' hordered
      dsimp only at hrest
      lia

/-! ## What has been let through already -/

/-- Where the count of an address stands at a time: it counts all that has been let through since
its window began, and nothing has been let through after the end of its window. -/
inductive Past (limit windowMs : Nat) (now : Instant) (past : List Instant) : Option Count → Prop
  | forgotten (earlier : ∀ u ∈ past, u < now) : Past limit windowMs now past none
  | counted {c : Count} (within : ∀ u ∈ past, u ≤ c.start + windowMs)
      (counted : past.countP (fun u => c.start ≤ u) ≤ c.calls) (limited : c.calls ≤ limit) :
      Past limit windowMs now past (some c)

theorem countP_eq_zero_of_lt {now : Instant} (hpast : ∀ u ∈ past, u < now) :
    past.countP (fun u => now ≤ u) = 0 := by
  rw [List.countP_eq_zero]
  intro u hu
  simpa using hpast u hu

section

variable {maxCalls windowMs : Nat} {now now' : Instant} {c? c?' : Option Count}
  {u? : Option Instant}

/-- A count that begins now finds nothing that was let through as late as that. -/
theorem past_begun (hlimit : 0 < limit) (hpast : ∀ u ∈ past, u < now) :
    Past limit windowMs now (past ++ [now]) (some ⟨1, now⟩) := by
  refine .counted (fun u hu => ?_) ?_ hlimit
  · obtain hu | rfl := List.mem_append.1 hu |>.imp_right List.mem_singleton.1
    · exact Nat.le_trans (Nat.le_of_lt (hpast u hu)) (Nat.le_add_right _ _)
    · exact Nat.le_add_right _ _
  · simp [countP_eq_zero_of_lt hpast]

theorem Past.transition (hp : Past limit windowMs now past c?)
    (hd : CountTransition maxCalls windowMs now' c? c?' u?) (hnow : now ≤ now')
    (hmax : maxCalls ≤ limit)
    (hlimit : 0 < limit) : Past limit windowMs now' (past ++ u?.toList) c?' := by
  cases hd with
  | ignores =>
    rw [Option.toList_none, List.append_nil]
    cases hp with
    | forgotten earlier => exact .forgotten fun u hu => Nat.lt_of_lt_of_le (earlier u hu) hnow
    | counted within counted limited => exact .counted within counted limited
  | refuses =>
    rw [Option.toList_none, List.append_nil]
    obtain ⟨⟩ | ⟨within, counted, limited⟩ := hp
    exact .counted within counted limited
  | forgets ended =>
    rw [Option.toList_none, List.append_nil]
    obtain ⟨⟩ | ⟨within, -, -⟩ := hp
    exact .forgotten fun u hu => Nat.lt_of_le_of_lt (within u hu) ended
  | begins =>
    obtain ⟨earlier⟩ := hp
    exact past_begun hlimit fun u hu => Nat.lt_of_lt_of_le (earlier u hu) hnow
  | bars =>
    rw [Option.toList_none, List.append_nil]
    obtain ⟨earlier⟩ := hp
    have hearlier : ∀ u ∈ past, u < now' := fun u hu => Nat.lt_of_lt_of_le (earlier u hu) hnow
    refine .counted (fun u hu => ?_) ?_ (Nat.zero_le _)
    · exact Nat.le_trans (Nat.le_of_lt (hearlier u hu)) (Nat.le_add_right _ _)
    · exact Nat.le_of_eq (countP_eq_zero_of_lt hearlier)
  -- what was let through in the window before is over when the next one begins
  | reopens ended =>
    obtain ⟨⟩ | ⟨within, -, -⟩ := hp
    exact past_begun hlimit fun u hu => Nat.lt_of_le_of_lt (within u hu) ended
  | counts lasts room =>
    obtain ⟨⟩ | ⟨within, counted, -⟩ := hp
    refine .counted (fun u hu => ?_) ?_ (Nat.lt_of_lt_of_le room hmax)
    · obtain hu | rfl := List.mem_append.1 hu |>.imp_right List.mem_singleton.1
      · exact within u hu
      · exact lasts
    · rw [List.countP_append]
      exact Nat.add_le_add counted (countP_call_le _ (some now'))

end

/-! ## All of it -/

/-- What is let through in a window, no matter when in the run one looks at it. -/
theorem allowed_window {before after : List (Instant × Action)} {now : Instant}
    (hp : Past limit l.windowMs now past l.counts[key]?) (hmax : l.maxCalls ≤ limit)
    (hlimit : 0 < limit) (ordered : (now :: (before ++ after).map Prod.fst).Pairwise (· ≤ ·))
    (hc : (before.foldl next l).counts[key]? = some c) :
    (past ++ allowed key l (before ++ after)).countP
      (fun u => c.start ≤ u ∧ u ≤ c.start + l.windowMs) ≤ limit := by
  induction before generalizing l now past with
  | nil =>
    change l.counts[key]? = some c at hc
    rw [hc] at hp
    rw [List.nil_append] at ordered ⊢
    obtain ⟨⟩ | ⟨-, counted, limited⟩ := hp
    have hrest := allowed_rest hmax hc limited (List.pairwise_cons.1 ordered).2
    -- what was let through before now, and what will be, counted apart
    have hpast : past.countP (fun u => c.start ≤ u ∧ u ≤ c.start + l.windowMs) ≤
        past.countP (fun u => c.start ≤ u) :=
      List.countP_mono_left fun u _ hu => by simp_all
    have hfuture : (allowed key l after).countP
        (fun u => c.start ≤ u ∧ u ≤ c.start + l.windowMs) ≤
          (allowed key l after).countP (fun u => u ≤ c.start + l.windowMs) :=
      List.countP_mono_left fun u _ hu => by simp_all
    rw [List.countP_append]
    lia
  | cons e before ih =>
    obtain ⟨hnow, hordered⟩ := List.pairwise_cons.1 ordered
    have hp' := hp.transition (countTransition_next key l e) (hnow e.1 (by simp)) hmax hlimit
    rw [← next_windowMs (e := e)] at hp' ⊢
    rw [List.cons_append, allowed, ← List.append_assoc]
    exact ih hp' (by rwa [next_maxCalls]) hordered hc

theorem allowed_within {now : Instant} (hp : Past limit l.windowMs now past l.counts[key]?)
    (hmax : l.maxCalls ≤ limit) (hlimit : 0 < limit)
    (ordered : (now :: es.map Prod.fst).Pairwise (· ≤ ·)) (s : Instant) :
    (allowed key l es).countP (fun u => s ≤ u ∧ u ≤ s + l.windowMs) ≤ 2 * limit := by
  induction es generalizing l now past with
  | nil => simp [allowed]
  | cons e es ih =>
    obtain ⟨hnow, hordered⟩ := List.pairwise_cons.1 ordered
    by_cases hs : e.1 < s
    · -- the span has not begun yet
      have hp' := hp.transition (countTransition_next key l e) (hnow e.1 (by simp)) hmax hlimit
      rw [← next_windowMs (e := e)] at hp' ⊢
      have hfirst : (allowed? key l e).toList.countP
          (fun u => s ≤ u ∧ u ≤ s + (l.next e).windowMs) = 0 := by
        rw [List.countP_eq_zero]
        intro u hu
        have htime := (allowed?_eq_some.1 (Option.mem_toList.1 hu)).1
        simpa [htime] using fun hle : s ≤ e.1 => absurd hle (Nat.not_le_of_lt hs)
      rw [allowed, List.countP_append, hfirst, Nat.zero_add]
      exact ih hp' (by rwa [next_maxCalls]) hordered
    · -- from here on only the end of the span counts, and at most two windows meet it
      have hspan : (allowed key l (e :: es)).countP (fun u => s ≤ u ∧ u ≤ s + l.windowMs) ≤
          (allowed key l (e :: es)).countP (fun u => u ≤ s + l.windowMs) :=
        List.countP_mono_left fun u _ hu => by simp_all
      have hlater : ∀ u ∈ (e :: es).map Prod.fst, s ≤ u := by
        intro u hu
        obtain rfl | hu := List.mem_cons.1 hu
        · exact Nat.le_of_not_lt hs
        · exact Nat.le_trans (Nat.le_of_not_lt hs) ((List.pairwise_cons.1 hordered).1 u hu)
      generalize hc : l.counts[key]? = c? at hp
      cases hp with
      | forgotten =>
        have hfresh := allowed_fresh hmax hc hlater (Nat.le_refl _) hordered
        lia
      | counted _ _ limited =>
        have hboth := allowed_span hmax hlimit hc limited hlater (Nat.le_refl _) hordered
        lia

/-- How much of the calls of an address a limiter lets through in a run, for some limit. -/
structure Bounded (limit : Nat) (key : String) (l : WindowLimiter)
    (es : List (Instant × Action)) : Prop where
  window : ∀ before after c, es = before ++ after →
    (before.foldl next l).counts[key]? = some c →
    (allowed key l es).countP (fun u => c.start ≤ u ∧ u ≤ c.start + l.windowMs) ≤ limit
  span : ∀ s : Instant,
    (allowed key l es).countP (fun u => s ≤ u ∧ u ≤ s + l.windowMs) ≤ 2 * limit
  nothing : limit = 0 → allowed key l es = []

/-- A call comes when the window of its address is over, and nobody has forgotten it yet. -/
def Reopens (key : String) (l : WindowLimiter) (e : Instant × Action) : Prop :=
  ∃ c, l.counts[key]? = some c ∧ c.start + l.windowMs < e.1 ∧ e.2 = .check key

theorem Reopens.allowed? (h : Reopens key l e) : allowed? key l e = some e.1 := by
  obtain ⟨c, hc, hover, hcheck⟩ := h
  refine allowed?_eq_some.2 ⟨rfl, hcheck, ?_⟩
  simp [check, Std.ExtTreeMap.getD_eq_getD_getElem?, hc, Count.step, isOver_eq_true.2 hover]

/-- If no call is to be let through, some are exactly if a window is opened again. -/
theorem allowed_eq_nil (hmax : l.maxCalls = 0) :
    allowed key l es = [] ↔ ¬ Occurs next (Reopens key) l es := by
  induction es generalizing l with
  | nil => simp [allowed, Occurs]
  | cons e es ih =>
    have hfirst : allowed? key l e = none ↔ ¬ Reopens key l e := by
      constructor
      · intro hnone hreopens
        rw [hreopens.allowed?] at hnone
        cases hnone
      · intro hnot
        rw [Option.eq_none_iff_forall_ne_some]
        intro u hu
        have htransition := countTransition_next key l e
        rw [hu] at htransition
        generalize hc : l.counts[key]? = c?, (l.next e).counts[key]? = c?' at htransition
        cases htransition with
        | begins room | counts _ room =>
          rw [hmax] at room
          exact absurd room (Nat.not_lt_zero _)
        | reopens ended => exact hnot ⟨_, hc, ended, (allowed?_eq_some.1 hu).2.1⟩
    rw [allowed, List.append_eq_nil_iff, ih (by rwa [next_maxCalls]), Occurs, not_or]
    simp [hfirst]

theorem bounded {maxCalls windowMs : Nat} (hmax : maxCalls ≤ limit) (hlimit : 0 < limit)
    (ordered : (es.map Prod.fst).Pairwise (· ≤ ·)) :
    Bounded limit key (empty maxCalls windowMs) es := by
  have hp : Past limit windowMs 0 [] (empty maxCalls windowMs).counts[key]? := by
    simpa [empty] using Past.forgotten (by simp)
  have hordered : (0 :: es.map Prod.fst).Pairwise (· ≤ ·) :=
    List.pairwise_cons.2 ⟨fun u _ => Nat.zero_le u, ordered⟩
  refine ⟨?_, allowed_within hp hmax hlimit hordered, fun hzero => ?_⟩
  · rintro before after c rfl hc
    exact allowed_window hp hmax hlimit hordered hc
  · exact absurd hzero (Nat.ne_of_gt hlimit)

/-- The limiter keeps to its limit unless the limit is zero and a window is opened again.  Even
then a window lets a single call through. -/
theorem bounded_iff (key : String) (maxCalls windowMs : Nat)
    (ordered : (es.map Prod.fst).Pairwise (· ≤ ·)) :
    Bounded (max 1 maxCalls) key (empty maxCalls windowMs) es ∧
      (Bounded maxCalls key (empty maxCalls windowMs) es ↔
        0 < maxCalls ∨ ¬ Occurs next (Reopens key) (empty maxCalls windowMs) es) := by
  refine ⟨bounded (Nat.le_max_right 1 maxCalls) (by omega) ordered, ?_, ?_⟩
  · intro hbounded
    obtain rfl | hpos := Nat.eq_zero_or_pos maxCalls
    · exact .inr ((allowed_eq_nil rfl).1 (hbounded.nothing rfl))
    · exact .inl hpos
  · rintro (hpos | hnot)
    · exact bounded (Nat.le_refl maxCalls) hpos ordered
    · obtain rfl | hpos := Nat.eq_zero_or_pos maxCalls
      · have hnil := (allowed_eq_nil (l := empty 0 windowMs) rfl).2 hnot
        exact ⟨by simp [hnil], by simp [hnil], fun _ => hnil⟩
      · exact bounded (Nat.le_refl maxCalls) hpos ordered

/-- Two calls a minute, of which the third has to wait for the next minute. -/
theorem bounded_iff_two :
    ([0, 0, 0, 60001] : List Instant).Pairwise (· ≤ ·) ∧
      Bounded 2 "a" (empty 2 60000)
        [(0, .check "a"), (0, .check "a"), (0, .check "a"), (60001, .check "a")] :=
  ⟨by decide, (bounded_iff "a" 2 60000 (by decide)).2.2 (.inl (by decide))⟩

/-- Nothing is to be let through, but the call after the end of the first window is. -/
theorem unbounded_zero :
    ([0, 1001] : List Instant).Pairwise (· ≤ ·) ∧
      ¬ Bounded 0 "a" (empty 0 1000) [(0, .check "a"), (1001, .check "a")] := by
  refine ⟨by decide, fun hbounded => ?_⟩
  have hnil := hbounded.nothing rfl
  revert hnil
  decide

end Switchboard.WindowLimiter
