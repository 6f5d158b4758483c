import Switchboard.Proofs.Limits.Window

/-! # An address as if it were the only one

A limiter keeps the counts of all addresses in one table, and somebody sweeps the table from time
to time.  An address notices neither: it is answered as if its own calls were all there ever was.

The table of a limiter that is swept can lack a count that the one of a limiter left alone still
has.  Such a count belongs to a window that is over, and the next call begins a new window in both
of them; this needs a limit above zero, for a call that finds no count is held against the limit
and a call that finds one that is over is not.

* `answers`, `calls` — what an address hears in a run, and when it calls;
* `counting` — one count that nobody sweeps;
* `windows` — the answers, without any count: the first calls of each window are let through;
* `Stands` — a count that nobody sweeps, and what is in a table that is swept;
* `answers_eq_windows` — the limiter answers an address as if there were nobody else.
-/

namespace Switchboard.WindowLimiter

/-- The answer to an action, if it is a call of an address. -/
def answer? (key : String) (l : WindowLimiter) : Instant × Action → Option Bool
  | (now, .check key') => if key' = key then some (l.check key now).1 else none
  | (_, .purge) => none

/-- The answers that an address gets in a run. -/
def answers (key : String) (l : WindowLimiter) : List (Instant × Action) → List Bool
  | [] => []
  | e :: es => (answer? key l e).toList ++ answers key (l.next e) es

/-- The time of an action, if it is a call of an address. -/
def call? (key : String) (e : Instant × Action) : Option Instant :=
  if e.2 = .check key then some e.1 else none

/-- When an address calls. -/
def calls (key : String) (es : List (Instant × Action)) : List Instant := es.filterMap (call? key)

/-- The answers to some calls from one count that nobody sweeps. -/
def counting (maxCalls windowMs : Nat) : Option Count → List Instant → List Bool
  | _, [] => []
  | c?, now :: later =>
    let (allowed, c) := (c?.getD ⟨0, now⟩).step maxCalls windowMs now
    allowed :: counting maxCalls windowMs (some c) later

/-- The answers to some calls.  The first call opens a window, to which all calls belong that come
before it is over.  As many of them as the limit says are let through, from the first one on, and
the first call after the end of the window opens the next one. -/
def windows (limit windowMs : Nat) : List Instant → List Bool
  | [] => []
  | now :: later =>
    let within := later.takeWhile fun t => t ≤ now + windowMs
    let after := later.dropWhile fun t => t ≤ now + windowMs
    (List.range' 0 (within.length + 1)).map (fun i => decide (i < limit)) ++
      windows limit windowMs after
termination_by ts => ts.length
decreasing_by exact Nat.lt_succ_of_le (List.dropWhile_sublist _).length_le

/-- How a count that nobody sweeps and what is in a table that is swept can differ. -/
inductive Stands (windowMs : Nat) (now : Instant) : Option Count → Option Count → Prop
  | same {c? : Option Count} : Stands windowMs now c? c?
  | swept {c : Count} (ended : c.start + windowMs < now) : Stands windowMs now (some c) none

variable {key : String} {l : WindowLimiter} {e : Instant × Action}
  {es : List (Instant × Action)} {maxCalls windowMs limit : Nat} {now now' : Instant}
  {c : Count} {own own' : Option Count} {ts : List Instant}

/-! ## One count -/

theorem Count.step_over (hover : c.start + windowMs < now) :
    c.step maxCalls windowMs now = (true, ⟨1, now⟩) := by
  rw [Count.step, if_pos (isOver_eq_true.2 hover)]

theorem Count.step_within (hlasts : now ≤ c.start + windowMs) :
    c.step maxCalls windowMs now =
      (decide (c.calls < maxCalls), ⟨min (c.calls + 1) (max c.calls maxCalls), c.start⟩) := by
  rw [Count.step, if_neg (by simpa using isOver_eq_false.2 hlasts)]
  by_cases hroom : c.calls < maxCalls
  · have hmin : min (c.calls + 1) (max c.calls maxCalls) = c.calls + 1 := by lia
    rw [if_pos hroom, hmin, decide_eq_true hroom]
  · have hmin : min (c.calls + 1) (max c.calls maxCalls) = c.calls := by lia
    rw [if_neg hroom, hmin, decide_eq_false hroom]

/-- A call that finds no count opens a window, just as one does that comes after the end of one. -/
theorem Count.step_new (hlimit : 0 < maxCalls) :
    (⟨0, now⟩ : Count).step maxCalls windowMs now = (true, ⟨1, now⟩) := by
  rw [Count.step_within (Nat.le_add_right now windowMs)]
  have hone : min (0 + 1) (max 0 maxCalls) = 1 := by lia
  rw [hone, decide_eq_true hlimit]

theorem windows_cons (hlimit : 0 < limit) (windowMs : Nat) (now : Instant) (ts : List Instant) :
    windows limit windowMs (now :: ts) =
      true :: ((List.range' 1 (ts.takeWhile fun t => t ≤ now + windowMs).length).map
        (fun i => decide (i < limit)) ++
      windows limit windowMs (ts.dropWhile fun t => t ≤ now + windowMs)) := by
  rw [windows, List.range'_succ, List.map_cons, decide_eq_true hlimit, List.cons_append]

/-- A window that is open has had `n` calls, and lets through as many more as are missing. -/
theorem counting_open (hlimit : 0 < limit) (start : Instant) (n : Nat) :
    counting limit windowMs (some ⟨min n limit, start⟩) ts =
      (List.range' n (ts.takeWhile fun t => t ≤ start + windowMs).length).map
        (fun i => decide (i < limit)) ++
      windows limit windowMs (ts.dropWhile fun t => t ≤ start + windowMs) := by
  induction ts generalizing start n with
  | nil => simp [counting, windows]
  | cons t ts ih =>
    by_cases hlasts : t ≤ start + windowMs
    · have hnext : min (min n limit + 1) (max (min n limit) limit) = min (n + 1) limit := by lia
      have hanswer : min n limit < limit ↔ n < limit := by lia
      rw [counting, Option.getD_some, Count.step_within hlasts]
      simp only [hnext, hanswer, ih start (n + 1), List.takeWhile_cons, List.dropWhile_cons,
        hlasts, decide_true, if_true, List.length_cons, List.range'_succ, List.map_cons,
        List.cons_append]
    · -- the window is over, and this call opens the next one
      have hone : (⟨1, t⟩ : Count) = ⟨min 1 limit, t⟩ := by rw [Nat.min_eq_left hlimit]
      rw [counting, Option.getD_some, Count.step_over (Nat.lt_of_not_le hlasts)]
      simp only [hone, ih t 1, List.takeWhile_cons, List.dropWhile_cons, hlasts, decide_false,
        Bool.false_eq_true, if_false, List.length_nil, List.range'_zero, List.map_nil,
        List.nil_append, windows_cons hlimit]

theorem counting_eq_windows (hlimit : 0 < limit) (windowMs : Nat) (ts : List Instant) :
    counting limit windowMs none ts = windows limit windowMs ts := by
  cases ts with
  | nil => rw [counting, windows]
  | cons t ts =>
    have hone : (⟨1, t⟩ : Count) = ⟨min 1 limit, t⟩ := by rw [Nat.min_eq_left hlimit]
    rw [counting, Option.getD_none, Count.step_new hlimit]
    simp only [hone, counting_open hlimit t 1, windows_cons hlimit]

/-! ## A count in a table -/

theorem Stands.later (h : Stands windowMs now own own') (hnow : now ≤ now') :
    Stands windowMs now' own own' := by
  cases h with
  | same => exact .same
  | swept ended => exact .swept (Nat.lt_of_lt_of_le ended hnow)

/-- The next call is answered alike, and then the counts are the same. -/
theorem Stands.step_eq (h : Stands windowMs now own own') (hlimit : 0 < maxCalls) :
    (own.getD ⟨0, now⟩).step maxCalls windowMs now =
      (own'.getD ⟨0, now⟩).step maxCalls windowMs now := by
  cases h with
  | same => rfl
  | swept ended =>
    rw [Option.getD_some, Option.getD_none, Count.step_over ended, Count.step_new hlimit]

theorem calls_check : calls key ((now, .check key) :: es) = now :: calls key es :=
  List.filterMap_cons_some (if_pos rfl)

theorem calls_other (hother : e.2 ≠ .check key) : calls key (e :: es) = calls key es :=
  List.filterMap_cons_none (if_neg hother)

theorem next_check : (l.next (now, .check key)).counts[key]? =
    some ((l.counts[key]?.getD ⟨0, now⟩).step l.maxCalls l.windowMs now).2 := by
  simp only [next, step, check, Table.lookup_insert, if_true,
    Std.ExtTreeMap.getD_eq_getD_getElem?]

theorem answer?_check : answer? key l (now, .check key) =
    some ((l.counts[key]?.getD ⟨0, now⟩).step l.maxCalls l.windowMs now).1 := by
  simp only [answer?, check, if_true, Std.ExtTreeMap.getD_eq_getD_getElem?]

/-- What is no call of the address gives it no answer, and at most sweeps its count. -/
theorem Stands.next_other (h : Stands l.windowMs e.1 own l.counts[key]?)
    (hother : e.2 ≠ .check key) :
    answer? key l e = none ∧ Stands l.windowMs e.1 own (l.next e).counts[key]? := by
  obtain ⟨now, key' | _⟩ := e
  case check =>
    have hkey : key' ≠ key := fun hkey => hother (congrArg Action.check hkey)
    refine ⟨if_neg hkey, ?_⟩
    simpa only [next, step, check, Table.lookup_insert, if_neg hkey] using h
  case purge =>
    refine ⟨rfl, ?_⟩
    have hswept : (l.next (now, .purge)).counts[key]? =
        l.counts[key]?.filter fun c => isOver l.windowMs now c = false :=
      Table.lookup_filter _ _ key
    rw [hswept]
    generalize l.counts[key]? = own' at h
    cases h with
    | swept ended => exact .swept ended
    | same =>
      cases own with
      | none => exact .same
      | some c =>
        rw [Option.filter_some]
        cases hover : isOver l.windowMs now c with
        | true => exact .swept (isOver_eq_true.1 hover)
        | false => exact .same

theorem answers_eq_counting (hlimit : 0 < l.maxCalls)
    (hstands : Stands l.windowMs now own l.counts[key]?)
    (ordered : (now :: es.map Prod.fst).Pairwise (· ≤ ·)) :
    answers key l es = counting l.maxCalls l.windowMs own (calls key es) := by
  induction es generalizing l now own with
  | nil => simp [answers, calls, counting]
  | cons e es ih =>
    obtain ⟨hnow, hordered⟩ := List.pairwise_cons.1 ordered
    have hlater := hstands.later (hnow e.1 (by simp))
    have hrest : ∀ {own : Option Count}, Stands l.windowMs e.1 own (l.next e).counts[key]? →
        answers key (l.next e) es = counting l.maxCalls l.windowMs own (calls key es) := by
      intro own hown
      have hlimit' : 0 < (l.next e).maxCalls := by rwa [next_maxCalls]
      rw [← next_windowMs (e := e)] at hown
      simpa using ih hlimit' hown hordered
    obtain ⟨t, a⟩ := e
    by_cases hcall : a = .check key
    · -- both counts open a window or go on with the same one
      subst hcall
      have hsame := hrest .same
      rw [next_check] at hsame
      rw [answers, answer?_check, hsame, calls_check, counting, hlater.step_eq hlimit]
      rfl
    · obtain ⟨hanswer, hswept⟩ := hlater.next_other hcall
      rw [answers, hanswer, hrest hswept, calls_other hcall]
      rfl

/-- What others do, and how often the table is swept, does not show in the answers that an address
gets: they are those to its own calls, window by window. -/
theorem answers_eq_windows (key : String) (windowMs : Nat) (es : List (Instant × Action))
    (hlimit : 0 < maxCalls) (ordered : (es.map Prod.fst).Pairwise (· ≤ ·)) :
    answers key (empty maxCalls windowMs) es = windows maxCalls windowMs (calls key es) ∧
      ∀ fewer : List (Instant × Action), fewer.Sublist es → calls key fewer = calls key es →
        answers key (empty maxCalls windowMs) fewer = answers key (empty maxCalls windowMs) es := by
  have halone : ∀ run : List (Instant × Action), (run.map Prod.fst).Pairwise (· ≤ ·) →
      answers key (empty maxCalls windowMs) run = windows maxCalls windowMs (calls key run) := by
    intro run hrun
    have hnone : (empty maxCalls windowMs).counts[key]? = none := by simp [empty]
    have hstart : Stands windowMs 0 none (empty maxCalls windowMs).counts[key]? := by
      rw [hnone]
      exact .same
    have hordered : (0 :: run.map Prod.fst).Pairwise (· ≤ ·) :=
      List.pairwise_cons.2 ⟨fun t _ => Nat.zero_le t, hrun⟩
    calc answers key (empty maxCalls windowMs) run
      _ = counting maxCalls windowMs none (calls key run) :=
        answers_eq_counting hlimit hstart hordered
      _ = windows maxCalls windowMs (calls key run) := counting_eq_windows hlimit windowMs _
  refine ⟨halone es ordered, fun fewer hfewer hcalls => ?_⟩
  rw [halone es ordered, halone fewer (ordered.sublist (hfewer.map Prod.fst)), hcalls]

/-- A caller with two calls a second and another one, with the table swept while the first window
is over for one of them. -/
theorem answers_eq_windows_swept :
    0 < 2 ∧ ([0, 0, 5, 5, 900, 1500, 1600] : List Instant).Pairwise (· ≤ ·) ∧
      answers "a" (empty 2 1000) [(0, .check "a"), (0, .check "b"), (5, .check "a"),
        (5, .check "a"), (900, .purge), (1500, .purge), (1600, .check "a")] =
          [true, true, false, true] ∧
      answers "a" (empty 2 1000) [(0, .check "a"), (5, .check "a"), (5, .check "a"),
        (1600, .check "a")] = [true, true, false, true] := by
  have h := answers_eq_windows "a" 1000 [(0, .check "a"), (0, .check "b"), (5, .check "a"),
    (5, .check "a"), (900, .purge), (1500, .purge), (1600, .check "a")]
    (show 0 < 2 by decide) (by decide)
  have hwindows : windows 2 1000 [0, 5, 5, 1600] = [true, true, false, true] := by
    simp [windows, List.range'_succ]
  refine ⟨by decide, by decide, h.1.trans hwindows, ?_⟩
  have hfewer := h.2 [(0, .check "a"), (5, .check "a"), (5, .check "a"), (1600, .check "a")]
    (by decide) (by decide)
  exact hfewer.trans (h.1.trans hwindows)

end Switchboard.WindowLimiter
