import Switchboard.Proofs.Hub.Attachment
import Switchboard.Proofs.Hub.Filling
import Switchboard.Proofs.Socket.Transition

/-! # The texts that wait for a socket

The depth of an outbox is counted up by whoever puts a text in, and down by the socket that takes
it out.  So it is the number of texts that wait, whatever the two do and in which order, and what
the socket has sent on and what waits make up all that was ever put in.

* `Outbox.waitingTexts`, `Outbox.Kept` — the texts that wait, and how an outbox accounts for them;
* `Outbox.Kept.fills`, `Outbox.Kept.take` — putting something in, and taking it out;
* `Socket.Turn`, `Socket.handled` — a socket among others at a hub, and the texts it sends on;
* `Socket.Keeps`, `Socket.Keeps.next`, `Socket.Keeps.run` — what a socket and its outbox keep to,
  turn by turn and in a run;
* `Socket.Accounted`, `Socket.texts_accounted` — the account, at any time.
-/

namespace Switchboard

namespace Outbox

variable {b b' : Outbox} {item : Item} {limit : Nat} {past : List String} {text : String}

/-- The texts that wait in an outbox. -/
def waitingTexts (b : Outbox) : List String := b.waiting.filterMap Item.text?

/-- The texts that have been taken out of an outbox. -/
def takenTexts (b : Outbox) : List String := (b.sent.take b.taken).filterMap Item.text?

theorem take_eq (ht : b.take? = some (item, b')) : b' = { b with taken := b.taken + 1 } := by
  unfold take? at ht
  split at ht
  · cases ht
  · cases ht
    rfl

theorem length_filterMap_text (items : List Item) :
    (items.filterMap Item.text?).length = texts items := by
  rw [List.length_filterMap_eq_countP, texts]
  exact List.countP_congr fun item _ => by cases item <;> simp [Item.text?]

/-- What was put in is what has been taken out and what waits. -/
theorem Open.told (hb : b.Open) : b.told = b.takenTexts ++ b.waitingTexts := by
  rw [takenTexts, waitingTexts, hb.waiting, ← List.filterMap_append, List.take_append_drop,
    Outbox.told]

theorem takenTexts_prefix (b : Outbox) : b.takenTexts <+: b.told :=
  (List.take_prefix _ _).filterMap _

/-- Whoever takes a text out is its first one. -/
theorem Open.takenTexts_take (hb : b.Open) (ht : b.take? = some (item, b')) :
    b.waitingTexts = item.text?.toList ++ b'.waitingTexts ∧
      b'.takenTexts = b.takenTexts ++ item.text?.toList := by
  obtain ⟨hwaiting, hopen⟩ := waiting_of_take hb ht
  have hfirst : b.waitingTexts = item.text?.toList ++ b'.waitingTexts := by
    rw [waitingTexts, hwaiting]
    cases item <;> rfl
  refine ⟨hfirst, ?_⟩
  -- taking out leaves what was put in as it is
  have htold : b'.told = b.told := by rw [Outbox.told, sent_take ht, Outbox.told]
  rw [hb.told, hopen.told, hfirst, ← List.append_assoc] at htold
  exact List.append_cancel_right htold

/-- An outbox for so many texts, out of which some texts have been taken. -/
structure Kept (limit : Nat) (past : List String) (b : Outbox) : Prop where
  capacity : b.capacity = limit
  depth : b.depth ≤ limit
  taken : b.taken ≤ b.sent.length
  past : b.takenTexts = past
  waiting : b.live = true → b.depth = b.waitingTexts.length

namespace Kept

theorem fresh (limit : Nat) : Kept limit [] (.fresh limit) where
  capacity := rfl
  depth := Nat.zero_le _
  taken := Nat.le_refl _
  past := rfl
  waiting _ := rfl

theorem isOpen (hk : Kept limit past b) (hlive : b.live = true) : b.Open := ⟨hlive, hk.taken⟩

theorem prefix_told (hk : Kept limit past b) : past <+: b.told := by
  rw [← hk.past]
  exact takenTexts_prefix b

theorem told (hk : Kept limit past b) (hlive : b.live = true) :
    b.told = past ++ b.waitingTexts := by
  rw [← hk.past]
  exact (hk.isOpen hlive).told

theorem pushText_eq_error {e : Refusal} (hk : Kept limit past b) (hlive : b.live = true) :
    b.pushText text = .error e ↔ e = .full ∧ b.waitingTexts.length = limit := by
  have hdepth := hk.depth
  rw [← hk.waiting hlive]
  cases e with
  | full =>
    rw [pushText_eq_full, hk.capacity]
    simp only [hlive, true_and]
    omega
  | closed =>
    simp only [reduceCtorEq, false_and, iff_false]
    intro hclosed
    rw [not_live_of_closed hclosed] at hlive
    cases hlive

/-- Putting something in. -/
theorem fills (hk : Kept limit past b) (hf : b.Fills b') : Kept limit past b' := by
  obtain ⟨items, hsent, hdepth⟩ := hf.grows.sent
  have hcapacity : b'.capacity = limit := hf.grows.capacity.trans hk.capacity
  have htaken := hk.taken
  -- what is put in comes behind all that has been taken and all that waits
  refine ⟨hcapacity, hcapacity ▸ hf.depth_le (hk.capacity.symm ▸ hk.depth), ?_, ?_, fun hlive => ?_⟩
  · rw [hf.grows.taken, hsent, List.length_append]
    omega
  · rw [takenTexts, hf.grows.taken, hsent, List.take_append_of_le_length htaken]
    exact hk.past
  · rw [hf.grows.live] at hlive
    rw [hdepth, hk.waiting hlive, waitingTexts, waitingTexts,
      (hk.isOpen hlive).waiting_grows hf.grows hsent, List.filterMap_append, List.length_append,
      length_filterMap_text items]

/-- Taking something out, which is still counted then, if it was. -/
theorem take (hk : Kept limit past b) (hlive : b.live = true) (ht : b.take? = some (item, b')) :
    b'.capacity = limit ∧ b'.depth ≤ limit ∧ b'.taken ≤ b'.sent.length ∧
      b'.takenTexts = past ++ item.text?.toList ∧
      b'.depth = b'.waitingTexts.length + item.text?.toList.length := by
  obtain ⟨hwaiting, hpast⟩ := (hk.isOpen hlive).takenTexts_take ht
  have hcapacity : b'.capacity = b.capacity := by rw [take_eq ht]
  have hdepth : b'.depth = b.depth := by rw [take_eq ht]
  refine ⟨hcapacity.trans hk.capacity, hdepth ▸ hk.depth, ((hk.isOpen hlive).take ht).taken, ?_, ?_⟩
  · rw [hpast, hk.past]
  · rw [hdepth, hk.waiting hlive, hwaiting, List.length_append, Nat.add_comm]

theorem take_text (hk : Kept limit past b) (hlive : b.live = true)
    (ht : b.take? = some (.text text, b')) :
    0 < b'.depth ∧ Kept limit (past ++ [text]) b'.release := by
  obtain ⟨hcapacity, hlimit, htaken, hpast, hdepth⟩ := hk.take hlive ht
  replace hdepth : b'.depth = b'.waitingTexts.length + 1 := hdepth
  have hreleased : b'.depth - 1 ≤ limit := by omega
  refine ⟨by omega, hcapacity, hreleased, htaken, hpast, fun _ => ?_⟩
  exact (congrArg (· - 1) hdepth).trans (Nat.add_sub_cancel _ 1)

theorem take_close {reason : String} (hk : Kept limit past b) (hlive : b.live = true)
    (ht : b.take? = some (.close reason, b')) : Kept limit past b' := by
  obtain ⟨hcapacity, hlimit, htaken, hpast, hdepth⟩ := hk.take hlive ht
  exact ⟨hcapacity, hlimit, htaken, hpast.trans (List.append_nil past), fun _ => hdepth⟩

theorem stop (hk : Kept limit past b) : Kept limit past b.stop where
  capacity := hk.capacity
  depth := hk.depth
  taken := hk.taken
  past := hk.past
  waiting hlive := by cases hlive

end Kept

end Outbox

/-- The text of a frame, if it is one. -/
def Frame.text? : Frame → Option String
  | .text t => some t
  | _ => none

namespace Socket

variable {h g : Hub} {s s' : Socket} {o : OutboxId} {limit : Nat} {past : List String}

/-! ## Sockets and outboxes -/

theorem InboundTransition.fills (hm : InboundTransition h s g s') : h.Fills g := by
  induction hm with
  | becomes => exact .refl _
  | passes c text => exact Hub.fills_route _ c.id c.principal.role text
  | andThen _ _ ih ih' => exact ih.trans ih'

/-- A socket only fills the outboxes that are not its own. -/
theorem Transition.fills (hd : Transition h s g s') (hne : s.outbox ≠ o) :
    (h.outbox o).Fills (g.outbox o) := by
  induction hd with
  | becomes => exact .same
  | passes c text => exact Hub.fills_route _ c.id c.principal.role text o
  | leaves c => exact Hub.fills_deregister _ c.id o
  | takes | heeds | ends =>
    rw [Hub.outbox_setOutbox_ne _ _ hne]
    exact .same
  | andThen hd _ ih ih' => exact (ih hne).trans (ih' (hd.same.2 ▸ hne))

theorem fills_left (h : Hub) (s : Socket) : h.Fills (left h s) := by
  unfold left
  split
  · exact Hub.fills_deregister h _
  · exact .refl h

/-! ## A socket among others -/

/-- What may happen next, as a socket sees it. -/
inductive Turn where
  /-- The hub is called, or something is put into an outbox. -/
  | hub (a : Hub.Action)
  /-- Another socket does something. -/
  | other (s : Socket) (now : Instant) (m : Move)
  | own (now : Instant) (m : Move)

/-- Nobody but the socket itself takes anything out of its outbox, or ends it. -/
def Turn.OnlyPuts (o : OutboxId) : Turn → Prop
  | .hub a => a.OnlyPuts o
  | .other s _ _ => s.outbox ≠ o
  | .own _ _ => True

/-- The hub and the socket after a turn. -/
def Turn.next (x : Hub × Socket) : Turn → Hub × Socket
  | .hub a => (x.1.next a, x.2)
  | .other s now m => ((s.step x.1 now m).hub, x.2)
  | .own now m => ((x.2.step x.1 now m).hub, (x.2.step x.1 now m).socket)

/-- The texts that the socket takes out of its outbox at a turn, and sends on. -/
def Turn.handled (x : Hub × Socket) : Turn → List String
  | .own now .take => (x.2.step x.1 now .take).sent.filterMap Frame.text?
  | _ => []

/-- The texts that the socket takes out of its outbox, one turn after the other. -/
def handled (x : Hub × Socket) : List Turn → List String
  | [] => []
  | t :: ts => t.handled x ++ handled (t.next x) ts

theorem Turn.outbox_next (t : Turn) (x : Hub × Socket) : (t.next x).2.outbox = x.2.outbox := by
  cases t with
  | hub | other => rfl
  | own now m => exact (transition_step x.1 x.2 now m).same.2

/-- A hub and a socket, out of whose outbox some texts have been taken. -/
structure Keeps (limit : Nat) (past : List String) (x : Hub × Socket) : Prop where
  kept : (x.1.outbox x.2.outbox).Kept limit past
  live : (x.1.outbox x.2.outbox).live = true ↔ x.2.phase ≠ .stopped

namespace Keeps

theorem fills (hx : Keeps limit past (h, s)) (hb : s.Becomes s')
    (hf : (h.outbox s.outbox).Fills (g.outbox s.outbox)) : Keeps limit past (g, s') where
  kept := by
    rw [hb.outbox]
    exact hx.kept.fills hf
  live := by
    have hstopped : s'.phase = .stopped ↔ s.phase = .stopped := by
      obtain heq | ⟨hrunning, hstopping⟩ := hb.phase
      · rw [heq]
      · simp [hrunning, hstopping]
    rw [hb.outbox, hf.grows.live, ne_eq, hstopped]
    exact hx.live

/-- The socket changes its own outbox. -/
theorem setOutbox {b : Outbox} (ho : s'.outbox = s.outbox) (hkept : b.Kept limit past)
    (hlive : b.live = true ↔ s'.phase ≠ .stopped) :
    Keeps limit past (h.setOutbox s.outbox b, s') where
  kept := by
    rw [ho, Hub.outbox_setOutbox_self]
    exact hkept
  live := by
    rw [ho, Hub.outbox_setOutbox_self]
    exact hlive

/-- What the socket takes out it sends on, if it is a text. -/
theorem take (hx : Keeps limit past (h, s)) (now : Instant) :
    Keeps limit (past ++ (Turn.own now .take).handled (h, s))
      ((Turn.own now .take).next (h, s)) := by
  simp only [Turn.handled, Turn.next, step]
  cases ht : s.take? h with
  | none => simpa using hx
  | some out =>
    obtain ⟨hrunning, hcases⟩ := take_cases ht
    have hlive : (h.outbox s.outbox).live = true := hx.live.2 (by simp [hrunning])
    obtain ⟨text, b, hb, rfl⟩ | ⟨reason, b, hb, rfl⟩ := hcases
    · have hopen : b.Open := (hx.kept.isOpen hlive).take hb
      refine .setOutbox rfl (hx.kept.take_text hlive hb).2 (iff_of_true hopen.live ?_)
      simp [hrunning]
    · have hopen : b.Open := (hx.kept.isOpen hlive).take hb
      -- a close is sent, but no text, and the socket looks into its outbox no more
      have hnone : past ++ [Frame.close (some (.policy reason))].filterMap Frame.text? = past :=
        List.append_nil past
      simp only [Option.getD_some, sendAway, hnone]
      refine .setOutbox (becomes_quit s).outbox (hx.kept.take_close hlive hb)
        (iff_of_true hopen.live ?_)
      simp [quit, hrunning]

theorem finish (hx : Keeps limit past (h, s)) :
    Keeps limit past ((s.finish h).hub, (s.finish h).socket) := by
  rw [finish_eq]
  split
  · -- others are told that the socket leaves, and that may cost them their places
    have hleft : (left h s).outbox s.outbox |>.Kept limit past :=
      hx.kept.fills (fills_left h s s.outbox)
    exact .setOutbox rfl hleft.stop (by simp [Outbox.stop])
  · exact hx

/-- Whatever happens next, the account is kept. -/
theorem next {x : Hub × Socket} {t : Turn} (hx : Keeps limit past x)
    (ht : t.OnlyPuts x.2.outbox) : Keeps limit (past ++ t.handled x) (t.next x) := by
  obtain ⟨h, s⟩ := x
  -- only who takes something out of the outbox handles it
  have hinbound {k : Hub} {t' : Socket} (hm : InboundTransition h s k t') :
      Keeps limit (past ++ []) (k, t') := by
    rw [List.append_nil]
    exact hx.fills hm.same_socket (hm.fills s.outbox)
  have hothers {k : Hub} (hf : (h.outbox s.outbox).Fills (k.outbox s.outbox)) :
      Keeps limit (past ++ []) (k, s) := by
    rw [List.append_nil]
    exact hx.fills (.of_eq rfl rfl rfl rfl) hf
  cases t with
  | hub a => exact hothers (Hub.fills_next ht)
  | other s' now m => exact hothers ((transition_step h s' now m).fills ht)
  | own now m =>
    cases m with
    | hear f => exact hinbound (inbound_hear h s now f)
    | receive bytes => exact hinbound (inbound_receive h s now bytes)
    | quit => exact hinbound (.becomes (becomes_quit s))
    | take => exact hx.take now
    | beat => exact hinbound (inbound_beat h s now)
    | finish =>
      change Keeps limit (past ++ []) ((s.finish h).hub, (s.finish h).socket)
      rw [List.append_nil]
      exact hx.finish

theorem run {x : Hub × Socket} {ts : List Turn} (hx : Keeps limit past x)
    (hts : ∀ t ∈ ts, t.OnlyPuts x.2.outbox) :
    Keeps limit (past ++ handled x ts) (ts.foldl Turn.next x) := by
  induction ts generalizing x past with
  | nil => simpa [handled] using hx
  | cons t ts ih =>
    rw [handled, ← List.append_assoc]
    refine ih (hx.next (hts t List.mem_cons_self)) fun t' ht' => ?_
    rw [t.outbox_next]
    exact hts t' (List.mem_cons_of_mem t ht')

end Keeps

theorem outbox_run (x : Hub × Socket) (ts : List Turn) :
    (ts.foldl Turn.next x).2.outbox = x.2.outbox := by
  induction ts generalizing x with
  | nil => rfl
  | cons t ts ih => exact (ih _).trans (t.outbox_next x)

/-! ## The account -/

/-- How the texts of an outbox are accounted for whose socket has not stopped, and what becomes of
whatever else is put into it. -/
structure Accounted (limit : Nat) (past : List String) (h : Hub) (o : OutboxId) : Prop where
  depth : (h.outbox o).depth = (h.outbox o).waitingTexts.length
  told : (h.outbox o).told = past ++ (h.outbox o).waitingTexts
  /-- Only a full outbox refuses a text. -/
  refused : ∀ text e, h.push o text = .error e ↔
    e = .full ∧ (h.outbox o).waitingTexts.length = limit
  accepted : ∀ text g, h.push o text = .ok g →
    (g.outbox o).waiting = (h.outbox o).waiting ++ [.text text] ∧
      (g.outbox o).told = (h.outbox o).told ++ [text]
  closes : ∀ reason, ((h.pushClose o reason).outbox o).depth = (h.outbox o).depth ∧
    ((h.pushClose o reason).outbox o).waiting = (h.outbox o).waiting ++ [.close reason]
  /-- There is something to count down when a text is taken out. -/
  released : ∀ text b, (h.outbox o).take? = some (.text text, b) → 0 < b.depth

theorem Keeps.accounted (hx : Keeps limit past (h, s)) (hs : s.phase ≠ .stopped) :
    Accounted limit past h s.outbox := by
  have hkept := hx.kept
  have hlive : (h.outbox s.outbox).live = true := hx.live.2 hs
  have hopen := hkept.isOpen hlive
  refine ⟨hkept.waiting hlive, hkept.told hlive, fun text e => ?_, fun text g hpush => ?_,
    fun reason => ?_, fun text b ht => (hkept.take_text hlive ht).1⟩
  · rw [Hub.push_eq_error]
    exact hkept.pushText_eq_error hlive
  · obtain ⟨b, hb, rfl⟩ := Hub.push_eq_ok.1 hpush
    rw [Hub.outbox_setOutbox_self]
    exact ⟨hopen.waiting_pushText hb, Outbox.told_pushText hb⟩
  · rw [Hub.pushClose, if_pos hlive, Hub.outbox_setOutbox_self]
    exact ⟨Outbox.depth_pushClose _ reason, hopen.waiting_pushClose reason⟩

/-- An outbox is opened for a socket, and then the socket and everybody else take turns in any
order.  The texts that wait are counted all the time, and the socket has sent on those that were
put in first. -/
theorem texts_accounted (h : Hub) (s : Socket) (limit : Nat) (hs : s.phase ≠ .stopped)
    (ts : List Turn) (hts : ∀ t ∈ ts, t.OnlyPuts s.outbox) :
    let x := (h.setOutbox s.outbox (.fresh limit), s)
    let y := ts.foldl Turn.next x
    (y.1.outbox s.outbox).depth ≤ limit ∧ handled x ts <+: (y.1.outbox s.outbox).told ∧
      (∀ text e g, y.1.step (.push s.outbox text) = (g, .pushed (.error e)) → g = y.1) ∧
      (y.2.phase ≠ .stopped → Accounted limit (handled x ts) y.1 s.outbox) := by
  intro x y
  have hx : Keeps limit [] x := .setOutbox rfl (.fresh limit) (iff_of_true rfl hs)
  have hy : Keeps limit (handled x ts) y := hx.run hts
  have ho : y.2.outbox = s.outbox := outbox_run x ts
  rw [← ho]
  refine ⟨hy.kept.depth, hy.kept.prefix_told, fun text e g hpush => ?_, hy.accounted⟩
  unfold Hub.step at hpush
  dsimp only at hpush
  split at hpush <;> cases hpush
  rfl

/-- Where there is room for one text, the second one is refused, and the close is not. -/
theorem texts_accounted_one :
    let h : Hub := .empty {}
    let s : Socket := fresh {} 0 ⟨⟨1⟩, .mobile ⟨10⟩, 1⟩
    let ts : List Turn :=
      [.hub (.push 1 "one"), .hub (.push 1 "two"), .hub (.pushClose 1 "bye"), .own 0 .take,
        .hub (.push 1 "three")]
    s.phase ≠ .stopped ∧ (∀ t ∈ ts, t.OnlyPuts s.outbox) ∧
      handled (h.setOutbox 1 (.fresh 1), s) ts = ["one"] ∧
      ((ts.foldl Turn.next (h.setOutbox 1 (.fresh 1), s)).1.outbox 1).told = ["one", "three"] ∧
      Accounted 1 ["one"] (ts.foldl Turn.next (h.setOutbox 1 (.fresh 1), s)).1 1 := by
  intro h s ts
  have hs : s.phase ≠ .stopped := by decide
  have hts : ∀ t ∈ ts, t.OnlyPuts s.outbox := by
    simp [ts, Turn.OnlyPuts, Hub.Action.OnlyPuts, s, fresh]
  have hhandled : handled (h.setOutbox 1 (.fresh 1), s) ts = ["one"] := by decide +kernel
  obtain ⟨-, -, -, hgoing⟩ := texts_accounted h s 1 hs ts hts
  refine ⟨hs, hts, hhandled, by decide +kernel, ?_⟩
  rw [← hhandled]
  exact hgoing (by decide +kernel)

end Socket

end Switchboard
