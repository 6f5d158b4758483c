import Switchboard.Proofs.Hub.HasEffect

/-! # How outboxes are filled

Whatever the hub does to an outbox, it does by putting in texts for which there is room, and
closes.  The only others who touch it are its connection, and whoever puts something in behind
the hub's back, by the same two operations.

* `Outbox.Fills` — an outbox after some texts and closes were put in;
* `Outbox.Fills.grows`, `Outbox.Fills.depth_le` — it has grown, and is not overfull;
* `Hub.Fills` — all outboxes of a hub were filled;
* `Hub.fills_next` — every action fills the outboxes that it does not work on.
-/

namespace Switchboard

/-- An outbox after some texts and closes were put into it. -/
inductive Outbox.Fills (b : Outbox) : Outbox → Prop
  | same : b.Fills b
  | text {b' b'' : Outbox} (t : String) : b.Fills b' → b'.pushText t = .ok b'' → b.Fills b''
  | close {b' : Outbox} (reason : String) : b.Fills b' → b.Fills (b'.pushClose reason)

@[simp] theorem Outbox.depth_pushClose (b : Outbox) (reason : String) :
    (b.pushClose reason).depth = b.depth := by
  unfold pushClose
  split <;> rfl

namespace Outbox.Fills

variable {b b' b'' : Outbox}

theorem trans (h : b.Fills b') (h' : b'.Fills b'') : b.Fills b'' := by
  induction h' with
  | same => exact h
  | text t _ hpush ih => exact ih.text t hpush
  | close reason _ ih => exact ih.close reason

theorem grows (h : b.Fills b') : b.Grows b' := by
  induction h with
  | same => exact .refl b
  | text t _ hpush ih => exact ih.trans (grows_pushText hpush)
  | close reason _ ih => exact ih.trans (grows_pushClose _ reason)

theorem depth_le (h : b.Fills b') (hb : b.depth ≤ b.capacity) : b'.depth ≤ b'.capacity := by
  induction h with
  | same => exact hb
  | text t _ hpush ih =>
    obtain ⟨-, hroom, rfl⟩ := pushText_eq_ok.1 hpush
    exact hroom
  | close reason _ ih => rwa [depth_pushClose, (grows_pushClose _ reason).capacity]

end Outbox.Fills

namespace Hub

/-- All outboxes of a hub were filled. -/
def Fills (h g : Hub) : Prop := ∀ o, (h.outbox o).Fills (g.outbox o)

variable {h g k : Hub} {a : Action} {o : OutboxId}

namespace Fills

theorem refl (h : Hub) : h.Fills h := fun _ => .same

theorem trans (h₁ : h.Fills g) (h₂ : g.Fills k) : h.Fills k := fun o => (h₁ o).trans (h₂ o)

theorem of_outboxes (heq : ∀ o, g.outbox o = h.outbox o) : h.Fills g := by
  intro o
  rw [heq o]
  exact .same

theorem setOutbox {b : Outbox} (hb : (h.outbox o).Fills b) : h.Fills (h.setOutbox o b) := by
  intro o'
  rw [outbox_setOutbox]
  by_cases ho : o = o'
  · rw [if_pos ho, ← ho]
    exact hb
  · rw [if_neg ho]
    exact .same

/-- Delivering fills outboxes. -/
theorem keptByDelivery (h : Hub) : KeptByDelivery h.Fills where
  push _ _ text _ hf hb := hf.trans (.setOutbox (.text text .same hb))
  pushClose _ _ reason hf _ := hf.trans (.setOutbox (.close reason .same))
  detach g c hf := hf.trans (.of_outboxes (detach_outbox g c))

theorem pushClose (h : Hub) (o : OutboxId) (reason : String) : h.Fills (h.pushClose o reason) :=
  (keptByDelivery h).hubPushClose o reason (.refl h)

end Fills

/-! ## Each call -/

theorem fills_register (h : Hub) (c : Connection) : h.Fills (h.register c).1 := by
  have hgreet : h.Fills (h.greet c) := by
    obtain heq | ⟨b, hb, heq⟩ := greet_eq h c <;> rw [heq]
    · exact .refl h
    · exact .setOutbox (.text _ .same hb)
  have hletIn : h.Fills (h.letIn c) := by
    -- the desktop that has to make room gets a close
    refine hgreet.trans fun o => ?_
    rw [outbox_letIn]
    split
    · split
      · exact .close replacedReason .same
      · exact .same
    · exact .same
  have hcases := registering h c
  generalize h.register c = out at hcases
  cases hcases with
  | refused => exact .refl h
  | mobile => exact hletIn
  | desktop => exact (Fills.keptByDelivery h).announce _ _ hletIn

theorem fills_evict (h : Hub) (account : AccountId) (device : DeviceId) :
    h.Fills (h.evict account device).1 := by
  have hcases := evicting h account device
  generalize h.evict account device = out at hcases
  cases hcases with
  | absent => exact .refl h
  | evicted d =>
    -- the device is sent away before its mobiles are told
    refine (Fills.keptByDelivery h).announce _ _ fun o => ?_
    rw [outbox_expel]
    split
    · exact .close unpairedReason .same
    · exact .same

theorem fills_toDesktop (h : Hub) (sender : ConnectionId) (m : Message) :
    h.Fills (h.toDesktop sender m).1 := by
  have hremember (account : AccountId) : h.Fills (h.remember account sender m) :=
    .of_outboxes fun _ => rfl
  have hcases := commanding h sender m
  generalize h.toDesktop sender m = out at hcases
  cases hcases with
  | unknown | stranger | offline => exact .refl h
  | passed account d b _ _ _ hb => exact (hremember account).trans (.setOutbox (.text _ .same hb))
  | busy account => exact (hremember account).trans (.of_outboxes (outbox_forget _ _ _ _))
  | lost account d k _ _ _ hdelivered =>
    have hgone := hdelivered _ (Fills.keptByDelivery h) (hremember account)
    exact hgone.trans (.of_outboxes (outbox_forget _ _ _ _))

theorem fills_toMobiles (h : Hub) (sender : ConnectionId) (m : Message) :
    h.Fills (h.toMobiles sender m).1 := by
  have hcases := answering h sender m
  generalize h.toMobiles sender m = out at hcases
  cases hcases with
  | unknown | stranger => exact .refl h
  | passed account room targets =>
    have hroom : h.Fills (h.setRoom account room) := .of_outboxes fun _ => rfl
    exact (Fills.keptByDelivery h).deliver _ hroom

theorem fills_route (h : Hub) (sender : ConnectionId) (role : Role) (text : String) :
    h.Fills (h.route sender role text).1 := by
  obtain ⟨-, -, heq⟩ | ⟨m, -, heq⟩ | ⟨m, -, heq⟩ := route_cases h sender role text <;> rw [heq]
  · exact .refl h
  · exact fills_toDesktop h sender m
  · exact fills_toMobiles h sender m

theorem fills_deregister (h : Hub) (c : ConnectionId) : h.Fills (h.deregister c).1 :=
  (Fills.keptByDelivery h).deregister c (.refl h)

/-! ## Every action -/

/-- An action that works on an outbox only by putting something into it, if at all. -/
def Action.OnlyPuts (o : OutboxId) (a : Action) : Prop :=
  a.target? = some o → (∃ text, a = .push o text) ∨ ∃ reason, a = .pushClose o reason

theorem fills_next (ha : a.OnlyPuts o) : (h.outbox o).Fills ((h.next a).outbox o) := by
  by_cases ht : a.target? = some o
  · obtain ⟨text, rfl⟩ | ⟨reason, rfl⟩ := ha ht
    · simp only [next, step]
      split
      · rename_i g hpush
        exact (Fills.keptByDelivery h).hubPush (.refl h) hpush o
      · exact .same
    · exact Fills.pushClose h o reason o
  · cases a with
    | register c => exact fills_register h c o
    | deregister c => exact fills_deregister h c o
    | toDesktop sender m => exact fills_toDesktop h sender m o
    | toMobiles sender m => exact fills_toMobiles h sender m o
    | route sender role text => exact fills_route h sender role text o
    | announce account online device name =>
      exact (Fills.keptByDelivery h).announce account _ (.refl h) o
    | evict account device => exact fills_evict h account device o
    -- these work on one outbox, and it is another one
    | attach o' | push o' | pushClose o' | handle o' | release o' | stop o' =>
      rw [(next_of_target (h := h) rfl).2.2 o fun heq => ht (congrArg some heq)]
      exact .same

end Hub

end Switchboard
