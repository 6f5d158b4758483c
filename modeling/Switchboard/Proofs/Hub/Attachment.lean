import Switchboard.Proofs.Hub.Following

/-! # Nobody is sent away in silence

A connection loses its place in the hub in one of two ways: it asks for it, or it is sent away,
and then a close is put into its outbox.  A close that has been put in waits there until the
connection takes it out.

* `Outbox.Open` — the outbox of a connection that has not ended;
* `Outbox.Closing` — a close waits in an outbox;
* `Hub.Attached` — a connection that is registered, or will be told that it is not;
* `Hub.Follows.attached_next` — it stays so, whatever others do;
* `Hub.Follows.attached_arrival` — and so it is when it has been let in.
-/

namespace Switchboard

/-! ## Open outboxes, and closes that wait in them -/

namespace Outbox

variable {b b' : Outbox} {reason text : String}

/-- The outbox of a connection that has not ended, out of which no more was taken than was
put in. -/
structure Open (b : Outbox) : Prop where
  live : b.live = true
  taken : b.taken ≤ b.sent.length

/-- A close waits in an outbox. -/
def Closing (b : Outbox) : Prop := ∃ reason, .close reason ∈ b.waiting

theorem Open.fresh (capacity : Nat) : (Outbox.fresh capacity).Open := ⟨rfl, Nat.le_refl 0⟩

theorem Open.waiting (hb : b.Open) : b.waiting = b.sent.drop b.taken := by
  rw [Outbox.waiting, hb.live, if_pos rfl]

theorem Open.grows (hb : b.Open) (hg : b.Grows b') : b'.Open := by
  obtain ⟨items, hsent, -⟩ := hg.sent
  refine ⟨hg.live.trans hb.live, ?_⟩
  have htaken := hb.taken
  rw [hg.taken, hsent, List.length_append]
  omega

/-- What is put into an open outbox waits behind what waits there already. -/
theorem Open.waiting_grows {items : List Item} (hb : b.Open) (hg : b.Grows b')
    (hsent : b'.sent = b.sent ++ items) : b'.waiting = b.waiting ++ items := by
  rw [(hb.grows hg).waiting, hsent, hg.taken, List.drop_append_of_le_length hb.taken,
    ← hb.waiting]

theorem Open.waiting_pushText (hb : b.Open) (hpush : b.pushText text = .ok b') :
    b'.waiting = b.waiting ++ [.text text] :=
  hb.waiting_grows (grows_pushText hpush) (by rw [(pushText_eq_ok.1 hpush).2.2])

theorem Open.waiting_pushClose (hb : b.Open) (reason : String) :
    (b.pushClose reason).waiting = b.waiting ++ [.close reason] :=
  hb.waiting_grows (grows_pushClose b reason) (by rw [pushClose, if_pos hb.live])

theorem Open.closing_pushClose (hb : b.Open) (reason : String) :
    (b.pushClose reason).Closing := by
  refine ⟨reason, ?_⟩
  rw [hb.waiting_pushClose reason]
  exact List.mem_append_right _ (List.mem_singleton_self _)

/-- Whoever takes out what has waited longest leaves the rest. -/
theorem waiting_of_take {item : Item} (hb : b.Open) (ht : b.take? = some (item, b')) :
    b.waiting = item :: b'.waiting ∧ b'.Open := by
  unfold take? at ht
  split at ht
  · cases ht
  · rename_i first rest hw
    cases ht
    rw [hb.waiting] at hw ⊢
    have hlt : b.taken < b.sent.length := by
      have hlength := congrArg List.length hw
      rw [List.length_drop, List.length_cons] at hlength
      omega
    refine ⟨?_, hb.live, hlt⟩
    -- what is left starts with the item after the one that is taken
    rw [List.drop_eq_getElem_cons hlt] at hw ⊢
    cases hw
    simp [Outbox.waiting, hb.live]

theorem Open.take {item : Item} (hb : b.Open) (ht : b.take? = some (item, b')) : b'.Open :=
  (waiting_of_take hb ht).2

theorem Closing.take (hc : b.Closing) (hb : b.Open) (ht : b.take? = some (.text text, b')) :
    b'.Closing := by
  obtain ⟨reason, hmem⟩ := hc
  rw [(waiting_of_take hb ht).1] at hmem
  obtain heq | hrest := List.mem_cons.1 hmem
  · cases heq
  · exact ⟨reason, hrest⟩

end Outbox

namespace Hub

variable {h : Hub} {c : Connection} {a : Action} {as : List Action} {b : Outbox}
  {overflow : Overflow}

/-! ## Lots and closes -/

theorem Effect.grows_outbox (overflow : Overflow) (b : Outbox) (e : Effect) :
    b.Grows (e.outbox overflow b) := by
  cases e with
  | nothing | removal => exact .refl b
  | dismissal reason => exact Outbox.grows_pushClose b reason
  | text t =>
    simp only [Effect.outbox, Outbox.receive]
    cases hpush : b.pushText t with
    | ok b' => exact Outbox.grows_pushText hpush
    | error e =>
      cases e with
      | closed => exact .refl b
      | full =>
        dsimp only
        split
        · exact Outbox.grows_pushClose b overflowReason
        · exact .refl b

/-- Whoever loses its place gets a close, unless it has asked to leave. -/
theorem Effect.stays_or_closing {e : Effect} (hb : b.Open) (he : e ≠ .removal) :
    e.Stays overflow b ∨ (e.outbox overflow b).Closing := by
  cases e with
  | nothing => exact .inl trivial
  | removal => exact absurd rfl he
  | dismissal reason => exact .inr (hb.closing_pushClose reason)
  | text t =>
    simp only [Effect.outbox, Effect.Stays, Outbox.receive]
    cases hpush : b.pushText t with
    | ok b' => exact .inl (Outbox.bears_of_pushText hpush)
    | error e =>
      cases e with
      | closed =>
        have hlive := Outbox.not_live_of_closed hpush
        rw [hb.live] at hlive
        cases hlive
      | full =>
        cases overflow with
        | close => exact .inr (by simpa using hb.closing_pushClose overflowReason)
        | dropNewest => exact .inl (Outbox.bears_of_drop hpush)

theorem effectOn_ne_removal (ha : a ≠ .deregister c.id) : h.effectOn c a ≠ .removal := by
  intro hremoval
  have hcauses := causes_effectOn h c a
  rw [hremoval] at hcauses
  cases hcauses with
  | removed hleaves => exact ha hleaves

/-! ## Connections that know where they stand -/

/-- A connection is registered, or a close waits for it. -/
def Attached (h : Hub) (c : Connection) : Prop :=
  c.id ∈ h.index ∨ (h.outbox c.outbox).Closing

namespace Follows

/-- What others do leaves the connection registered, or with a close in its outbox. -/
theorem attached_next (hf : Follows c h (a :: as)) (hb : (h.outbox c.outbox).Open)
    (hatt : h.Attached c) (ht : a.target? ≠ some c.outbox) (hcome : a ≠ .register c)
    (hleave : a ≠ .deregister c.id) :
    ((h.next a).outbox c.outbox).Open ∧ (h.next a).Attached c := by
  -- `effectOn` decides about whoever is registered; whoever is not is left alone with its close
  by_cases hin : c.id ∈ h.index
  · obtain ⟨houtbox, hindex⟩ := hasEffect_next (hf.seated hin) ht (hf.others hin)
    rw [Attached, houtbox, hindex]
    exact ⟨hb.grows (Effect.grows_outbox _ _ _),
      Effect.stays_or_closing hb (effectOn_ne_removal hleave)⟩
  · have hnew : ∀ d, a = .register d → d.outbox ≠ c.outbox := by
      rintro d rfl ho
      exact hcome (by rw [(hf.newcomer rfl).2 (.inr ho)])
    rw [Attached, outbox_next_unowned (hf.unowned hin) hnew ht]
    exact ⟨hb, .inr (hatt.resolve_left hin)⟩

/-- Whoever has been let in is registered, and its outbox is open. -/
theorem attached_arrival (hf : Follows c h (.register c :: as)) (hb : (h.outbox c.outbox).Open)
    (hr : h.refusal? c = none) :
    ((h.next (.register c)).outbox c.outbox).Open ∧ (h.next (.register c)).Attached c := by
  obtain ⟨houtbox, hin⟩ := hf.arrival hr
  refine ⟨?_, .inl hin⟩
  change ((h.register c).1.outbox c.outbox).Open
  rw [houtbox]
  obtain heq | ⟨b, hpush, heq⟩ := greet_eq h c <;> rw [heq]
  · exact hb
  · rw [outbox_setOutbox_self]
    exact hb.grows (Outbox.grows_pushText hpush)

end Follows

end Hub

end Switchboard
