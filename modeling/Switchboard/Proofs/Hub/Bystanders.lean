import Switchboard.Proofs.Hub.HasEffect

/-! # Outboxes that nobody has

The hub writes only to outboxes of connections that are registered, and to that of a newcomer.
So an outbox that nobody in the hub has stays as it is in every call, whatever comes up on the
way.

* `outbox_deregister_unowned`, `outbox_register_unowned`, `outbox_evict_unowned`,
  `outbox_toDesktop_unowned`, `outbox_toMobiles_unowned` — each call;
* `outbox_next_unowned` — every action.
-/

namespace Switchboard.Hub

variable {h : Hub} {d : Connection} {a : Action} {o : OutboxId}

theorem outbox_deregister_unowned (hno : Peopled (fun _ c => c.outbox ≠ o) h) (i : ConnectionId) :
    (h.deregister i).1.outbox o = h.outbox o := by
  rw [deregister_fst, outbox_deliverAll_unowned (hno.recedes (.detach h i)), detach_outbox]
  intro p hp
  obtain ⟨c, hc, hpc⟩ := detach_members hp
  obtain ⟨-, hco⟩ := hno.member hc
  rwa [hpc]

theorem outbox_register_unowned (hno : Peopled (fun _ c => c.outbox ≠ o) h)
    (hd : d.outbox ≠ o) : (h.register d).1.outbox o = h.outbox o := by
  have hletIn : (h.letIn d).outbox o = h.outbox o := by
    rw [outbox_letIn, outbox_greet_ne h hd]
    split
    · rename_i old hold
      exact if_neg fun hsame => hno.desktop _ old hold hsame.2
    · rfl
  have hcases := registering h d
  generalize h.register d = out at hcases
  cases hcases with
  | refused => rfl
  | mobile => exact hletIn
  | desktop =>
    rw [announce_fst, outbox_tell_unowned (Peopled.letIn hno hd), hletIn]

theorem outbox_evict_unowned (hno : Peopled (fun _ c => c.outbox ≠ o) h) (account : AccountId)
    (device : DeviceId) : (h.evict account device).1.outbox o = h.outbox o := by
  have hcases := evicting h account device
  generalize h.evict account device = out at hcases
  cases hcases with
  | absent => rfl
  | evicted d hd =>
    have hg : Gains (fun _ => False) (fun _ _ _ => False) h (h.expel account d) :=
      gains_expel h account d
    rw [announce_fst, outbox_tell_unowned (hno.gains hg), outbox_expel,
      if_neg (hno.desktop account d hd)]

theorem outbox_toDesktop_unowned (hno : Peopled (fun _ c => c.outbox ≠ o) h)
    (sender : ConnectionId) (m : Message) :
    (h.toDesktop sender m).1.outbox o = h.outbox o := by
  have hcases := commanding h sender m
  generalize h.toDesktop sender m = out at hcases
  cases hcases with
  | unknown | stranger | offline => rfl
  | passed account d b _ _ hd => exact outbox_setOutbox_ne _ b (hno.desktop account d hd)
  | busy account => exact outbox_forget _ _ _ _ _
  | lost account d k _ _ hd _ _ hk =>
    have hg : Gains (fun _ => False) _ h _ := gains_remember h account sender m
    have hno' : Peopled (fun _ c => c.outbox ≠ o) (h.remember account sender m) := hno.gains hg
    rw [outbox_forget]
    obtain rfl | rfl := hk
    · exact outbox_deregister_unowned hno' d.id
    · rw [outbox_deregister_unowned (hno'.recedes (pushClose_recedes _ _ _))]
      exact outbox_pushClose_ne _ _ (hno.desktop account d hd)

theorem outbox_toMobiles_unowned (hno : Peopled (fun _ c => c.outbox ≠ o) h)
    (sender : ConnectionId) (m : Message) :
    (h.toMobiles sender m).1.outbox o = h.outbox o := by
  have hcases := answering h sender m
  generalize h.toMobiles sender m = out at hcases
  cases hcases with
  | unknown | stranger => rfl
  | passed account room targets _ _ ha =>
    have hg : Gains (fun _ => False) (fun _ _ _ => False) h _ := gains_answer ha
    have htargets : ((h.room account).answer h.config.routing m).2 = targets := by rw [ha]
    rw [deliver_fst, outbox_deliverAll_unowned (hno.gains hg)]
    · rfl
    · intro p hp
      obtain ⟨t, ht, rfl⟩ := List.mem_map.1 hp
      obtain ⟨key, hkey⟩ := Room.lookup_of_answer (htargets ▸ ht)
      exact hno.mobile account key t hkey

/-- An outbox that nobody in the hub has, and no newcomer, is left alone by every call. -/
theorem outbox_next_unowned (hno : Peopled (fun _ c => c.outbox ≠ o) h)
    (hnew : ∀ d, a = .register d → d.outbox ≠ o) (ht : a.target? ≠ some o) :
    (h.next a).outbox o = h.outbox o := by
  cases hask : a.ask? with
  | some ask =>
    rw [next_of_ask? hask]
    exact outbox_toDesktop_unowned hno ask.1 ask.2
  | none =>
    cases htell : a.tell? with
    | some message =>
      rw [next_of_tell? htell]
      exact outbox_toMobiles_unowned hno message.1 message.2
    | none =>
      cases a with
      | register d => exact outbox_register_unowned hno (hnew d rfl)
      | deregister i => exact outbox_deregister_unowned hno i
      | route sender role text => rw [next_of_idle hask htell]
      | announce account online device name =>
        exact (congrArg (Hub.outbox · o) (announce_fst h account _)).trans
          (outbox_tell_unowned hno _ _)
      | evict account device => exact outbox_evict_unowned hno account device
      | toDesktop => cases hask
      | toMobiles => cases htell
      | attach o' | push o' | pushClose o' | handle o' | release o' | stop o' =>
        exact (next_of_target (h := h) rfl).2.2 o fun heq => ht (congrArg some heq)

end Switchboard.Hub
