import Switchboard.Proofs.Hub.Bystanders

/-! # Following one connection

In a run in which nobody else has a connection's name or its outbox, the connection can be
followed: while it is registered, its outbox gets what the effect of each action puts there, and
otherwise it is greeted at most.

* `Effect.puts`, `puts` — what an effect, and what an action, puts into an outbox;
* `Follows` — a run in which one connection can be followed;
* `Follows.sent_eq` — the hub only adds to what is in the outbox;
* `Follows.puts_eq_effectOn`, `Follows.puts_eq_nil` — what it adds;
* `Follows.not_mem_index` — whoever is gone does not come back.
-/

namespace Switchboard.Hub

variable {h : Hub} {c : Connection} {a : Action} {o : OutboxId} {as bs : List Action}

/-! ## What is put into an outbox -/

/-- What an effect puts into an outbox. -/
def Effect.puts (overflow : Overflow) (b : Outbox) : Effect → List Outbox.Item
  | .nothing | .removal => []
  | .text t =>
    if b.live = false then []
    else if b.depth < b.capacity then [.text t]
    else if overflow = .close then [.close overflowReason]
    else []
  | .dismissal reason => if b.live then [.close reason] else []

/-- What an action of the hub puts into an outbox.  What is put there behind the hub's back
does not count. -/
def puts (h : Hub) (a : Action) (o : OutboxId) : List Outbox.Item :=
  if a.Writes o then [] else ((h.next a).outbox o).sent.drop (h.outbox o).sent.length

theorem puts_eq {items : List Outbox.Item} (hw : ¬ a.Writes o)
    (hsent : ((h.next a).outbox o).sent = (h.outbox o).sent ++ items) : h.puts a o = items := by
  rw [puts, if_neg hw, hsent, List.drop_left]

theorem Effect.sent_outbox (overflow : Overflow) (b : Outbox) (e : Effect) :
    (e.outbox overflow b).sent = b.sent ++ e.puts overflow b := by
  cases e with
  | nothing | removal => exact (List.append_nil _).symm
  | dismissal reason =>
    simp only [Effect.outbox, Effect.puts, Outbox.pushClose]
    split <;> simp
  | text t =>
    simp only [Effect.outbox, Effect.puts, Outbox.receive]
    cases hpush : b.pushText t with
    | ok b' =>
      obtain ⟨hlive, hroom, rfl⟩ := Outbox.pushText_eq_ok.1 hpush
      simp [hlive, hroom]
    | error e =>
      cases e with
      | closed =>
        simp [Outbox.not_live_of_closed hpush]
      | full =>
        obtain ⟨hlive, hfull⟩ := Outbox.pushText_eq_full.1 hpush
        cases overflow <;> simp [hlive, Outbox.pushClose, Nat.not_lt.2 hfull]

/-! ## Following one connection -/

/-- A hub with a run ahead of it in which one connection can be followed: nobody else has its
name or its outbox. -/
structure Follows (c : Connection) (h : Hub) (as : List Action) : Prop where
  consistent : h.Consistent
  alone : Peopled (fun _ c' => c'.id = c.id ∨ c'.outbox = c.outbox → c' = c) h
  fresh : (arrivals as).Nodup
  new : ∀ i ∈ arrivals as, i ∉ h.index
  coming : ∀ c' ∈ newcomers as, c'.id = c.id ∨ c'.outbox = c.outbox → c' = c

theorem follows (config : Config) (hfresh : (arrivals as).Nodup) (hc : c ∈ newcomers as)
    (hown : ∀ c' ∈ newcomers as, c'.outbox = c.outbox → c' = c) :
    Follows c (empty config) as where
  consistent := .empty config
  alone := .empty config
  fresh := hfresh
  new i _ := by simp [empty]
  coming c' hc' hsame := by
    rw [arrivals_eq] at hfresh
    obtain hid | ho := hsame
    · exact List.inj_on_of_nodup_map hfresh hc' hc hid
    · exact hown c' hc' ho

theorem mem_arrivals_of_register (hc : .register c ∈ as) : c.id ∈ arrivals as :=
  List.mem_filterMap.2 ⟨_, hc, rfl⟩

theorem member_letIn (h : Hub) (c : Connection) : (h.letIn c).Member c := by
  refine ⟨c.principal.account, ?_⟩
  rw [room_letIn, if_pos rfl]
  split
  · exact .inl rfl
  · exact .inr ⟨c.id, by rw [Room.withMobile, Table.lookup_insert, if_pos rfl]⟩

namespace Follows

theorem own (hf : Follows c h as) : h.Own c where
  desktop account d hd ho := hf.alone.desktop account d hd (.inr ho)
  mobile account key m hm ho := hf.alone.mobile account key m hm (.inr ho)

theorem seated (hf : Follows c h as) (hin : c.id ∈ h.index) : h.Seated c where
  consistent := hf.consistent
  member := by
    obtain ⟨c', hmember, hid⟩ := hf.consistent.exists_member hin
    obtain ⟨-, halone⟩ := hf.alone.member hmember
    rwa [← halone (.inl hid)]
  own := hf.own

theorem newcomer (hf : Follows c h (a :: as)) {c' : Connection} (ha : a = .register c') :
    c'.id ∉ h.index ∧ (c'.id = c.id ∨ c'.outbox = c.outbox → c' = c) := by
  subst ha
  exact ⟨hf.new c'.id List.mem_cons_self, hf.coming c' List.mem_cons_self⟩

theorem next (hf : Follows c h (a :: as)) : Follows c (h.next a) as where
  consistent := hf.consistent.next fun i harr => hf.new i (by simp [arrivals_cons, harr])
  alone := hf.alone.next fun c' ha => (hf.newcomer ha).2
  fresh := (new_next hf.fresh hf.new).1
  new := (new_next hf.fresh hf.new).2
  coming c' hc' := hf.coming c' (mem_newcomers.2 (List.mem_cons_of_mem _ (mem_newcomers.1 hc')))

theorem run (hf : Follows c h (as ++ bs)) : Follows c (h.run as).1 bs := by
  rw [run_fst]
  induction as generalizing h with
  | nil => exact hf
  | cons a as ih => exact ih hf.next

theorem not_mem_arrivals (hf : Follows c h as) (hnew : .register c ∉ as) : c.id ∉ arrivals as := by
  intro hmem
  rw [arrivals_eq] at hmem
  obtain ⟨c', hc', hid⟩ := List.mem_map.1 hmem
  obtain rfl := hf.coming c' hc' (.inl hid)
  exact hnew (mem_newcomers.1 hc')

/-- Whoever comes while the connection is there has another name and another outbox. -/
theorem others (hf : Follows c h (a :: as)) (hin : c.id ∈ h.index) (d : Connection)
    (ha : a = .register d) : d.id ∉ h.index ∧ d.outbox ≠ c.outbox := by
  obtain ⟨hnew, hsame⟩ := hf.newcomer ha
  refine ⟨hnew, fun ho => hnew ?_⟩
  rwa [hsame (.inr ho)]

theorem unowned (hf : Follows c h as) (hout : c.id ∉ h.index) :
    Peopled (fun _ c' => c'.outbox ≠ c.outbox) h :=
  hf.own.unowned hf.consistent hout

/-- A newcomer that is let in is registered, and of what is told because of it only the
greeting is for the newcomer. -/
theorem arrival (hf : Follows c h (.register c :: as)) (hr : h.refusal? c = none) :
    (h.register c).1.outbox c.outbox = (h.greet c).outbox c.outbox ∧
      c.id ∈ (h.register c).1.index := by
  have hnew := (hf.newcomer rfl).1
  have hletIn : (h.letIn c).outbox c.outbox = (h.greet c).outbox c.outbox := by
    rw [outbox_letIn]
    split
    · rename_i old hold
      exact if_neg fun hsame => (hf.unowned hnew).desktop _ old hold hsame.2
    · rfl
  have hseat : (h.letIn c).Seated c :=
    ⟨hf.consistent.letIn hr hnew, member_letIn h c, Peopled.letIn hf.own fun _ => rfl⟩
  have hcases := registering h c
  generalize h.register c = out at hcases
  cases hcases with
  | refused e hr' =>
    rw [hr] at hr'
    cases hr'
  | mobile => exact ⟨hletIn, hseat.mem_index⟩
  | desktop _ hdesk =>
    -- a desktop is announced to the mobiles, of which it is none
    have hrole : c.principal.role = .desktop := by simpa [Principal.isDesktop] using hdesk
    have htold := hasEffect_tell hseat c.principal.account (presence true c.principal).render
    have hnone (text : String) : toldEffect c c.principal.account text = .nothing := by
      simp [toldEffect, hrole]
    rw [hnone] at htold
    rw [announce_fst]
    exact ⟨htold.outbox.trans hletIn, htold.index.2 trivial⟩

/-- A newcomer is greeted at most. -/
theorem sent_arrival (hf : Follows c h (.register c :: as)) :
    ((h.register c).1.outbox c.outbox).sent = (h.outbox c.outbox).sent ∨
      ((h.register c).1.outbox c.outbox).sent
        = (h.outbox c.outbox).sent ++ [.text (Notice.greeting c.id).render] := by
  cases hr : h.refusal? c with
  | some e =>
    left
    rw [register_eq, hr]
  | none =>
    rw [(hf.arrival hr).1]
    obtain heq | ⟨b, hpush, heq⟩ := greet_eq h c <;> rw [heq]
    · exact .inl rfl
    · obtain ⟨-, -, rfl⟩ := Outbox.pushText_eq_ok.1 hpush
      rw [outbox_setOutbox_self]
      exact .inr rfl

/-- What an action puts into the connection's outbox, by whether the connection is there. -/
theorem sent_next (hf : Follows c h (a :: as)) (hw : ¬ a.Writes c.outbox) :
    ∃ items, ((h.next a).outbox c.outbox).sent = (h.outbox c.outbox).sent ++ items ∧
      (c.id ∈ h.index ∧
          items = (h.effectOn c a).puts h.config.overflow (h.outbox c.outbox) ∨
        c.id ∉ h.index ∧ (items = [] ∨
          a = .register c ∧ items = [.text (Notice.greeting c.id).render])) := by
  by_cases ht : a.target? = some c.outbox
  · -- the connection works on its own outbox
    refine ⟨[], by rw [sent_next_of_target ht hw, List.append_nil], ?_⟩
    rw [effectOn_of_target ht]
    by_cases hin : c.id ∈ h.index
    · exact .inl ⟨hin, rfl⟩
    · exact .inr ⟨hin, .inl rfl⟩
  · by_cases hin : c.id ∈ h.index
    · have heffect := hasEffect_next (hf.seated hin) ht (hf.others hin)
      exact ⟨_, by rw [heffect.outbox, Effect.sent_outbox], .inl ⟨hin, rfl⟩⟩
    · by_cases ha : a = .register c
      · subst ha
        obtain hsent | hsent := hf.sent_arrival
        · exact ⟨[], hsent.trans (List.append_nil _).symm, .inr ⟨hin, .inl rfl⟩⟩
        · exact ⟨_, hsent, .inr ⟨hin, .inr ⟨rfl, rfl⟩⟩⟩
      · have hnew : ∀ d, a = .register d → d.outbox ≠ c.outbox := by
          rintro d rfl ho
          exact ha (by rw [(hf.newcomer rfl).2 (.inr ho)])
        refine ⟨[], ?_, .inr ⟨hin, .inl rfl⟩⟩
        rw [outbox_next_unowned (hf.unowned hin) hnew ht, List.append_nil]

theorem sent_eq (hf : Follows c h (a :: as)) (hw : ¬ a.Writes c.outbox) :
    ((h.next a).outbox c.outbox).sent = (h.outbox c.outbox).sent ++ h.puts a c.outbox := by
  obtain ⟨items, hsent, -⟩ := hf.sent_next hw
  rw [puts_eq hw hsent, hsent]

theorem effectOn_of_writes (hw : a.Writes o) : h.effectOn c a = .nothing := by
  cases a <;> first | rfl | exact absurd hw id

/-- While the connection is there, the effect on it is all that is put into its outbox. -/
theorem puts_eq_effectOn (hf : Follows c h (a :: as)) (hin : c.id ∈ h.index) :
    h.puts a c.outbox = (h.effectOn c a).puts h.config.overflow (h.outbox c.outbox) := by
  by_cases hw : a.Writes c.outbox
  · rw [puts, if_pos hw, effectOn_of_writes hw]
    rfl
  · obtain ⟨items, hsent, ⟨-, hitems⟩ | ⟨hout, -⟩⟩ := hf.sent_next hw
    · rw [puts_eq hw hsent, hitems]
    · exact absurd hin hout

/-- While it is not there, it may be greeted, and that is all. -/
theorem puts_eq_nil (hf : Follows c h (a :: as)) (hout : c.id ∉ h.index) :
    h.puts a c.outbox = [] ∨
      a = .register c ∧ h.puts a c.outbox = [.text (Notice.greeting c.id).render] := by
  by_cases hw : a.Writes c.outbox
  · exact .inl (if_pos hw)
  · obtain ⟨items, hsent, ⟨hin, -⟩ | ⟨-, hitems⟩⟩ := hf.sent_next hw
    · exact absurd hin hout
    · rwa [puts_eq hw hsent]

theorem not_mem_index (hf : Follows c h (a :: as)) (hout : c.id ∉ h.index)
    (ha : a ≠ .register c) : c.id ∉ (h.next a).index := by
  intro hin
  obtain ⟨account, hi⟩ := Table.mem_iff_lookup.1 hin
  obtain hold | harr := (gains_next h a).index c.id account hi
  · exact hout (Table.mem_of_lookup hold)
  · cases a with
    | register d =>
      have hd : d = c := (hf.newcomer rfl).2 (.inl (Option.some.inj harr))
      exact ha (by rw [hd])
    | _ => cases harr

end Follows

end Switchboard.Hub
