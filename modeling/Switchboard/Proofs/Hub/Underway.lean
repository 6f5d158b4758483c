import Mathlib.Data.List.Nodup
import Switchboard.Proofs.Hub.Runs
import Switchboard.Proofs.Hub.Texts

/-! # A run that is still ahead

In a run of connections that have names and outboxes of their own, every state is
`Settled`: rooms and index agree, and whoever is in the hub is one of those connections.
`Underway` adds what is known of the actions to come, so that it can be carried along a run
by induction.

* `Settled` — the states of such a run;
* `Settled.desktop_or_mobile` — where a registered connection is to be found;
* `Underway` — a state with a run ahead;
* `underway`, `Underway.next`, `Underway.run` — at the beginning, and further on.
-/

namespace Switchboard.Hub

variable {h : Hub} {a : Action} {cs : List Connection}

/-- The connections of `cs` have names and outboxes of their own, and nobody else is in the
hub. -/
structure Settled (cs : List Connection) (h : Hub) : Prop where
  consistent : h.Consistent
  peopled : Peopled (fun _ c => c ∈ cs) h
  named : (cs.map (·.id)).Nodup
  owned : (cs.map (·.outbox)).Nodup

theorem Settled.separate (hs : Settled cs h) : h.Separate := hs.peopled.separate hs.owned

namespace Settled

theorem next (hs : Settled cs h) (hnew : ∀ c, a = .register c → c ∈ cs ∧ c.id ∉ h.index) :
    Settled cs (h.next a) where
  consistent := by
    refine hs.consistent.next fun c harr => ?_
    cases a with
    | register c' =>
      cases harr
      exact (hnew c' rfl).2
    | _ => cases harr
  peopled := hs.peopled.next fun c ha => (hnew c ha).1
  named := hs.named
  owned := hs.owned

theorem eq_of_id (hs : Settled cs h) {c c' : Connection} (hc : c ∈ cs) (hc' : c' ∈ cs)
    (hid : c.id = c'.id) : c = c' :=
  List.inj_on_of_nodup_map hs.named hc hc' hid

theorem eq_of_outbox (hs : Settled cs h) {c c' : Connection} (hc : c ∈ cs) (hc' : c' ∈ cs)
    (ho : c.outbox = c'.outbox) : c = c' :=
  List.inj_on_of_nodup_map hs.owned hc hc' ho

theorem mem_index (hs : Settled cs h) {account : AccountId} {d : Connection}
    (hd : (h.room account).desktop = some d) : d.id ∈ h.index :=
  Table.mem_of_lookup (hs.consistent.index_desktop hd)

/-- A connection that is registered is where it belongs. -/
theorem desktop_or_mobile (hs : Settled cs h) {c : Connection} (hc : c ∈ cs)
    (hin : c.id ∈ h.index) :
    (c.principal.role = .desktop ∧ (h.room c.principal.account).desktop = some c) ∨
      (c.principal.role = .mobile ∧ (h.room c.principal.account).mobiles[c.id]? = some c) := by
  obtain ⟨account, hi⟩ := Table.mem_iff_lookup.1 hin
  have hwf := hs.consistent.wellFormed account
  obtain hdesk | hmob := (hs.consistent.index_iff c.id account).1 hi
  · obtain ⟨d, hd, hid⟩ := Room.isDesktop_iff.1 hdesk
    obtain rfl := hs.eq_of_id (hs.peopled.desktop account d hd) hc hid
    obtain ⟨rfl, hrole⟩ := hwf.desktop d hd
    exact .inl ⟨hrole, hd⟩
  · obtain ⟨m, hm⟩ := Table.mem_iff_lookup.1 hmob
    obtain ⟨hid, hacc, hrole⟩ := hwf.mobile c.id m hm
    obtain rfl := hs.eq_of_id (hs.peopled.mobile account c.id m hm) hc hid
    subst hacc
    exact .inr ⟨hrole, hm⟩

theorem mobile (hs : Settled cs h) {m : Connection} (hm : m ∈ cs)
    (hrole : m.principal.role = .mobile) (hin : m.id ∈ h.index) :
    (h.room m.principal.account).mobiles[m.id]? = some m := by
  obtain ⟨hdesktop, -⟩ | ⟨-, hmobile⟩ := hs.desktop_or_mobile hm hin
  · rw [hrole] at hdesktop
    cases hdesktop
  · exact hmobile

/-- If a desktop has left and nobody has come, there is none. -/
theorem desktop_eq_none {g : Hub} {asked : AccountId → String → ConnectionId → Prop}
    (hs : Settled cs g) (hg : Gains (fun _ => False) asked h g) {account : AccountId}
    {d : Connection} (hd : (h.room account).desktop = some d) (hgone : d.id ∉ g.index) :
    (g.room account).desktop = none := by
  rw [Option.eq_none_iff_forall_ne_some]
  intro d' hd'
  cases hd.symm.trans ((hg.desktop account d' hd').resolve_right id)
  exact hgone (hs.mem_index hd')

theorem outbox_ne (hs : Settled cs h) {account other : AccountId} {k : ConnectionId}
    {d m : Connection} (hd : (h.room account).desktop = some d)
    (hm : (h.room other).mobiles[k]? = some m) : d.outbox ≠ m.outbox := by
  intro ho
  obtain rfl :=
    hs.eq_of_outbox (hs.peopled.desktop account d hd) (hs.peopled.mobile other k m hm) ho
  obtain ⟨-, hdesktop⟩ := (hs.consistent.wellFormed account).desktop d hd
  obtain ⟨-, -, hmobile⟩ := (hs.consistent.wellFormed other).mobile k d hm
  rw [hdesktop] at hmobile
  cases hmobile

end Settled

/-- A hub with a run ahead of it that brings in connections of `cs`, each under a name that is
not in use. -/
structure Underway (cs : List Connection) (h : Hub) (as : List Action) : Prop
    extends Settled cs h where
  fresh : (arrivals as).Nodup
  new : ∀ c ∈ arrivals as, c ∉ h.index
  known : ∀ c ∈ newcomers as, c ∈ cs

namespace Underway

variable {as bs : List Action}

theorem newcomer (hu : Underway cs h (a :: as)) :
    ∀ c, a = .register c → c ∈ cs ∧ c.id ∉ h.index := by
  rintro c rfl
  exact ⟨hu.known c (mem_newcomers.2 List.mem_cons_self), hu.new c.id List.mem_cons_self⟩

theorem next (hu : Underway cs h (a :: as)) : Underway cs (h.next a) as where
  toSettled := hu.toSettled.next hu.newcomer
  fresh := (new_next hu.fresh hu.new).1
  new := (new_next hu.fresh hu.new).2
  known c hc := hu.known c (mem_newcomers.2 (List.mem_cons_of_mem _ (mem_newcomers.1 hc)))

theorem run (hu : Underway cs h (as ++ bs)) : Underway cs (h.run as).1 bs := by
  rw [run_fst]
  induction as generalizing h with
  | nil => exact hu
  | cons a as ih => exact ih hu.next

end Underway

theorem underway (config : Config) {as : List Action} (hfresh : (arrivals as).Nodup)
    (howned : ((newcomers as).map (·.outbox)).Nodup) :
    Underway (newcomers as) (empty config) as where
  consistent := .empty config
  peopled := .empty config
  named := arrivals_eq as ▸ hfresh
  owned := howned
  fresh := hfresh
  new c _ := by simp [empty]
  known _ hc := hc

end Switchboard.Hub
