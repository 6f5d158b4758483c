import Switchboard.Proofs.Hub.Attachment
import Switchboard.Proofs.Socket.Transition

/-! # What a socket and the hub agree on

A socket that is running is registered or has a close waiting for it, one that has stopped is
not registered, and one that was not let in is told nothing.

* `Socket.Accords` — the agreement;
* `Socket.Accords.of_same` — only the index and the socket's own outbox matter to it;
* `Socket.Accords.becomes`, `Socket.Accords.takes`, `Socket.Accords.setOutbox`,
  `Socket.Accords.ends` — what the socket does on its own keeps it.
-/

namespace Switchboard.Socket

/-- What a socket and the hub agree on. -/
structure Accords (s : Socket) (h : Hub) : Prop where
  running : s.phase = .running →
    (h.outbox s.outbox).Open ∧ ∃ c, s.connection? = some c ∧ h.Attached c
  stopped : s.phase = .stopped → ∀ c, s.connection? = some c → c.id ∉ h.index
  refused : s.connection? = none → (h.outbox s.outbox).sent = []

variable {h g : Hub} {s s' : Socket} {c : Connection} {b : Outbox}

namespace Accords

theorem attached (ha : s.Accords h) (hrunning : s.phase = .running)
    (hc : s.connection? = some c) : (h.outbox c.outbox).Open ∧ h.Attached c := by
  obtain ⟨hopen, c', hc', hatt⟩ := ha.running hrunning
  rw [hc] at hc'
  cases hc'
  rw [← (connection?_eq_some.1 hc).2.2]
  exact ⟨hopen, hatt⟩

/-- A socket with a connection that is where it is said to be. -/
theorem of_connection (hc : s.connection? = some c)
    (hrunning : s.phase = .running → (h.outbox c.outbox).Open ∧ h.Attached c)
    (hstopped : s.phase = .stopped → c.id ∉ h.index) : s.Accords h where
  running hphase := by
    obtain ⟨hopen, hatt⟩ := hrunning hphase
    rw [← (connection?_eq_some.1 hc).2.2] at hopen
    exact ⟨hopen, c, hc, hatt⟩
  stopped hphase c' hc' := by
    rw [hc] at hc'
    cases hc'
    exact hstopped hphase
  refused hnone := by
    rw [hc] at hnone
    cases hnone

/-- A socket that was not let in, and that nobody has told anything. -/
theorem of_refused (hnone : s.connection? = none) (hphase : s.phase ≠ .running)
    (hsent : (h.outbox s.outbox).sent = []) : s.Accords h where
  running hrunning := absurd hrunning hphase
  stopped _ c hc := by
    rw [hnone] at hc
    cases hc
  refused _ := hsent

theorem not_running (ha : s.Accords h) (hnone : s.connection? = none) : s.phase ≠ .running := by
  intro hrunning
  obtain ⟨-, c, hc, -⟩ := ha.running hrunning
  rw [hnone] at hc
  cases hc

/-- Only the index and the socket's own outbox matter. -/
theorem of_same (ha : s.Accords h) (hindex : g.index = h.index)
    (houtbox : g.outbox s.outbox = h.outbox s.outbox) : s.Accords g where
  running hphase := by
    obtain ⟨hopen, c, hc, hatt⟩ := ha.running hphase
    refine ⟨houtbox ▸ hopen, c, hc, ?_⟩
    rw [(connection?_eq_some.1 hc).2.2] at houtbox
    rwa [Hub.Attached, hindex, houtbox]
  stopped hphase c hc := by
    rw [hindex]
    exact ha.stopped hphase c hc
  refused hnone := by
    rw [houtbox]
    exact ha.refused hnone

theorem becomes (ha : s.Accords h) (hb : s.Becomes s') : s'.Accords h where
  running hphase := by
    rw [hb.connection, hb.outbox]
    obtain heq | ⟨-, hstopping⟩ := hb.phase
    · exact ha.running (heq ▸ hphase)
    · rw [hstopping] at hphase
      cases hphase
  stopped hphase := by
    rw [hb.connection]
    obtain heq | ⟨-, hstopping⟩ := hb.phase
    · exact ha.stopped (heq ▸ hphase)
    · rw [hstopping] at hphase
      cases hphase
  refused hnone := by
    rw [hb.outbox]
    exact ha.refused (hb.connection ▸ hnone)

theorem setOutbox (ha : s.Accords h) (hphase : s.phase ≠ .running)
    (hsent : b.sent = (h.outbox s.outbox).sent) : s.Accords (h.setOutbox s.outbox b) where
  running hrunning := absurd hrunning hphase
  stopped := ha.stopped
  refused hnone := by
    rw [Hub.outbox_setOutbox_self, hsent]
    exact ha.refused hnone

theorem ends (ha : s.Accords h) (hgone : ∀ c, s.connection? = some c → c.id ∉ h.index) :
    ({ s with phase := .stopped } : Socket).Accords
      (h.setOutbox s.outbox (h.outbox s.outbox).stop) where
  running hrunning := by cases hrunning
  stopped _ := hgone
  refused hnone := by
    change ((h.setOutbox s.outbox _).outbox s.outbox).sent = []
    rw [Hub.outbox_setOutbox_self]
    exact ha.refused hnone

/-- A running socket that takes a text out of its outbox leaves the close, if there is one. -/
theorem takes {text : String} (ha : s.Accords h) (hrunning : s.phase = .running)
    (ht : (h.outbox s.outbox).take? = some (.text text, b)) :
    s.Accords (h.setOutbox s.outbox b.release) := by
  obtain ⟨hopen, c, hc, hatt⟩ := ha.running hrunning
  have houtbox := (connection?_eq_some.1 hc).2.2
  have hopen' : b.Open := hopen.take ht
  refine of_connection hc (fun _ => ?_) fun hstopped => ?_
  · rw [Hub.Attached, ← houtbox, Hub.outbox_setOutbox_self]
    refine ⟨⟨hopen'.live, hopen'.taken⟩, hatt.imp_right fun hclosing => ?_⟩
    rw [← houtbox] at hclosing
    have hclosing' : b.Closing := hclosing.take hopen ht
    exact hclosing'
  · rw [hrunning] at hstopped
    cases hstopped

end Accords

end Switchboard.Socket
