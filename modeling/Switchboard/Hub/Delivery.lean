import Switchboard.Hub.Basic

/-! # Delivery

A text that cannot be put into an outbox may cost the connection its place in the
hub, and if that was a desktop, its mobiles are told, which may cost others theirs.
What is still to be told is kept in a list, with what comes up on the way in front.

* `Hub.detach` — takes a connection out, and says what is to be told because of it;
* `Hub.deliverAll` — tells everything in a list and whatever comes up on the way.  It
  ends because each connection that is taken out leaves the index;
* `Hub.deregister` — takes a connection out and tells who has to know;
* `Hub.deliver` — the number of connections that a text reached. -/

namespace Switchboard.Hub

/-- A text on its way to a connection. -/
structure Parcel where
  id : ConnectionId
  outbox : OutboxId
  text : String
deriving DecidableEq, Repr

def parcels (targets : List Connection) (text : String) : List Parcel :=
  targets.map fun c => ⟨c.id, c.outbox, text⟩

/-- What mobiles are told when the desktop of `p` has come or gone. -/
def presence (online : Bool) (p : Principal) : Notice :=
  .desktopStatus online p.device p.deviceName

/-- Takes a connection out of its room and out of the index, and tells nobody: if it was the
desktop, the parcels for its mobiles are handed back. -/
def detach (h : Hub) (c : ConnectionId) : Hub × List Parcel :=
  match h.index[c]? with
  | none => (h, [])
  | some account =>
    let h := { h with index := h.index.erase c }
    match h.rooms[account]? with
    | none => (h, [])
    | some room =>
      match room.remove c with
      | (room, none) => (h.setRoom account room, [])
      | (room, some desktop) =>
        (h.setRoom account room,
          parcels room.mobiles.values (presence false desktop.principal).render)

theorem detach_index (h : Hub) (c : ConnectionId) :
    (h.detach c).1.index = h.index.erase c := by
  unfold detach
  split
  · rename_i hc
    have hc' : c ∉ h.index := by simpa using hc
    exact (Table.erase_of_not_mem hc').symm
  · dsimp only
    split
    · rfl
    · split <;> rfl

theorem detach_of_not_mem {h : Hub} {c : ConnectionId} (hc : c ∉ h.index) :
    h.detach c = (h, []) := by
  have hc' : h.index[c]? = none := by simpa using hc
  unfold detach
  rw [hc']

/-- What becomes of a connection whose outbox has not taken a text.  If it has ended it is taken out
of the hub.  If it does not keep up, `Config.overflow` decides: it is closed and taken out, or only
the text is lost. -/
def undelivered (h : Hub) (p : Parcel) (e : Outbox.Refusal) : Hub × List Parcel :=
  match e, h.config.overflow with
  | .closed, _ => h.detach p.id
  | .full, .close => (h.pushClose p.outbox overflowReason).detach p.id
  | .full, .dropNewest => (h, [])

theorem detach_progress (h : Hub) (c : ConnectionId) :
    (h.detach c).1.index.size < h.index.size ∨ h.detach c = (h, []) := by
  by_cases hc : c ∈ h.index
  · left
    rw [detach_index]
    exact Table.size_erase_lt hc
  · exact .inr (detach_of_not_mem hc)

theorem pushClose_index (h : Hub) (o : OutboxId) (reason : String) :
    (h.pushClose o reason).index = h.index := by
  unfold pushClose
  split <;> rfl

/-- The measure of `deliverAll`: a text that is not delivered makes the index smaller, or brings up
nothing more to tell. -/
theorem undelivered_progress (h : Hub) (p : Parcel) (e : Outbox.Refusal) :
    (h.undelivered p e).1.index.size < h.index.size ∨
      (h.undelivered p e).1.index.size = h.index.size ∧ (h.undelivered p e).2 = [] := by
  unfold undelivered
  split
  · rcases detach_progress h p.id with hlt | heq
    · exact .inl hlt
    · exact .inr (by rw [heq]; exact ⟨rfl, rfl⟩)
  · have hidx := pushClose_index h p.outbox overflowReason
    rcases detach_progress (h.pushClose p.outbox overflowReason) p.id with hlt | heq
    · exact .inl (by rw [← hidx]; exact hlt)
    · exact .inr (by rw [heq, hidx]; exact ⟨rfl, rfl⟩)
  · exact .inr ⟨rfl, rfl⟩

theorem push_index {h h' : Hub} {o : OutboxId} {text : String} (hp : h.push o text = .ok h') :
    h'.index = h.index := by
  unfold push at hp
  split at hp
  · simp only [Except.ok.injEq] at hp
    rw [← hp]
    rfl
  · simp at hp

/-- Delivers parcels, and what `undelivered` brings up on the way before the rest of them. -/
def deliverAll (h : Hub) (ps : List Parcel) : Hub :=
  match ps with
  | [] => h
  | p :: ps =>
    match _hp : h.push p.outbox p.text with
    | .ok h' => deliverAll h' ps
    | .error e =>
      match _hu : h.undelivered p e with
      | (h', more) => deliverAll h' (more ++ ps)
termination_by (h.index.size, ps.length)
decreasing_by
  · -- the text is in: the index is as it was, and there is one parcel fewer
    rw [push_index _hp]
    exact Prod.Lex.right _ (by simp)
  · -- the text is lost: the index is smaller, or nothing has come up
    have hprogress := undelivered_progress h p e
    rw [_hu] at hprogress
    rcases hprogress with hlt | ⟨heq, hnil⟩
    · exact Prod.Lex.left _ _ hlt
    · simp only at heq hnil
      rw [heq, hnil]
      exact Prod.Lex.right _ (by simp)

/-- Delivers one parcel, and all that comes up because it cannot be delivered. -/
def deliverTo (h : Hub) (p : Parcel) : Hub × Except Outbox.Refusal Unit :=
  match h.push p.outbox p.text with
  | .ok h' => (h', .ok ())
  | .error e =>
    let (h', more) := h.undelivered p e
    (h'.deliverAll more, .error e)

/-- Delivers parcels and counts those that got there.  What comes up on the way is not counted. -/
def deliver (h : Hub) : List Parcel → Hub × Nat
  | [] => (h, 0)
  | p :: ps =>
    match h.deliverTo p with
    | (h', .ok _) =>
      let (h'', n) := h'.deliver ps
      (h'', n + 1)
    | (h', .error _) => h'.deliver ps

/-- Takes a connection out of the hub and tells its mobiles if it was a desktop.  `false` says that
it was gone before, so calling this twice does no harm. -/
def deregister (h : Hub) (c : ConnectionId) : Hub × Bool :=
  if c ∈ h.index then
    let (h', more) := h.detach c
    (h'.deliverAll more, true)
  else (h, false)

/-- Tells all mobiles of an account something, and counts whom it reached. -/
def announce (h : Hub) (account : AccountId) (n : Notice) : Hub × Nat :=
  h.deliver (parcels (h.room account).mobiles.values n.render)

end Switchboard.Hub
