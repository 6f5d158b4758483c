import Switchboard.Proofs.Hub.Replies
import Switchboard.Relay.Basic

/-! # What a client is told about a text

A text that a client sends is answered with one error at most.  The error carries the id that can
be read off the text, be the text a message or not, and goes to that client and to nobody else.  If
the client was too fast, or the text may not be sent, nothing else has happened: the hub is what
it was.

* `Named` — the answer of the hub to a frame;
* `Answers` — what a socket sends its client for a text, and what becomes of the hub;
* `answers_hearText` — a text that is put to the bucket;
* `texts_answered` — a text anywhere in the relay.
-/

namespace Switchboard

/-- A text is not that of an error. -/
def Notice.IsNoError (text : String) : Prop :=
  ∀ id code message, text ≠ (Notice.error id code message).render

/-- An answer names the frame, and one that refuses the frame itself leaves the hub as it was. -/
structure Hub.Named (h : Hub) (text : String) (g : Hub) (reply : Option Notice) : Prop where
  error : ∀ n, reply = some n → ∃ code message, n = .error (Message.peekId text) code message
  rejected : ∀ id message, reply = some (.error id Notice.invalidMessage message) → g = h
  others : h.AddsOnly Notice.IsNoError g

/-- What is sent to a client for a text, and the hub afterwards. -/
structure Socket.Answers (h : Hub) (text : String) (g : Hub) (sent : List Frame) : Prop where
  single : sent.length ≤ 1
  error : ∀ f ∈ sent, ∃ code message,
    f = .text (Notice.error (Message.peekId text) code message).render
  rejected : ∀ id code message, .text (Notice.error id code message).render ∈ sent →
    code = rateLimited ∨ code = Notice.invalidMessage → g = h
  others : h.AddsOnly Notice.IsNoError g

variable {h g : Hub} {s : Socket} {now : Instant} {text : String} {sent : List Frame}
  {reply : Option Notice}

/-! ## One text -/

theorem Notice.isNoError_presence (online : Bool) (p : Principal) :
    IsNoError (Hub.presence online p).render := by
  intro id code message heq
  cases render_injective heq

/-- A message that may be passed on is of no kind that the relay writes itself. -/
theorem Notice.isNoError_of_read {m : Message} (hread : Message.read text = .ok m)
    (hpassed : m.family.toDesktop = true ∨ m.family.toMobiles = true) : IsNoError text := by
  rintro id code message rfl
  rw [read_render] at hread
  cases hread
  obtain hpassed | hpassed := hpassed <;> cases hpassed

theorem Hub.named_route (h : Hub) (sender : ConnectionId) (role : Role) (text : String) :
    Named h text (h.route sender role text).1 (h.route sender role text).2 := by
  have hothers : h.AddsOnly Notice.IsNoError (h.route sender role text).1 :=
    addsOnly_route (Notice.isNoError_presence false) h sender role
      fun m hread => Notice.isNoError_of_read hread
  have hcases := replying h sender role text
  generalize h.route sender role text = out at hcases hothers
  cases hcases with
  | silent g => exact ⟨by simp, by simp, hothers⟩
  | rejected message =>
    refine ⟨fun n hn => ?_, fun _ _ _ => rfl, hothers⟩
    cases hn
    exact ⟨_, _, rfl⟩
  | missed g code message hcode =>
    refine ⟨fun n hn => ?_, fun id message' hreply => ?_, hothers⟩
    · cases hn
      exact ⟨_, _, rfl⟩
    · -- the desktop did not get it, which is no fault of the frame
      cases hreply
      obtain hcode | hcode := hcode <;> exact absurd hcode (by decide)

namespace Socket

theorem Answers.silent (hothers : h.AddsOnly Notice.IsNoError g) : Answers h text g [] :=
  ⟨by simp, by simp, by simp, hothers⟩

theorem Answers.of_error {code message : String} (hothers : h.AddsOnly Notice.IsNoError g)
    (hrejected : code = rateLimited ∨ code = Notice.invalidMessage → g = h) :
    Answers h text g [.text (Notice.error (Message.peekId text) code message).render] := by
  refine ⟨by simp, fun f hf => ⟨code, message, List.mem_singleton.1 hf⟩, ?_, hothers⟩
  intro id' code' message' hmem hcode
  -- a text is that of one error only, so the code is the one that was sent
  have hsame := Frame.text.inj (List.mem_singleton.1 hmem)
  cases Notice.render_injective hsame
  exact hrejected hcode

theorem Answers.of_named (hn : Hub.Named h text g reply)
    (hlimited : ∀ id message, reply ≠ some (.error id rateLimited message)) :
    Answers h text g (reply.toList.map fun n => .text n.render) := by
  cases reply with
  | none => exact .silent hn.others
  | some n =>
    obtain ⟨code, message, rfl⟩ := hn.error n rfl
    refine .of_error hn.others fun hcode => ?_
    obtain rfl | rfl := hcode
    · exact absurd rfl (hlimited _ message)
    · exact hn.rejected _ message rfl

/-- Only sockets tell their clients that they are too fast. -/
theorem route_ne_limited (h : Hub) (sender : ConnectionId) (role : Role) (text : String)
    (id : Option String) (message : String) :
    (h.route sender role text).2 ≠ some (.error id rateLimited message) := by
  have hcases := Hub.replying h sender role text
  generalize h.route sender role text = out at hcases
  cases hcases with
  | silent g => simp
  | rejected message' =>
    intro heq
    have hcode := (Notice.error.inj (Option.some.inj heq)).2.1
    exact absurd hcode (by decide)
  | missed g code message' hcode =>
    intro heq
    cases heq
    obtain hcode | hcode := hcode <;> exact absurd hcode (by decide)

theorem answers_hearText (h : Hub) (s : Socket) (now : Instant) (text : String) :
    Answers h text (s.hearText h now text).hub (s.hearText h now text).sent := by
  unfold hearText
  cases s.id with
  | none => exact .silent (.refl h)
  | some i =>
    dsimp only
    split
    · exact .of_error (.refl h) fun _ => rfl
    · have hrouted := Answers.of_named (Hub.named_route h i s.principal.role text)
        (route_ne_limited h i s.principal.role text)
      generalize h.route i s.principal.role text = out at hrouted
      obtain ⟨g, _ | n⟩ := out <;> exact hrouted

end Socket

/-! ## Anywhere in the relay -/

/-- What is told about a text, by the hub and by a socket, and to whom. -/
structure Relay.TextAnswered (text : String) : Prop where
  id : ∀ m, Message.read text = .ok m → m.id = Message.peekId text
  routed : ∀ (h : Hub) (sender : ConnectionId) (role : Role),
    h.Named text (h.route sender role text).1 (h.route sender role text).2
  heard : ∀ (h : Hub) (s : Socket) (now : Instant),
    Socket.Answers h text (s.hearText h now text).hub (s.hearText h now text).sent
  sender : ∀ (r : Relay) (o : OutboxId) (now : Instant), ∃ sent : List Frame,
    (r.step now (.move o (.hear (.ok (.text text))))).2 = sent.map (fun f => (o, f)) ∧
      Socket.Answers r.hub text (r.step now (.move o (.hear (.ok (.text text))))).1.hub sent

/-- Whatever a text is, all that is said about it is one error to its sender, under the id that it
has as a text, and the error leaves no trace in the hub if it is the sender's own fault. -/
theorem Relay.texts_answered (text : String) : TextAnswered text := by
  refine ⟨fun m => Message.id_of_read, fun h sender role => Hub.named_route h sender role text,
    fun h s now => Socket.answers_hearText h s now text, fun r o now => ?_⟩
  simp only [step, act]
  cases hget : r.sockets[o]? with
  | none => exact ⟨[], rfl, .silent (.refl r.hub)⟩
  | some s =>
    refine ⟨_, rfl, ?_⟩
    simp only [Socket.step, Socket.hear]
    split
    · exact Socket.answers_hearText r.hub (s.hearOf now) now text
    · exact .silent (.refl r.hub)

end Switchboard
