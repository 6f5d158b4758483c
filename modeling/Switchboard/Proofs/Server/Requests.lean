import Switchboard.Proofs.Service.Turns
import Switchboard.Server.Basic

/-! # What requests lead to

A request reaches what it asks for once whoever makes it may enter the part of the server in
which that is.  Marking a response for the page that asked for it changes nothing that matters
here.

* `Route.scope`, `scope_of_route` — the part of the server in which a route is;
* `respond_hall`, `respond_authorized`, `respond_devices` — the response to a request with a
  route;
* `removing`, `connecting`, `listing` — what removing a device, opening a connection and
  listing devices leads to;
* `turns_respond` — whatever the request, what the service goes through is one of the things
  that it can go through.
-/

namespace Switchboard.Server

open Http (Request Response)
open Service (Clock Fresh Turns)

variable {s : Server} {clock : Clock} {fresh : Fresh} {r : Request} {route : Route} {out : Outcome}

/-! ## Routes -/

/-- The part of the server in which a route is. -/
def Route.scope : Route → Scope
  | .health | .connect => .hall
  | .register | .login | .refresh => .accounts
  | .pair | .list | .remove _ => .devices

theorem scope_of_route {method path : String} (hroute : Route.of? method path = some route) :
    method ≠ "OPTIONS" ∧ Scope.ofPath path = route.scope := by
  unfold Route.of? at hroute
  unfold Scope.ofPath
  split at hroute <;> rename_i hsegments
  case h_8 =>
    split at hroute
    · cases hroute
    · cases hroute
      rw [hsegments]
      exact ⟨by decide, rfl⟩
  case h_9 => cases hroute
  all_goals
    cases hroute
    rw [hsegments]
    exact ⟨by decide, rfl⟩

/-! ## Responses -/

theorem markFor_server (s : Server) (r : Request) (out : Outcome) :
    (s.markFor r out).server = out.server := by
  unfold markFor
  split <;> rfl

theorem markFor_status (s : Server) (r : Request) (out : Outcome) :
    (s.markFor r out).response.status = out.response.status := by
  unfold markFor Http.Origins.mark
  split
  · dsimp only
    split <;> rfl
  · rfl

theorem markFor_body (s : Server) (r : Request) (out : Outcome) :
    (s.markFor r out).response.body = out.response.body := by
  unfold markFor Http.Origins.mark
  split
  · dsimp only
    split <;> rfl
  · rfl

theorem not_preflight (hroute : Route.of? r.method r.path = some route) :
    Http.Origins.isPreflight r = false := by
  simp [Http.Origins.isPreflight, (scope_of_route hroute).1]

/-- Anybody may enter the hall. -/
theorem respond_hall (hroute : Route.of? r.method r.path = some route)
    (hscope : route.scope = .hall) :
    s.respond clock fresh r = s.markFor r (s.serve clock fresh r route none) := by
  have hpath := (scope_of_route hroute).2
  unfold respond enter
  rw [not_preflight hroute, hpath, hscope, hroute]
  rfl

/-- Whose access token is no good is told that they are not known. -/
theorem status_of_authenticate {service : Service} {now : Instant} {token : String} {p : Problem}
    (hp : service.authenticate now token = .error p) : p.status = 401 := by
  unfold Service.authenticate at hp
  split at hp
  · cases hp
    rfl
  · split at hp
    · cases hp
    · cases hp
      rfl

theorem respond_account (s : Server) (clock : Clock) (fresh : Fresh)
    (hroute : Route.of? r.method r.path = some route) (hscope : route.scope = .devices) :
    s.respond clock fresh r =
      match s.account clock.wall r with
      | .error p => .only s (.problem p)
      | .ok account => s.markFor r (s.serve clock fresh r route account) := by
  unfold respond enter
  rw [not_preflight hroute, (scope_of_route hroute).2, hscope, hroute]
  simp only [if_false, Bool.false_eq_true]
  cases s.account clock.wall r <;> rfl

/-- Whoever shows a good access token is served for its account. -/
theorem respond_authorized {access : String} {account : AccountId}
    (hroute : Route.of? r.method r.path = some route) (hscope : route.scope = .devices)
    (hbearer : bearer? r.headers = some access)
    (haccount : s.service.authenticate clock.wall access = .ok account) :
    s.respond clock fresh r = s.markFor r (s.serve clock fresh r route (some account)) := by
  have hfound : s.account clock.wall r = .ok (some account) := by
    simp only [Server.account, (scope_of_route hroute).1, if_false, hbearer, haccount]
    rfl
  rw [respond_account s clock fresh hroute hscope, hfound]

/-- Nobody else is served where devices are. -/
theorem respond_devices (s : Server) (clock : Clock) (fresh : Fresh)
    (hroute : Route.of? r.method r.path = some route) (hscope : route.scope = .devices) :
    (∃ p : Problem, p.status = 401 ∧ s.respond clock fresh r = .only s (.problem p)) ∨
      ∃ access account, bearer? r.headers = some access ∧
        s.service.authenticate clock.wall access = .ok account ∧
        s.respond clock fresh r = s.markFor r (s.serve clock fresh r route (some account)) := by
  have hmethod := (scope_of_route hroute).1
  cases hbearer : bearer? r.headers with
  | none =>
    have hrefused : s.account clock.wall r = .error noBearer := by
      simp only [Server.account, hmethod, if_false, hbearer]
    rw [respond_account s clock fresh hroute hscope, hrefused]
    exact .inl ⟨noBearer, rfl, rfl⟩
  | some access =>
    cases haccount : s.service.authenticate clock.wall access with
    | error p =>
      have hrefused : s.account clock.wall r = .error p := by
        simp only [Server.account, hmethod, if_false, hbearer, haccount]
        rfl
      rw [respond_account s clock fresh hroute hscope, hrefused]
      exact .inl ⟨p, status_of_authenticate haccount, rfl⟩
    | ok account =>
      exact .inr ⟨access, account, rfl, haccount,
        respond_authorized hroute hscope hbearer haccount⟩

/-! ## Devices and connections -/

/-- What comes of the request to remove a device: its account is obeyed, and anybody else leaves
the server as it is. -/
inductive Removes (s : Server) (clock : Clock) (r : Request) (text : String) (out : Outcome) : Prop
  | refused : out.server = s → out.response.status = 401 ∨ out.response.status = 404 →
      Removes s clock r text out
  | removed (token : String) (i : DeviceId) (d : Identity.Device) :
      bearer? r.headers = some token → s.service.authenticate clock.wall token = .ok d.account →
      Uuid.parse text = .ok i → s.service.identity.devices[i]? = some d →
      out.server = { s with service := (s.service.unpair clock.steady d.account i).1 } →
      out.response.status = 200 → Removes s clock r text out

theorem removing (s : Server) (clock : Clock) (fresh : Fresh) {text : String}
    (hroute : Route.of? r.method r.path = some (.remove text)) :
    Removes s clock r text (s.respond clock fresh r) := by
  obtain ⟨p, hstatus, heq⟩ | ⟨token, account, hbearer, haccount, heq⟩ :=
    respond_devices s clock fresh hroute rfl
  · rw [heq]
    exact .refused rfl (.inl hstatus)
  · rw [heq, serve, remove]
    cases hparse : Uuid.parse text with
    | error e =>
      exact .refused (markFor_server s r _) (.inr (markFor_status s r _))
    | ok i =>
      -- the device is the account's own, or it counts as unknown
      obtain ⟨d, hd, rfl⟩ | hnot := Identity.unpair_cases s.service.identity account i
      · refine .removed token i d hbearer haccount hparse hd (markFor_server s r _) ?_
        rw [markFor_status]
        simp only [Service.unpair, Identity.unpair_of_found hd]
        rfl
      · have hunpair : s.service.unpair clock.steady account i
            = (s.service, .error Identity.Refusal.unknownDevice.problem) := by
          simp only [Service.unpair, hnot]
        dsimp only
        rw [hunpair]
        exact .refused (markFor_server s r _) (.inr (markFor_status s r _))

/-- What comes of the request for a connection: whoever is turned away leaves the server as it
is, and whoever is not has been let in by the store. -/
inductive Connects (s : Server) (clock : Clock) (fresh : Fresh) (out : Outcome) : Prop
  | refused : out.server = s → out.response.status = 400 ∨ out.response.status = 401 →
      Connects s clock fresh out
  | admitted (as : List Identity.Action) : (∀ a ∈ as, a.IsQuiet) →
      out.server = { s with service := s.service.learn clock.wall as } →
      out.response.status = 400 → Connects s clock fresh out
  | connected (as : List Identity.Action) (p : Principal) :
      (∀ a ∈ as, a.IsQuiet) → (s.service.learn clock.wall as).identity.Admits p →
      out.server = { s with service := ((s.service.learn clock.wall as).connect clock fresh p).1 } →
      out.response.status = 101 → Connects s clock fresh out

theorem connecting (s : Server) (clock : Clock) (fresh : Fresh) (r : Request) :
    Connects s clock fresh (s.connect clock fresh r) := by
  unfold connect
  cases queryTokens r.query with
  | error e => exact .refused rfl (.inl rfl)
  | ok tokens =>
    obtain ⟨token, deviceToken⟩ := tokens
    have hcases := Service.identifying s.service clock.wall token deviceToken
    dsimp only
    generalize s.service.identify clock.wall token deviceToken = out at hcases
    cases hcases with
    | refused p hp => exact .refused rfl (.inr hp)
    | admitted as p has hp =>
      dsimp only
      cases r.upgradeKey with
      | none => exact .admitted as has rfl rfl
      | some key => exact .connected as p has hp rfl rfl

/-- Whoever is told that they are not known leaves the server as it is. -/
theorem respond_unauthorized (hroute : Route.of? r.method r.path = some .connect)
    (hstatus : (s.respond clock fresh r).response.status = 401) :
    (s.respond clock fresh r).server = s := by
  rw [respond_hall hroute rfl] at hstatus ⊢
  rw [markFor_status, serve] at hstatus
  rw [markFor_server, serve]
  have hcases := connecting s clock fresh r
  generalize s.connect clock fresh r = out at hcases hstatus
  cases hcases with
  | refused hserver => exact hserver
  | admitted as _ _ h | connected as p _ _ _ h =>
    rw [hstatus] at h
    cases h

/-- A request shows a device token. -/
def Shows (r : Request) (token : String) : Prop :=
  ∃ access device, queryTokens r.query = .ok (access, device) ∧
    Access.present device = some token

/-- Nobody is let in with a device token that the store does not know. -/
theorem respond_unknown {token : String} (hroute : Route.of? r.method r.path = some .connect)
    (hshows : Shows r token) (hnone : s.service.identity.found token = none) :
    (s.respond clock fresh r).server = s ∧ (s.respond clock fresh r).response.status = 401 := by
  obtain ⟨access, device, hquery, hdevice⟩ := hshows
  have hidentify : ∃ p : Problem, p.status = 401 ∧
      s.service.identify clock.wall access device = (s.service, .error p) := by
    unfold Service.identify Access.Credentials.ofQuery
    rw [hdevice]
    cases Access.present access with
    | some t => exact ⟨_, rfl, rfl⟩
    | none =>
      dsimp only
      rw [Identity.verify_unknown _ _ hnone]
      exact ⟨_, rfl, rfl⟩
  obtain ⟨p, hp, heq⟩ := hidentify
  rw [respond_hall hroute rfl, markFor_server, markFor_status, serve, connect, hquery]
  dsimp only
  rw [heq]
  exact ⟨rfl, hp⟩

/-- What comes of the request for the devices of an account: they are listed, and anybody who is
not known leaves the server as it is. -/
theorem listing (s : Server) (clock : Clock) (fresh : Fresh)
    (hroute : Route.of? r.method r.path = some .list) :
    (s.respond clock fresh r).server = s ∧
      ((s.respond clock fresh r).response.status = 401 ∨
        ∃ token account, bearer? r.headers = some token ∧
          s.service.authenticate clock.wall token = .ok account ∧
          (s.respond clock fresh r).response.status = 200 ∧
          (s.respond clock fresh r).response.body
            = (Json.array ((s.service.devices account).map Service.Listed.toJson)).render) := by
  obtain ⟨p, hstatus, heq⟩ | ⟨token, account, hbearer, haccount, heq⟩ :=
    respond_devices s clock fresh hroute rfl
  · rw [heq]
    exact ⟨rfl, .inl hstatus⟩
  · rw [heq, markFor_server, markFor_status, markFor_body]
    exact ⟨rfl, .inr ⟨token, account, hbearer, haccount, rfl, rfl⟩⟩

/-! ## Any request -/

theorem enter_service (s : Server) (clock : Clock) (r : Request) :
    (s.enter clock r).1.service = s.service := by
  unfold enter
  split
  · rfl
  · split <;> rfl
  · rfl

theorem turns_withForm {α : Type} {form : Json.Form} {toJson : α → Json}
    {f : List String → Service × Except Problem α}
    (hf : ∀ values, Turns s.service clock fresh (f values).1) :
    Turns s.service clock fresh (s.withForm r form toJson f).server.service := by
  unfold withForm
  cases r.form form with
  | error e => exact Service.turns_refl _ _ _
  | ok values => exact hf values

theorem turns_connect (s : Server) (clock : Clock) (fresh : Fresh) (r : Request) :
    Turns s.service clock fresh (s.connect clock fresh r).server.service := by
  have hcases := connecting s clock fresh r
  generalize s.connect clock fresh r = out at hcases
  cases hcases with
  | refused hserver =>
    rw [hserver]
    exact Service.turns_refl _ _ _
  | admitted as has hserver =>
    rw [hserver]
    exact .learns as has
  | connected as p has hp hserver =>
    rw [hserver]
    exact .connects as p has hp

theorem turns_serve (s : Server) (clock : Clock) (fresh : Fresh) (r : Request) (route : Route)
    (account : Option AccountId) :
    Turns s.service clock fresh (s.serve clock fresh r route account).server.service := by
  have hsame (response : Response) :
      Turns s.service clock fresh (Outcome.only s response).server.service :=
    Service.turns_refl _ _ _
  cases route with
  | health => exact hsame _
  | connect => exact turns_connect s clock fresh r
  | register =>
    rw [serve]
    exact turns_withForm fun _ => Service.turns_register _ _ _ _ _
  | login =>
    rw [serve]
    exact turns_withForm fun _ => Service.turns_login _ _ _ _ _
  | refresh =>
    rw [serve]
    exact turns_withForm fun _ => Service.turns_refresh _ _ _ _
  | pair =>
    cases account with
    | none => exact hsame _
    | some account =>
      rw [serve]
      exact turns_withForm fun _ => Service.turns_pair _ _ _ _ _
  | list => cases account <;> exact hsame _
  | remove text =>
    cases account with
    | none => exact hsame _
    | some account =>
      rw [serve, remove]
      split
      · exact hsame _
      · exact Service.turns_unpair _ _ _ _ _

theorem turns_respond (s : Server) (clock : Clock) (fresh : Fresh) (r : Request) :
    Turns s.service clock fresh (s.respond clock fresh r).server.service := by
  -- counting requests leaves the service as it is
  have henter := enter_service s clock r
  unfold respond
  split
  · exact Service.turns_refl _ _ _
  · generalize s.enter clock r = entered at henter
    obtain ⟨s', p | account⟩ := entered <;> dsimp only at henter ⊢ <;> rw [← henter]
    · exact Service.turns_refl _ _ _
    · cases Route.of? r.method r.path with
      | none =>
        dsimp only
        rw [markFor_server]
        exact Service.turns_refl _ _ _
      | some route =>
        dsimp only
        rw [markFor_server]
        exact turns_serve s' clock fresh r route account

end Switchboard.Server
