/-
What becomes of a session while a client is in use.

# Use

The copies of a client share its session and its agent, so a program that
uses a client, under whatever names, is a list of steps (`Step`): it logs
in, in any way, or it calls an endpoint. A step leaves the
client, the agent and the server behind (`Use.next`), and a login that fails
leaves the client as it was.

# The last word

A step that logs in replaces the session by the one that it found, up to the
session with a tenant (`Use.client_next`). So after any steps the client is
the one that the sessions found have led to, one after the other
(`Use.client_after`): token and release are those of the last, and the
session with a tenant is the last one that any of them brought
(`Client.foldl_inSession`).

# Headers

A request carries the headers of the session of its client, and the agent
neither adds to them nor takes any away (`sessionHeaders_dress`,
`sessionHeaders_redirected`).
-/
import Sdwan.Proofs.Api.Building
import Sdwan.Proofs.Api.Calls

namespace Sdwan

open Http Http.Dialogue

variable {α σ : Type}

-- ============================================== sessions, one after another

namespace Client

variable (c : Client)

/-- Where a client is in the end that is put into these sessions. -/
theorem foldl_inSession (ss : List Session) :
    ss.foldl inSession c = { c with
      session := {
        xsrfToken := (ss.getLast?.getD c.session).xsrfToken
        apiVersion := (ss.getLast?.getD c.session).apiVersion
        vsessionId := (ss.filterMap (·.vsessionId)).getLast?.or c.session.vsessionId } } := by
  induction ss generalizing c with
  | nil => rfl
  | cons s ss ih =>
      have hvsession : ((s :: ss).filterMap (·.vsessionId)).getLast?.or c.session.vsessionId
          = (ss.filterMap (·.vsessionId)).getLast?.or (c.inSession s).session.vsessionId := by
        have hstep : (c.inSession s).session.vsessionId
            = s.vsessionId.or c.session.vsessionId := rfl
        rw [hstep]
        cases hs : s.vsessionId <;> cases hlast : (ss.filterMap (·.vsessionId)).getLast? <;>
          simp [hs, hlast, List.getLast?_cons]
      rw [List.foldl_cons, ih, hvsession, List.getLast?_cons]
      cases ss.getLast? <;> rfl

end Client

-- ============================================== use

/-- What a program does with a client. -/
inductive Step : Type 1 where
  /-- Logs in; the way it does is any that finds a session or fails. -/
  | login (authenticate : Action Session)
  | call {α : Type} (k : Call α) (e : Endpoint) (args params : List (String × String))

/-- A client in use, with the agent that carries its requests and with the
server that answers them. -/
structure Use (σ : Type) where
  client : Client
  agent : Agent
  server : σ

namespace Use

variable [Platform] (serve : Server σ) (u : Use σ)

/-- Carries out an action. -/
def speak (a : Action α) : Run σ (Result α × Agent) :=
  Dialogue.run serve (u.agent.speak a.run) u.server

/-- Takes a step. A login that fails has no client to go on with but the
one that was there. -/
def next : Step → Use σ
  | .login authenticate =>
    let r := u.speak serve (u.client.establish authenticate)
    { client := match r.value.1 with
        | .ok c => c
        | .error _ => u.client
      agent := r.value.2
      server := r.server }
  | .call k e args params =>
    let r := u.speak serve (k.action u.client e args params)
    { u with agent := r.value.2, server := r.server }

/-- Takes all steps. -/
def after (steps : List Step) : Use σ := steps.foldl (next serve) u

/-- The session that a step finds. -/
def found? : Step → Option Session
  | .login authenticate => (u.speak serve authenticate).value.1.toOption
  | .call .. => none

/-- The sessions that steps find, in order. -/
def found : Use σ → List Step → List Session
  | _, [] => []
  | u, step :: steps => (u.found? serve step).toList ++ found (u.next serve step) steps

/-- An action that only makes something of a result succeeds with the
result and fails with it. -/
theorem value_speak_map (a : Action α) {β : Type} (f : α → β) :
    (u.speak serve (a >>= fun x => pure (f x))).value.1
      = (u.speak serve a).value.1.map f := by
  have hrun : (a >>= fun x => pure (f x)).run
      = a.run.bind (ExceptT.bindCont fun x => (pure (f x) : Action β)) := rfl
  unfold speak
  rw [hrun, Agent.speak_bind, run_bind]
  dsimp only
  cases (Dialogue.run serve (u.agent.speak a.run) u.server).value.1 <;> rfl

/-- A step changes the client by the session that it finds, if it finds one. -/
theorem client_next (step : Step) :
    (u.next serve step).client = (u.found? serve step).toList.foldl Client.inSession u.client := by
  cases step with
  | call k e args params => rfl
  | login authenticate =>
      have hvalue : (u.speak serve (u.client.establish authenticate)).value.1
          = (u.speak serve authenticate).value.1.map u.client.inSession :=
        u.value_speak_map serve authenticate u.client.inSession
      unfold next found?
      dsimp only
      rw [hvalue]
      cases (u.speak serve authenticate).value.1 <;> rfl

/-- After any steps, the client has gone through the sessions found. -/
theorem client_after (steps : List Step) :
    (u.after serve steps).client = (u.found serve steps).foldl Client.inSession u.client := by
  induction steps generalizing u with
  | nil => rfl
  | cons step steps ih =>
      show ((u.next serve step).after serve steps).client = _
      rw [ih, found, List.foldl_append, client_next]

end Use

-- ============================================== headers

/-- The headers of a session. -/
def Session.headers (s : Session) : Headers :=
  s.xsrfToken.toList.map ("x-xsrf-token", ·) ++ s.vsessionId.toList.map ("vsessionid", ·)

/-- The headers of a request that speak of a session. -/
def Http.Request.sessionHeaders (r : Request) : Headers :=
  r.headers.filter fun h => h.1 == "x-xsrf-token" || h.1 == "vsessionid"

namespace Http

variable {name : String}

theorem sessionHeaders_withHeader (h : name ≠ "x-xsrf-token" ∧ name ≠ "vsessionid") (r : Request)
    (v : String) : (r.withHeader name v).sessionHeaders = r.sessionHeaders := by
  simp [Request.sessionHeaders, Request.withHeader, h.1, h.2]

theorem sessionHeaders_withHeaderIf (h : name ≠ "x-xsrf-token" ∧ name ≠ "vsessionid") (r : Request)
    (v : Option String) : (r.withHeaderIf name v).sessionHeaders = r.sessionHeaders := by
  cases v with
  | none => rfl
  | some v => exact sessionHeaders_withHeader h r v

/-- The agent adds none of the session. -/
theorem sessionHeaders_dress (a : Agent) (r : Request) :
    (a.dress r).sessionHeaders = r.sessionHeaders := by
  unfold Agent.dress
  dsimp only
  split <;> split <;>
    simp (disch := decide) only [sessionHeaders_withHeader, sessionHeaders_withHeaderIf]

theorem headers_redirected [Platform] {r r' : Request} {reply : Reply}
    (h : Agent.redirected? r reply = some r') : r'.headers = r.headers := by
  obtain ⟨d, u, rfl⟩ := Agent.exists_apply_of_redirected h
  cases d <;> rfl

end Http

/-- A request has the headers of the session of its client. -/
theorem Client.sessionHeaders_request (c : Client) (m : Method) (url : Url)
    (params : List (String × String)) (p : Payload) :
    (c.request m url params p).sessionHeaders = c.session.headers := by
  unfold request
  dsimp only
  rw [sessionHeaders_withHeaderIf (by decide)]
  cases hx : c.session.xsrfToken <;> cases hv : c.session.vsessionId <;>
    simp [Request.withHeaderIf, Request.withHeader, Request.sessionHeaders, Session.headers, hx, hv]

/-- So has every request of a call on the wire. -/
theorem Call.sessionHeaders_speak [Platform] (k : Call α) (c : Client) (e : Endpoint)
    (args params : List (String × String)) (a : Agent) :
    AllSent (fun r => r.sessionHeaders = c.session.headers)
      (a.speak (k.action c e args params).run) := by
  refine Agent.allSent_speak_of (fun a r hr => ?_) (fun r reply r' hr hredirect => ?_) a
    (k.allSent_action fun _ path url p _ _ => c.sessionHeaders_request _ url params p)
  · rw [sessionHeaders_dress, hr]
  · rw [Request.sessionHeaders, headers_redirected hredirect]
    exact hr

-- ============================================== from a builder on

/-- A client begins in the session of its builder, with its version pinned
there. -/
theorem ClientBuilder.session_of_build [Platform] {b : ClientBuilder} {files : Files} {c : Client}
    (h : b.build files = .ok c) : c.session = b.session ∧ c.pinnedVersion = b.pinnedVersion := by
  unfold build at h
  cases hcert : b.checkCertificate files with
  | error err =>
      rw [hcert] at h
      cases h
  | ok x =>
      rw [hcert] at h
      cases hagent : isHeaderValue b.userAgent with
      | false =>
          rw [hagent] at h
          cases h
      | true =>
          rw [hagent] at h
          cases hurl : b.hostUrl.resolve "dataservice/" with
          | error err =>
              rw [hurl] at h
              cases h
          | ok url =>
              rw [hurl] at h
              cases h
              exact ⟨rfl, rfl⟩

/-- Whatever is done with a client: its token and its release are those of
the last login that succeeded, and its session with a tenant is the last one
that any login brought; before there is one, they are the builder's. Nothing
else of the client changes, a pinned version stays the version it goes by,
and a session with a tenant is never lost. A login that fails leaves the
client as it is. The requests of a call carry the headers of the session,
those that it has and no others. -/
theorem Use.session_settles [Platform] {b : ClientBuilder} {files : Files} {c : Client}
    (hbuild : b.build files = .ok c) (serve : Server σ) (s : σ) (steps : List Step) :
    let start : Use σ := ⟨c, c.agent, s⟩
    let now := start.after serve steps
    let found := start.found serve steps
    now.client = { c with
        session := {
          xsrfToken := (found.getLast?.getD b.session).xsrfToken
          apiVersion := (found.getLast?.getD b.session).apiVersion
          vsessionId := (found.filterMap (·.vsessionId)).getLast?.or b.session.vsessionId } }
      ∧ now.client.apiVersion? = b.pinnedVersion.or (found.getLast?.getD b.session).apiVersion
      ∧ (∀ authenticate, (∃ err, (now.speak serve authenticate).value.1 = .error err) →
          (now.next serve (.login authenticate)).client = now.client)
      ∧ (∀ more, now.client.session.vsessionId ≠ none →
          (now.after serve more).client.session.vsessionId ≠ none)
      ∧ ∀ {α : Type} (k : Call α) (e : Endpoint) (args params : List (String × String)),
          ∀ r ∈ (now.speak serve (k.action now.client e args params)).requests,
            r.sessionHeaders = now.client.session.headers := by
  intro start now found
  obtain ⟨hsession, hpinned⟩ := ClientBuilder.session_of_build hbuild
  have hnow : now.client = { c with
      session := {
        xsrfToken := (found.getLast?.getD b.session).xsrfToken
        apiVersion := (found.getLast?.getD b.session).apiVersion
        vsessionId := (found.filterMap (·.vsessionId)).getLast?.or b.session.vsessionId } } := by
    rw [start.client_after serve steps, Client.foldl_inSession, ← hsession]
  refine ⟨hnow, ?_, ?_, ?_, ?_⟩
  · rw [hnow, Client.apiVersion?, ← hpinned]
  · rintro authenticate ⟨err, herror⟩
    rw [client_next, found?, herror]
    rfl
  · intro more hset
    rw [now.client_after serve more, Client.foldl_inSession]
    intro hnone
    exact hset (Option.or_eq_none_iff.mp hnone).2
  · intro α k e args params
    exact (k.sessionHeaders_speak now.client e args params now.agent).run serve now.server

section Stock

attribute [local instance] Stock.platform

/-- A provider stays in the session with its tenant through a login that
brings a token and no such session, and through one that fails. -/
theorem Use.session_settles_tenant :
    ∃ c : Client,
      (ClientBuilder.onLocalhost { vsessionId := some "tenant" }).build Files.bare = .ok c
        ∧ (Use.after (fun _ s => (.refused, s)) ⟨c, c.agent, ()⟩
            [.login (pure { xsrfToken := some "token", apiVersion := some ⟨[20, 13]⟩ }),
              .login (throw (.authentication "refused"))]).client.session
          = { xsrfToken := some "token"
              apiVersion := some ⟨[20, 13]⟩
              vsessionId := some "tenant" } := by
  have hbuild := ClientBuilder.build_onLocalhost Files.bare { vsessionId := some "tenant" }
  refine ⟨_, hbuild, ?_⟩
  have hnow := (Use.session_settles hbuild (fun _ s => (.refused, s)) ()
    [.login (pure { xsrfToken := some "token", apiVersion := some ⟨[20, 13]⟩ }),
      .login (throw (.authentication "refused"))]).1
  rw [hnow]
  rfl

end Stock

end Sdwan
