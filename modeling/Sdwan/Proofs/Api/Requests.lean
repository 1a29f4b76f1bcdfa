/-
What the requests of an action carry, whatever a server answers.

# Every branch

A server chooses a path through the tree of a dialogue, so what holds of
every request in the tree holds of every run (`AllSent.run`). The property
goes through `bind`, so it is enough to know what an action does first.

# The agent

Between a dialogue and the wire, the agent adds headers and follows
redirects. It sends a body as it is or drops it (`AllSent.speak`), so a
property of the bodies of a dialogue is one of the bodies on the wire.

# Refusals

An action that fails before its first request is `done` at once: no server
sees anything of it (`Refuses.run`).
-/
import Sdwan.Api.Client
import Sdwan.Api.Valid

namespace Sdwan

open Http Validation

-- ============================================== the tree of a dialogue

namespace Http.Dialogue

variable {α β σ : Type} {P Q : Request → Prop}

/-- Every request that a dialogue may send has the property. -/
inductive AllSent (P : Request → Prop) : Dialogue α → Prop where
  | done (a : α) : AllSent P (done a)
  | send {r : Request} {next : Outcome → Dialogue α} (head : P r)
      (rest : ∀ o, AllSent P (next o)) : AllSent P (send r next)
  | pause {ms : Nat} {next : Dialogue α} (rest : AllSent P next) : AllSent P (pause ms next)

namespace AllSent

theorem imp {d : Dialogue α} (h : AllSent P d) (hPQ : ∀ r, P r → Q r) : AllSent Q d := by
  induction h with
  | done a => exact .done a
  | send head rest ih => exact .send (hPQ _ head) ih
  | pause rest ih => exact .pause ih

theorem bind {d : Dialogue α} {f : α → Dialogue β} (hd : AllSent P d)
    (hf : ∀ a, AllSent P (f a)) : AllSent P (d.bind f) := by
  induction hd with
  | done a => exact hf a
  | send head rest ih => exact .send head ih
  | pause rest ih => exact .pause ih

/-- What holds of all requests that may be sent holds of those that are. -/
theorem run {d : Dialogue α} (h : AllSent P d) (serve : Server σ) (s : σ) :
    ∀ r ∈ (Dialogue.run serve d s).requests, P r := by
  induction h generalizing s with
  | done a => exact fun r hr => absurd hr List.not_mem_nil
  | send head rest ih =>
      rw [run_send]
      intro r hr
      rcases List.mem_cons.mp hr with rfl | hr
      · exact head
      · exact ih _ _ r hr
  | pause rest ih => exact ih s

end AllSent

end Http.Dialogue

open Http.Dialogue

-- ============================================== the agent

namespace Http.Agent

variable {α : Type}

@[simp] theorem body_dress (a : Agent) (r : Request) : (a.dress r).body = r.body := by
  have hif : ∀ (r : Request) (name : String) (v : Option String),
      (r.withHeaderIf name v).body = r.body := by
    intro r name v
    cases v <;> rfl
  unfold dress
  simp only [hif]
  split <;> split <;> simp [Request.withHeader, hif]

/-- What a redirect leads to is one of the two. -/
theorem exists_apply_of_redirected [Platform] {r r' : Request} {reply : Reply}
    (h : redirected? r reply = some r') : ∃ (d : Redirect) (u : Url), r' = d.apply r u := by
  obtain ⟨d, -, h⟩ := Option.bind_eq_some_iff.mp h
  obtain ⟨-, -, h⟩ := Option.bind_eq_some_iff.mp h
  obtain ⟨place, -, h⟩ := Option.bind_eq_some_iff.mp h
  obtain ⟨u, -, h⟩ := Option.bind_eq_some_iff.mp h
  exact ⟨d, u, (Option.some.inj h).symm⟩

/-- A redirect leads to the same body or to none. -/
theorem body_redirected [Platform] {r r' : Request} {reply : Reply}
    (h : redirected? r reply = some r') :
    r'.body = r.body ∨ r'.body = .empty := by
  obtain ⟨d, u, rfl⟩ := exists_apply_of_redirected h
  cases d with
  | same => exact Or.inl rfl
  | plain => exact Or.inr rfl

/-- What the agent keeps when it dresses a request, and when it follows a
redirect, holds of all that is on the wire of the request. -/
theorem allSent_exchange_of [Platform] {P : Request → Prop} (hdress : ∀ a r, P r → P (dress a r))
    (hredirect : ∀ r reply r', P r → redirected? r reply = some r' → P r') (left : Nat)
    (a : Agent) (r : Request) (h : P r) : AllSent P (exchange left a r) := by
  induction left generalizing a r with
  | zero =>
      rw [exchange]
      split
      · refine .send (hdress a r h) fun o => ?_
        cases o with
        | reply reply =>
            dsimp only
            split <;> exact .done _
        | refused | unreachable | timedOut | broken => exact .done _
      · exact .done _
  | succ left ih =>
      rw [exchange]
      split
      · refine .send (hdress a r h) fun o => ?_
        cases o with
        | reply reply =>
            dsimp only
            split
            · exact .done _
            · next r' hr' => exact ih _ r' (hredirect r reply r' h hr')
        | refused | unreachable | timedOut | broken => exact .done _
      · exact .done _

/-- It holds of all that a dialogue brings on the wire, if it holds of the
requests of the dialogue. -/
theorem allSent_speak_of [Platform] {P : Request → Prop} (hdress : ∀ a r, P r → P (dress a r))
    (hredirect : ∀ r reply r', P r → redirected? r reply = some r' → P r') {d : Dialogue α}
    (a : Agent) (h : AllSent P d) : AllSent P (a.speak d) := by
  induction h generalizing a with
  | done v => exact .done _
  | send head rest ih =>
      exact (allSent_exchange_of hdress hredirect redirectLimit a _ head).bind
        fun (o, a) => ih o a
  | pause rest ih => exact .pause (ih a)

/-- What a dialogue brings on the wire carries the bodies of its requests,
or nothing. -/
theorem allSent_speak [Platform] {P : Body → Prop} (hempty : P .empty) {d : Dialogue α} (a : Agent)
    (h : AllSent (fun r => P r.body) d) : AllSent (fun r => P r.body) (a.speak d) := by
  refine allSent_speak_of (fun a r hr => ?_) (fun r reply r' hr hredirect => ?_) a h
  · rwa [body_dress]
  · rcases body_redirected hredirect with heq | heq
    · rwa [heq]
    · rwa [heq]

end Http.Agent

-- ============================================== actions

namespace Action

variable {α β σ : Type} {P : Request → Prop}

/-- The action fails the checks of a model, before any request. -/
def Refuses (a : Action α) : Prop := ∃ text, a.run = .done (.error (.validation text))

/-- Nobody sees anything of a refusal but the error. -/
theorem Refuses.run {a : Action α} (h : Refuses a) (serve : Server σ) (s : σ) :
    (∃ text, (Dialogue.run serve a.run s).value = .error (.validation text))
      ∧ (Dialogue.run serve a.run s).requests = [] := by
  obtain ⟨text, h⟩ := h
  rw [h]
  exact ⟨⟨text, rfl⟩, rfl⟩

/-- What comes behind a result that is an error does not happen. -/
theorem run_error_bind (e : Error) (f : α → Action β) :
    ((liftM (Except.error e : Result α) : Action α) >>= f).run = .done (.error e) := rfl

/-- What comes behind a result that is there goes on with it. -/
theorem ok_bind (a : α) (f : α → Action β) :
    ((liftM (Except.ok a : Result α) : Action α) >>= f) = f a := rfl

/-- An action sends what its first part sends, and then what follows. -/
theorem allSent_bind {a : Action α} {f : α → Action β} (ha : AllSent P a.run)
    (hf : ∀ x, AllSent P (f x).run) : AllSent P (a >>= f).run := by
  refine AllSent.bind ha fun x => ?_
  cases x with
  | ok x => exact hf x
  | error e => exact .done _

/-- A result sends nothing. -/
theorem allSent_lift (x : Result α) : AllSent P (liftM x : Action α).run := by
  cases x <;> exact .done _

end Action

-- ============================================== checks

/-- A model that passes its checks is let through. -/
theorem requireValid_of_nil {α : Type} [Checked α] {a : α} (h : check a = []) :
    requireValid a = .ok () := by
  rw [requireValid, h]

/-- A model that does not pass is refused, with its report. -/
theorem requireValid_of_ne {α : Type} [Checked α] {a : α} (h : check a ≠ []) :
    requireValid a = .error (.validation (check a).text) := by
  rw [requireValid]
  split
  · next hnil => exact absurd hnil h
  · rfl

-- ============================================== calls

namespace Client

variable {α : Type}

theorem body_request (c : Client) (m : Method) (url : Url) (params : List (String × String))
    (p : Payload) : (c.request m url params p).body = p.body := by
  unfold request
  cases c.session.xsrfToken <;> cases c.session.vsessionId <;> cases p.accept <;> rfl

/-- All attempts send the same request. -/
theorem allSent_attempts [Platform] {P : Request → Prop} (p : RetryPolicy) {r : Request} (h : P r)
    (attempt left : Nat) : AllSent P (attempts p r attempt left) := by
  induction left generalizing attempt with
  | zero =>
      refine .send h fun o => ?_
      split <;> exact .done _
  | succ left ih =>
      refine .send h fun o => ?_
      split
      · exact .done _
      · exact .done _
      · exact .pause (ih (attempt + 1))

/-- What holds of the request to the URL of a path holds of all that is sent
to the path. -/
theorem allSent_execute_of [Platform] {P : Request → Prop} {c : Client} {m : Method} {path : String}
    {params : List (String × String)} {p : Payload}
    (h : ∀ url, c.buildUrl path = .ok url → P (c.request m url params p)) :
    AllSent P (c.execute m path params p).run := by
  unfold execute
  cases hurl : c.buildUrl path with
  | error err => exact .done _
  | ok url => exact allSent_attempts _ (h url hurl) _ _

/-- What holds of the request to each URL of the path holds of all that a
call sends, if the call is let through at all. -/
theorem allSent_call_of [Platform] {P : Request → Prop} {c : Client} {e : Endpoint}
    {args params : List (String × String)} {p : Payload}
    (h : c.ensureSupported e = .ok () → ∀ path url, e.renderPath args = .ok path →
      c.buildUrl path = .ok url → P (c.request e.verb.method url params p)) :
    AllSent P (c.call e args params p).run := by
  unfold call
  cases hsupported : c.ensureSupported e with
  | error err => exact .done _
  | ok x =>
      rw [Action.ok_bind]
      cases hpath : e.renderPath args with
      | error err => exact .done _
      | ok path =>
          rw [Action.ok_bind]
          exact allSent_execute_of fun url hurl => h hsupported path url hpath hurl

/-- All requests of a call have its body. -/
theorem allSent_call [Platform] (c : Client) (e : Endpoint) (args params : List (String × String))
    (p : Payload) : AllSent (fun r => r.body = p.body) (c.call e args params p).run :=
  allSent_call_of fun _ _ url _ _ => body_request c _ url params p

/-- All requests of a call with a JSON document carry the document. -/
theorem allSent_callJson [Platform] (c : Client) (e : Endpoint) (α : Type) [Json.Coded α]
    (args params : List (String × String)) (j : Json) :
    AllSent (fun r => r.body = .json j) (c.callJson e α args params (some j)).run := by
  unfold callJson callWith
  refine Action.allSent_bind (allSent_call c e args params (jsonPayload (some j))) fun reply => ?_
  refine Action.allSent_bind (Action.allSent_lift _) fun bytes => ?_
  exact Action.allSent_lift _

/-- The same where the answer does not matter. -/
theorem allSent_callEmpty [Platform] (c : Client) (e : Endpoint)
    (args params : List (String × String))
    (j : Json) : AllSent (fun r => r.body = .json j) (c.callEmpty e args params (some j)).run := by
  unfold callEmpty
  refine Action.allSent_bind (allSent_call c e args params (jsonPayload (some j))) fun _ => ?_
  exact .done _

-- ============================================== the first request

/-- The attempts begin with the request. -/
theorem head?_attempts [Platform] {σ : Type} (p : RetryPolicy) (r : Request) (attempt left : Nat)
    (serve : Server σ) (s : σ) :
    (Dialogue.run serve (attempts p r attempt left) s).requests.head? = some r := by
  cases left with
  | zero => rw [attempts, run_send, List.head?_cons]
  | succ left => rw [attempts, run_send, List.head?_cons]

/-- A call that is let through sends its request, unless its path leads to
no URL. -/
theorem run_call [Platform] {c : Client} {e : Endpoint} {args : List (String × String)}
    {path : String}
    (hsupported : c.ensureSupported e = .ok ()) (hpath : e.renderPath args = .ok path)
    (params : List (String × String)) (p : Payload) :
    (c.call e args params p).run
      = match c.buildUrl path with
        | .ok url => attempts c.settings.retry (c.request e.verb.method url params p) 0
            c.settings.retry.maxRetries.toNat
        | .error err => .done (.error err) := by
  rw [call, hsupported, Action.ok_bind, hpath, Action.ok_bind, execute]
  cases c.buildUrl path with
  | ok url => rfl
  | error err => rfl

/-- An endpoint that all releases have is let through. -/
theorem ensureSupported_of_versions {e : Endpoint} (h : e.versions = none) (c : Client) :
    c.ensureSupported e = .ok () := by
  rw [ensureSupported, Endpoint.constraint?, h]
  rfl

/-- A run that begins with the request to a path; when the path leads to
no URL, this is the error, and nothing is sent. -/
def Opens [Platform] {α σ : Type} (c : Client) (path : String) (request : Url → Request)
    (r : Run σ (Result α)) : Prop :=
  (∀ url, c.buildUrl path = .ok url → r.requests.head? = some (request url))
    ∧ ∀ err, c.buildUrl path = .error err → r.value = .error err ∧ r.requests = []

/-- What an action opens with is what its first part opens with. -/
theorem opens_bind [Platform] {α β σ : Type} {c : Client} {path : String} {request : Url → Request}
    {serve : Server σ} {a : Action α} {s : σ}
    (h : Opens c path request (Dialogue.run serve a.run s))
    (f : α → Action β) : Opens c path request (Dialogue.run serve (a >>= f).run s) := by
  have hrun : (a >>= f).run = a.run.bind (ExceptT.bindCont f) := rfl
  unfold Opens
  rw [hrun, run_bind]
  refine ⟨fun url hurl => ?_, fun err hurl => ?_⟩
  · dsimp only
    rw [List.head?_append, h.1 url hurl]
    rfl
  · obtain ⟨hvalue, hrequests⟩ := h.2 err hurl
    dsimp only
    rw [hvalue, hrequests]
    exact ⟨rfl, rfl⟩

/-- A call of an endpoint that all releases have opens with its request. -/
theorem opens_call [Platform] {σ : Type} {e : Endpoint} (hversions : e.versions = none)
    {args : List (String × String)} {path : String} (hpath : e.renderPath args = .ok path)
    (c : Client) (params : List (String × String)) (p : Payload) (serve : Server σ) (s : σ) :
    Opens c path (fun url => c.request e.verb.method url params p)
      (Dialogue.run serve (c.call e args params p).run s) := by
  unfold Opens
  rw [run_call (ensureSupported_of_versions hversions c) hpath]
  refine ⟨fun url hurl => ?_, fun err hurl => ?_⟩
  · rw [hurl]
    exact head?_attempts _ _ _ _ serve s
  · rw [hurl]
    exact ⟨rfl, rfl⟩

/-- A path that leads to no URL is an error of the path. -/
theorem eq_invalidEndpoint_of_buildUrl [Platform] {c : Client} {path : String} {err : Error}
    (h : c.buildUrl path = .error err) : ∃ text, err = .invalidEndpoint text := by
  rw [buildUrl] at h
  cases hjoin : c.apiUrl.join (String.ofList (path.toList.dropWhile (· == '/'))) with
  | ok url =>
      rw [hjoin] at h
      cases h
  | error e =>
      rw [hjoin] at h
      exact ⟨_, (Except.error.inj h).symm⟩

end Client

end Sdwan
