/-
The ways of calling an endpoint, and what they have in common.

They differ in what they send along and in what they make of the reply.
Behind each there is one call (`Call.exists_action_eq`), so what holds of
the requests of that call holds of theirs: every one of them is sent to a
URL that the path of the endpoint leads to, and only behind the check of
the controller's release (`Call.allSent_action`).
-/
import Sdwan.Proofs.Api.Requests
import Sdwan.Proofs.Http.Laws

namespace Sdwan

open Http Http.Dialogue

variable {α β : Type}

/-- Results one behind the other are actions one behind the other. -/
theorem Action.liftM_bind (x : Result α) (f : α → Result β) :
    (liftM (x >>= f) : Action β) = liftM x >>= fun a => liftM (f a) := by
  cases x <;> rfl

/-- A way of calling an endpoint. -/
inductive Call : Type → Type 1 where
  /-- Sends a document, or none, and reads one. -/
  | json {α : Type} (read : Json.Reader α) (body : Option Json) : Call α
  /-- Sends a document, or none; the answer does not matter. -/
  | empty (body : Option Json) : Call Unit
  | text : Call String
  | bytes : Call (List UInt8)
  /-- Leaves the reply as it is. -/
  | custom (payload : Client.Payload) : Call Reply

namespace Call

/-- What a client does for a call. -/
def action [Platform] {α : Type} (k : Call α) (c : Client) (e : Endpoint)
    (args params : List (String × String)) : Action α :=
  match k with
  | json read body => c.callWith e read args params body
  | empty body => c.callEmpty e args params body
  | text => c.callText e args params
  | bytes => c.callBytes e args params
  | custom payload => c.call e args params payload

/-- Each way is a call, of whose reply something is made. -/
theorem exists_action_eq [Platform] (k : Call α) (e : Endpoint) :
    ∃ (p : Client.Payload) (make : Reply → Result α), ∀ c args params,
      k.action c e args params = c.call e args params p >>= fun reply => liftM (make reply) := by
  cases k with
  | json read body =>
      refine ⟨Client.jsonPayload body,
        fun reply => reply.readBody >>= e.readWith read, fun c args params => ?_⟩
      refine congrArg (c.call e args params (Client.jsonPayload body) >>= ·) ?_
      exact funext fun reply => (Action.liftM_bind _ _).symm
  | empty body => exact ⟨_, fun _ => .ok (), fun c args params => rfl⟩
  | text => exact ⟨_, Reply.readText, fun c args params => rfl⟩
  | bytes => exact ⟨_, Reply.readBody, fun c args params => rfl⟩
  | custom payload =>
      exact ⟨payload, .ok, fun c args params => (bind_pure (c.call e args params payload)).symm⟩

end Call

namespace Client

/-- A call that is not let through ends there, and so does what begins with
it. -/
theorem run_call_bind_of_error [Platform] {c : Client} {e : Endpoint}
    {args params : List (String × String)} {p : Payload} {err : Error}
    (h : c.ensureSupported e = .error err) (f : Reply → Action α) :
    (c.call e args params p >>= f).run = .done (.error err) := by
  rw [call, h]
  rfl

/-- What begins with a call that is let through, and that has a URL, sends
something. -/
theorem requests_call_bind_ne_nil [Platform] {σ : Type} {c : Client} {e : Endpoint}
    {args params : List (String × String)} {p : Payload} {path : String} {url : Url}
    (hsupported : c.ensureSupported e = .ok ()) (hpath : e.renderPath args = .ok path)
    (hurl : c.buildUrl path = .ok url) (f : Reply → Action α) (serve : Server σ) (s : σ) :
    (Dialogue.run serve (c.call e args params p >>= f).run s).requests ≠ [] := by
  have hhead := head?_attempts c.settings.retry (c.request e.verb.method url params p) 0
    c.settings.retry.maxRetries.toNat serve s
  have hbind : (c.call e args params p >>= f).run
      = (c.call e args params p).run.bind (ExceptT.bindCont f) := rfl
  rw [hbind, run_bind, run_call hsupported hpath, hurl]
  intro hnil
  dsimp only at hnil
  rw [(List.append_eq_nil_iff.mp hnil).1] at hhead
  cases hhead

end Client

namespace Call

variable {P : Request → Prop}

/-- The same for every way of calling. -/
theorem allSent_action [Platform] (k : Call α) {c : Client} {e : Endpoint}
    {args params : List (String × String)}
    (h : c.ensureSupported e = .ok () → ∀ path url p, e.renderPath args = .ok path →
      c.buildUrl path = .ok url → P (c.request e.verb.method url params p)) :
    AllSent P (k.action c e args params).run := by
  obtain ⟨p, make, hk⟩ := k.exists_action_eq e
  rw [hk]
  have hcall : AllSent P (c.call e args params p).run :=
    Client.allSent_call_of fun hs path url hpath hurl => h hs path url p hpath hurl
  exact Action.allSent_bind hcall fun reply => Action.allSent_lift _

/-- A call that is let through and has a URL sends something. -/
theorem requests_ne_nil [Platform] {σ : Type} (k : Call α) {c : Client} {e : Endpoint}
    {args params : List (String × String)} {path : String} {url : Url}
    (hsupported : c.ensureSupported e = .ok ()) (hpath : e.renderPath args = .ok path)
    (hurl : c.buildUrl path = .ok url) (serve : Server σ) (s : σ) :
    (Dialogue.run serve (k.action c e args params).run s).requests ≠ [] := by
  obtain ⟨p, make, hk⟩ := k.exists_action_eq e
  rw [hk]
  exact Client.requests_call_bind_ne_nil hsupported hpath hurl _ serve s

end Call

end Sdwan
