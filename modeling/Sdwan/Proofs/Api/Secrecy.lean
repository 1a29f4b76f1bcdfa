/-
Where a password goes.

# A configuration

What is made of a configuration does not look at its password: its JSON form,
its checks, and its client. Nothing that is read brings one, and the rest is
read back as it was written.

# A login

The password goes into one form. What follows the post of it does not depend
on the password any more (`Login.run_authenticate`), so with the same answers
a login runs alike for all passwords (`Client.alike_connect`): on the wire they
differ in this form alone. An answer can move the form to another place, and
then the password is sent there, too.
-/
import Sdwan.Proofs.Api.Login
import Sdwan.Proofs.Api.Stored
import Sdwan.Proofs.Http.Forms

namespace Sdwan

open Json Http Http.Dialogue Http.Outcome Url

variable {dir : List (List Char)}

namespace Login

/-- What a login asks when its credentials were accepted. -/
def inquire [Platform] (l : Login) : Action Session := do
  let token ← l.fetchToken
  let info ← l.fetchServerInfo token
  return { xsrfToken := token, apiVersion := info.apiVersion? }

theorem run_authenticate [Platform] {l : Login} (h : l.hostUrl.IsDirectory dir) :
    l.authenticate.run = .send (l.submission dir)
      fun o => ExceptT.bindCont (fun _ => l.inquire) (verdict l.username o) := by
  have hbind : l.authenticate.run
      = l.submit.run.bind (ExceptT.bindCont fun _ => l.inquire) := rfl
  rw [hbind, run_submit h]
  rfl

end Login

namespace Client

variable {config : Config} {files : Files}

/-- Connecting runs alike for all passwords. -/
theorem alike_connect [Platform] {c : Client} (hclient : ofConfig config files = .ok c)
    (hhost : c.hostUrl.IsDirectory dir) (a : Agent) (outcomes : Nat → Outcome) :
    ∃ posts, posts ≠ [] ∧ ∃ rest : Run Nat (Result Client × Agent),
      Moves outcomes 0 (c.hostUrl.below dir ["j_security_check".toList]) posts
        ∧ ∀ password, run (inOrder outcomes)
            (a.speak (connect (config.withPassword password) files).run) 0
          = ⟨rest.value, posts.map (·.withForm
              [("j_username", config.username), ("j_password", password)]) ++ rest.requests,
              rest.server⟩ := by
  let l := c.formLogin config.username ""
  have hsend : (l.submission dir).isSendable = true := by
    rw [Request.isSendable, Bool.and_eq_true]
    exact ⟨hhost.web, rfl⟩
  -- the login of another password differs from `l` in its submission alone
  let next (o : Outcome) : Dialogue (Result Client) :=
    (ExceptT.bindCont (fun _ => l.inquire) (Login.verdict config.username o)).bind
      (ExceptT.bindCont fun session => (pure (c.inSession session) : Action Client))
  have hspeak : ∀ password, a.speak (connect (config.withPassword password) files).run
      = (Agent.exchange Agent.redirectLimit a ((l.submission dir).withForm
          [("j_username", config.username), ("j_password", password)])).bind
        fun x => x.2.speak (next x.1) := by
    intro password
    have hsame : ofConfig (config.withPassword password) files = .ok c := hclient
    have hlogin : (connect (config.withPassword password) files).run
        = (c.formLogin config.username password).authenticate.run.bind
            (ExceptT.bindCont fun session => (pure (c.inSession session) : Action Client)) := by
      rw [connect, hsame, Action.ok_bind]
      rfl
    have hhost' : (c.formLogin config.username password).hostUrl.IsDirectory dir := hhost
    rw [hlogin, Login.run_authenticate hhost']
    rfl
  obtain ⟨posts, hne, hexchange⟩ :=
    Agent.alike_exchange outcomes Agent.redirectLimit a (r := l.submission dir) rfl 0
  obtain ⟨hmoves, rest, hrest⟩ := hexchange.bind fun x => x.2.speak (next x.1)
  refine ⟨posts, hne hsend, rest, hmoves, fun password => ?_⟩
  rw [hspeak]
  exact hrest _

/-- Where no client is made, nothing is sent. -/
theorem run_connect_of_error [Platform] {err : Error} (h : ofConfig config files = .error err)
    (password : String) :
    (connect (config.withPassword password) files).run = .done (.error err) := by
  have hsame : ofConfig (config.withPassword password) files = .error err := h
  rw [connect, hsame]
  rfl

/-- A password stays in the login form.

What is made of a configuration is the same for all passwords: its JSON form,
the findings of its checks, and its client. With the same answers, connecting
comes to the same outcome for all of them, and sends the same requests but for
the password in the form: the form is posted to the login, and once more
wherever an answer to it moves it, and nothing behind that depends on it. A
password is never read, and all else is read back as it was written.

An answer is here what comes over the wire, before the agent makes anything of
it. To the agent a redirect is an answer like all others; behind it, nobody
would see that the form was posted more than once. -/
theorem password_hidden [Platform] (config : Config) (files : Files) :
    (∀ p q : String, encode (config.withPassword p) = encode (config.withPassword q)
        ∧ (config.withPassword p).validate = (config.withPassword q).validate
        ∧ ofConfig (config.withPassword p) files = ofConfig (config.withPassword q) files)
      ∧ (∀ (a : Agent) (outcomes : Nat → Outcome),
          ∃ posts, ∃ rest : Run Nat (Result Client × Agent),
            ((∃ c u, ofConfig config files = .ok c ∧ c.hostUrl.resolve "j_security_check" = .ok u
                ∧ posts ≠ [] ∧ Moves outcomes 0 u posts)
              ∨ posts = [] ∧ rest.requests = [])
            ∧ ∀ p, run (inOrder outcomes)
                  (a.speak (connect (config.withPassword p) files).run) 0
                = ⟨rest.value,
                    posts.map (·.withForm [("j_username", config.username), ("j_password", p)])
                      ++ rest.requests, rest.server⟩)
      ∧ (∀ (j : Json) (c : Config), decode j = .ok c → c.password = none)
      ∧ (∀ (s : String) (c : Config), decodeText s = .ok c → c.password = none)
      ∧ ((∀ v, config.apiVersion = some v → v.components ≠ []) →
          decode (encode config) = .ok { config with password := none }) := by
  refine ⟨fun p q => ⟨rfl, rfl, rfl⟩, fun a outcomes => ?_, fun j c => Config.password_of_decode,
    fun s c => Config.password_of_decodeText, Config.decode_encode_config⟩
  cases hclient : ofConfig config files with
  | ok c =>
      obtain ⟨dir, hhost, -⟩ := (made_of_ofConfig hclient).exists_interface
      obtain ⟨posts, hne, rest, hmoves, hrun⟩ := alike_connect hclient hhost a outcomes
      exact ⟨posts, rest, Or.inl ⟨c, _, rfl, resolve_form hhost, hne, hmoves⟩, hrun⟩
  | error err =>
      refine ⟨[], ⟨(.error err, a), [], 0⟩, Or.inr ⟨rfl, rfl⟩, fun p => ?_⟩
      rw [run_connect_of_error hclient]
      rfl

end Client

-- ============================================== a login that is moved

/-- A controller on this machine. -/
def Config.onLocalhost : Config where
  url := "http://localhost"
  username := "admin"
  apiVersion := some ⟨[20, 12, 1]⟩

/-- A login that is moved to another place, where nothing comes back. -/
def Http.movedLogin : Nat → Outcome
  | 0 => .reply ⟨⟨307⟩, [("location", "/elsewhere")], some []⟩
  | _ => .broken

/-- Connecting there with a password. -/
def Client.runMoved [Platform] (password : String) : Run Nat (Result Client × Agent) :=
  run (inOrder movedLogin)
    (((ClientBuilder.onLocalhost {}).client []).agent.speak
      (connect (Config.onLocalhost.withPassword password) Files.bare).run) 0

/-- The fields of a form. -/
def Http.Body.form? : Body → Option (List (String × String))
  | .form pairs => some pairs
  | _ => none

section Stock

attribute [local instance] Stock.platform

/-- Two passwords lead to one outcome, and the rest of the configuration is
read back. -/
theorem Client.password_hidden_moved :
    (runMoved "secret").value = (runMoved "other").value
      ∧ (∀ v, Config.onLocalhost.apiVersion = some v → v.components ≠ [])
      ∧ decode (encode (Config.onLocalhost.withPassword "secret")) = .ok Config.onLocalhost := by
  obtain ⟨-, hruns, -, -, hback⟩ :=
    password_hidden (Config.onLocalhost.withPassword "secret") Files.bare
  obtain ⟨posts, rest, -, hrun⟩ := hruns ((ClientBuilder.onLocalhost {}).client []).agent movedLogin
  have hnumbered : ∀ v, Config.onLocalhost.apiVersion = some v → v.components ≠ [] := by
    intro v hv
    obtain rfl := Option.some.inj hv
    exact List.cons_ne_nil _ _
  refine ⟨?_, hnumbered, hback hnumbered⟩
  exact (congrArg Run.value (hrun "secret")).trans (congrArg Run.value (hrun "other")).symm

/-- The login is not the only place that a password is sent to. Moved with its
form, it is sent elsewhere, and there the requests of two passwords differ. -/
theorem Client.password_sent_elsewhere :
    ∃ r r', (runMoved "secret").requests[1]? = some r ∧ (runMoved "other").requests[1]? = some r'
      ∧ r.url.text = "http://localhost/elsewhere" ∧ r'.url.text = "http://localhost/elsewhere"
      ∧ r.body.form? = some [("j_username", "admin"), ("j_password", "secret")]
      ∧ r'.body.form? = some [("j_username", "admin"), ("j_password", "other")]
      ∧ r ≠ r' := by
  have hsecret : ((runMoved "secret").requests[1]?.map fun r => (r.url.text, r.body.form?))
      = some ("http://localhost/elsewhere",
          some [("j_username", "admin"), ("j_password", "secret")]) := by
    decide +kernel
  have hother : ((runMoved "other").requests[1]?.map fun r => (r.url.text, r.body.form?))
      = some ("http://localhost/elsewhere",
          some [("j_username", "admin"), ("j_password", "other")]) := by
    decide +kernel
  obtain ⟨r, hr, heq⟩ := Option.map_eq_some_iff.mp hsecret
  obtain ⟨r', hr', heq'⟩ := Option.map_eq_some_iff.mp hother
  obtain ⟨hurl, hform⟩ := Prod.mk.inj heq
  obtain ⟨hurl', hform'⟩ := Prod.mk.inj heq'
  refine ⟨r, r', hr, hr', hurl, hurl', hform, hform', ?_⟩
  rintro rfl
  rw [hform] at hform'
  exact absurd hform' (by decide)

end Stock

end Sdwan
