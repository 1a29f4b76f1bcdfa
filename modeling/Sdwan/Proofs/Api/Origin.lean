/-
Which controller a request goes to.

# Paths

A path is read relative to the interface once its slashes in front are taken
off. What is left may still name a place of its own: behind a blank there
may be more slashes, a backslash counts as one, and an address with a scheme
is taken as it is. `IsLocal` tells the two kinds of paths apart. A local
path stays with the controller; of any other path, all controllers of one
scheme make the same (`buildUrl_of_isLocal`, `buildUrl_of_not_isLocal`). The
paths of endpoints that are made of segments are local whatever their
arguments are.

# The wire

The agent follows redirects, so what is on the wire stays with a controller
that redirects to itself at most (`StaysAt`). The headers of the session are
on all of it in any case.
-/
import Sdwan.Proofs.Api.Paths
import Sdwan.Proofs.Api.Sessions
import Sdwan.Proofs.Url.Reference

namespace Sdwan

open Http Http.Dialogue Url

variable {α σ : Type} {c c' : Client} {path : String}

-- ============================================== paths

namespace Client

/-- The interface is in the place of the host. -/
theorem Made.inPlaceOf [Platform] (h : c.Made) : c.apiUrl.InPlaceOf c.hostUrl := by
  obtain ⟨dir, -, hurl⟩ := h.exists_interface
  rw [hurl]
  rfl

theorem Made.scheme_apiUrl [Platform] (h : c.Made) : c.apiUrl.scheme = c.hostUrl.scheme := by
  rw [h.inPlaceOf]

/-- What a path is read as, relative to the interface. -/
def reference (path : String) : List Char := prepared (path.toList.dropWhile (· == '/'))

/-- What is read of a path is the reference that it makes. -/
theorem prepared_stripped (path : String) :
    prepared (String.ofList (path.toList.dropWhile (· == '/'))).toList = reference path := by
  rw [String.toList_ofList, reference]

/-- A local path stays with the controller. -/
theorem buildUrl_of_isLocal [Platform] (h : c.Made)
    (hlocal : IsLocal c.hostUrl.scheme (reference path)) :
    ∃ url, c.buildUrl path = .ok url ∧ url.origin = c.hostUrl.origin := by
  obtain ⟨dir, hbase⟩ := h.isBase
  rw [← h.scheme_apiUrl] at hlocal
  obtain ⟨url, hurl, hplace⟩ :=
    join_of_isLocal (layout_of_isWeb hbase.web) hbase.path (prepared_stripped path) hlocal
  refine ⟨url, ?_, hplace.origin.trans h.inPlaceOf.origin⟩
  rw [buildUrl, hurl]
  rfl

/-- Any other path leads to the place that it names itself, whatever the
controller is. -/
theorem buildUrl_of_not_isLocal [Platform] (h : c.Made) (h' : c'.Made)
    (hscheme : c'.hostUrl.scheme = c.hostUrl.scheme)
    (hlocal : ¬ IsLocal c.hostUrl.scheme (reference path)) :
    c'.buildUrl path = c.buildUrl path := by
  obtain ⟨dir, hbase⟩ := h.isBase
  obtain ⟨dir', hbase'⟩ := h'.isBase
  rw [← h.scheme_apiUrl] at hlocal
  have hsame : c.apiUrl.scheme = c'.apiUrl.scheme := by
    rw [h.scheme_apiUrl, h'.scheme_apiUrl, hscheme]
  rw [buildUrl, buildUrl,
    join_of_not_isLocal (layout_of_isWeb hbase.web) hsame hbase.path hbase'.path
      (prepared_stripped path) hlocal]

end Client

/-- An endpoint that is made of segments stays with the controller. -/
theorem Endpoint.MadeOf.origin_buildUrl [Platform] {e : Endpoint} {ss : List Template.Segment}
    {args : List (String × String)} {url : Url} (he : e.MadeOf ss) (h : c.Made)
    (hpath : e.renderPath args = .ok path) (hurl : c.buildUrl path = .ok url) :
    url.origin = c.hostUrl.origin := by
  obtain ⟨dir, hbase⟩ := h.isBase
  obtain ⟨vs, hvs, rfl⟩ := he.renderPath_eq_ok.mp hpath
  rw [he.buildUrl_eq hbase hvs] at hurl
  cases hurl
  exact h.inPlaceOf.origin

-- ============================================== the wire

namespace Http

/-- The server sends no request that is at the place to another one. -/
def StaysAt [Platform] (serve : Server σ) (place : List Char × Option Host × Option Nat) : Prop :=
  ∀ q s reply, (serve q s).1 = .reply reply →
    ∀ r r', r.url.origin = place → Agent.redirected? r reply = some r' → r'.url.origin = place

theorem url_withHeaderIf (r : Request) (name : String) (v : Option String) :
    (r.withHeaderIf name v).url = r.url := by
  cases v <;> rfl

theorem url_dress (a : Agent) (r : Request) : (a.dress r).url = r.url := by
  unfold Agent.dress
  dsimp only
  rw [url_withHeaderIf]
  split <;> split <;> simp [Request.withHeader, url_withHeaderIf]

/-- What holds of a request and of all that follow it holds of the whole dialogue. -/
theorem requests_send {P : Request → Prop} {serve : Server σ} {r : Request}
    {next : Outcome → Dialogue α} {s : σ} (hr : P r)
    (hnext : ∀ q ∈ (Dialogue.run serve (next (serve r s).1) (serve r s).2).requests, P q) :
    ∀ q ∈ (Dialogue.run serve (.send r next) s).requests, P q := by
  rw [run_send]
  exact List.forall_mem_cons.mpr ⟨hr, hnext⟩

/-- An exchange with a server that sends nobody away stays where it is. -/
theorem origin_exchange [Platform] {serve : Server σ} {place : List Char × Option Host × Option Nat}
    (hserve : StaysAt serve place) (left : Nat) (a : Agent) {r : Request}
    (hr : r.url.origin = place) (s : σ) :
    ∀ q ∈ (Dialogue.run serve (Agent.exchange left a r) s).requests, q.url.origin = place := by
  induction left generalizing a r s with
  | zero =>
      rw [Agent.exchange]
      split
      · refine requests_send (by rw [url_dress, hr]) ?_
        cases (serve (a.dress r) s).1 with
        | reply reply =>
            dsimp only
            split <;> exact List.forall_mem_nil _
        | refused | unreachable | timedOut | broken => exact List.forall_mem_nil _
      · exact List.forall_mem_nil _
  | succ left ih =>
      rw [Agent.exchange]
      split
      · refine requests_send (by rw [url_dress, hr]) ?_
        cases houtcome : (serve (a.dress r) s).1 with
        | reply reply =>
            dsimp only
            split
            · exact List.forall_mem_nil _
            · next r' hr' => exact ih _ (hserve _ _ _ houtcome r r' hr hr') _
        | refused | unreachable | timedOut | broken => exact List.forall_mem_nil _
      · exact List.forall_mem_nil _

/-- So does a dialogue whose requests are there. -/
theorem origin_speak [Platform] {serve : Server σ} {place : List Char × Option Host × Option Nat}
    (hserve : StaysAt serve place) {d : Dialogue α}
    (h : AllSent (fun r => r.url.origin = place) d) (a : Agent) (s : σ) :
    ∀ q ∈ (Dialogue.run serve (a.speak d) s).requests, q.url.origin = place := by
  induction h generalizing a s with
  | done x => exact List.forall_mem_nil _
  | send head rest ih =>
      rw [Agent.speak, run_bind]
      intro q hq
      rcases List.mem_append.mp hq with hq | hq
      · exact origin_exchange hserve _ a head s q hq
      · exact ih _ _ _ q hq
  | pause rest ih => exact ih a s

end Http

-- ============================================== requests

/-- Everything that is sent to a path goes to the one URL that the path leads
to, in the session of the client. A local path leads to the controller, and
so do the paths of endpoints that are made of segments, whatever their
arguments are; on the wire this is so as long as the controller does not
redirect to another place. Any other path leads to the place that it names
itself: for every controller with the same scheme it is the same URL, or the
same error. The headers of the session are sent wherever a request goes. -/
theorem Client.origin_kept [Platform] (h : c.Made) (m : Method) (path : String)
    (params : List (String × String)) (p : Payload) :
    (∀ {σ : Type} (serve : Server σ) (s : σ) (a : Agent),
        (∀ r ∈ (Dialogue.run serve (c.execute m path params p).run s).requests,
          ∃ url, c.buildUrl path = .ok url ∧ r.url = url.appendQuery params
            ∧ r.sessionHeaders = c.session.headers)
          ∧ ∀ r ∈ (Dialogue.run serve (a.speak (c.execute m path params p).run) s).requests,
              r.sessionHeaders = c.session.headers)
      ∧ (IsLocal c.hostUrl.scheme (reference path) →
          ∀ {σ : Type} (serve : Server σ) (s : σ),
            (Dialogue.run serve (c.execute m path params p).run s).requests ≠ []
              ∧ (∀ r ∈ (Dialogue.run serve (c.execute m path params p).run s).requests,
                  r.url.origin = c.hostUrl.origin)
              ∧ ∀ a : Agent, StaysAt serve c.hostUrl.origin →
                  ∀ r ∈ (Dialogue.run serve (a.speak (c.execute m path params p).run) s).requests,
                    r.url.origin = c.hostUrl.origin)
      ∧ (¬ IsLocal c.hostUrl.scheme (reference path) →
          ∀ c' : Client, c'.Made → c'.hostUrl.scheme = c.hostUrl.scheme →
            c'.buildUrl path = c.buildUrl path)
      ∧ ∀ {α σ : Type} (k : Call α) (e : Endpoint) (ss : List Template.Segment), e.MadeOf ss →
          ∀ (args : List (String × String)) (serve : Server σ) (s : σ),
            ∀ r ∈ (Dialogue.run serve (k.action c e args params).run s).requests,
              r.url.origin = c.hostUrl.origin := by
  have horigin : ∀ (m : Method) (url : Url) (p : Payload),
      (c.request m url params p).url.origin = url.origin := by
    intro m url p
    rw [url_request]
    rfl
  refine ⟨fun serve s a => ⟨?_, ?_⟩, fun hlocal _ serve s => ?_, ?_, ?_⟩
  · refine (allSent_execute_of fun url hurl => ?_).run serve s
    exact ⟨url, hurl, url_request c m url params p, c.sessionHeaders_request m url params p⟩
  · have hall : AllSent (fun r => r.sessionHeaders = c.session.headers)
        (c.execute m path params p).run :=
      allSent_execute_of fun url _ => c.sessionHeaders_request m url params p
    have hwire := Agent.allSent_speak_of
      (P := fun r => r.sessionHeaders = c.session.headers)
      (fun a r hr => by rw [sessionHeaders_dress, hr])
      (fun r reply r' hr hredirect => by
        rw [Request.sessionHeaders, headers_redirected hredirect]
        exact hr)
      a hall
    exact hwire.run serve s
  · obtain ⟨url, hurl, hthere⟩ := buildUrl_of_isLocal h hlocal
    have hall : AllSent (fun r => r.url.origin = c.hostUrl.origin)
        (c.execute m path params p).run := by
      refine allSent_execute_of fun url' hurl' => ?_
      rw [hurl] at hurl'
      cases hurl'
      rw [horigin, hthere]
    refine ⟨?_, hall.run serve s, fun a hserve => origin_speak hserve hall a s⟩
    intro hnil
    have hhead := head?_attempts c.settings.retry (c.request m url params p) 0
      c.settings.retry.maxRetries.toNat serve s
    rw [execute_of_buildUrl hurl] at hnil
    cases hhead.symm.trans (congrArg List.head? hnil)
  · exact fun hlocal c' h' hscheme => buildUrl_of_not_isLocal h h' hscheme hlocal
  · intro α σ k e ss he args serve s
    refine (k.allSent_action fun _ path url p hpath hurl => ?_).run serve s
    rw [horigin, he.origin_buildUrl h hpath hurl]

section Stock

attribute [local instance] Stock.platform

/-- Backslashes are not taken off a path, and two of them lead to another
host, to which the token goes. -/
theorem Client.origin_kept_backslashes :
    let c := (ClientBuilder.onLocalhost { xsrfToken := some "token" }).client []
    (IsLocal c.hostUrl.scheme (reference "//elsewhere/x")
        ∧ ¬ IsLocal c.hostUrl.scheme (reference "\\\\elsewhere/x"))
      ∧ ∀ (serve : Server Unit) (m : Method) (p : Payload),
          ∀ r ∈ (Dialogue.run serve (c.execute m "\\\\elsewhere/x" [] p).run ()).requests,
            r.url.host = some (.domain "elsewhere".toList)
              ∧ r.sessionHeaders = [("x-xsrf-token", "token")] := by
  intro c
  refine ⟨by decide +kernel, fun serve m p r hr => ?_⟩
  have hmade : c.Made := made_onLocalhost _
  obtain ⟨url, hurl, heq, hheaders⟩ :=
    ((origin_kept hmade m "\\\\elsewhere/x" [] p).1 serve () c.agent).1 r hr
  have hhost : (c.buildUrl "\\\\elsewhere/x").toOption.map (·.host)
      = some (some (.domain "elsewhere".toList)) := by
    decide +kernel
  rw [hurl] at hhost
  rw [heq]
  exact ⟨Option.some.inj hhost, hheaders⟩

end Stock

end Sdwan
