/-
A login with a form, answer by answer.

# Steps

A login asks three times, and each of the three sends one request and makes
a result of what comes back (`Action.Asks`). What has to come back is said
without the program's own checks: `Accepts`, `Grants` and `Describes`. A page
for people is told from an answer by how its text begins (`IsPage`). Steps one
behind the other stop at the first that fails (`Action.Asks.run_of_not`).

# The wire

A dialogue does not see the agent. To it, the agent and what is behind it are
a server of their own (`Agent.relay`), so what holds for all servers holds on
the wire, with the answers that the agent brings back in the end.
-/
import Sdwan.Proofs.Api.Config
import Sdwan.Proofs.Http.Laws
import Sdwan.Proofs.Success

namespace Sdwan

open Http Http.Dialogue Url

variable {α β σ : Type}

-- ============================================== pages

/-- A page for people: behind blanks, the text begins with one of two marks,
in letters of either case. -/
def IsPage (body : String) : Prop :=
  ∃ blanks mark rest, body.toList = blanks ++ mark ++ rest
    ∧ (∀ c ∈ blanks, Text.isBlank c = true)
    ∧ (mark.map Text.lowerAscii = "<html".toList ∨ mark.map Text.lowerAscii = "<!doctype".toList)

/-- Only the angle bracket itself becomes one in lower case. -/
theorem eq_of_lowerAscii_eq {c : Char} (h : Text.lowerAscii c = '<') : c = '<' := by
  by_cases hupper : 'A' ≤ c ∧ c ≤ 'Z'
  · refine Text.forall_ascii (P := fun c => Text.lowerAscii c = '<' → c = '<') ?_
      (Text.toNat_lt_of_le hupper.2 (by decide)) h
    decide +kernel
  · rwa [Text.lowerAscii, if_neg hupper] at h

/-- Whether a text begins with a mark behind its blanks. -/
theorem isPrefixOf_lower_iff {mark cs : List Char} (hmark : mark.head? = some '<') :
    mark.isPrefixOf ((Text.trimStart cs).map Text.lowerAscii) = true
      ↔ ∃ blanks text rest, cs = blanks ++ text ++ rest
          ∧ (∀ c ∈ blanks, Text.isBlank c = true) ∧ text.map Text.lowerAscii = mark := by
  rw [List.isPrefixOf_iff_prefix]
  constructor
  · rintro ⟨behind, heq⟩
    obtain ⟨text, rest, hsplit, htext, -⟩ := List.map_eq_append_iff.mp heq.symm
    refine ⟨cs.takeWhile Text.isBlank, text, rest, ?_, fun c hc => ?_, htext⟩
    · rw [List.append_assoc, ← hsplit, Text.trimStart, List.takeWhile_append_dropWhile]
    · exact List.mem_takeWhile_imp hc
  · rintro ⟨blanks, text, rest, rfl, hblanks, rfl⟩
    -- the mark begins with a bracket, which is not blank, so trimming stops in front of it
    cases text with
    | nil => cases hmark
    | cons c text =>
        obtain rfl := eq_of_lowerAscii_eq (Option.some.inj hmark)
        rw [Text.trimStart, List.append_assoc, List.dropWhile_append_of_pos hblanks,
          List.cons_append, List.dropWhile_cons_of_neg (by decide), ← List.cons_append,
          List.map_append]
        exact List.prefix_append _ _

/-- A body looks like a page if it is one. -/
theorem looksLikeHtml_iff (body : String) : looksLikeHtml body = true ↔ IsPage body := by
  rw [looksLikeHtml, Bool.or_eq_true, isPrefixOf_lower_iff (by decide),
    isPrefixOf_lower_iff (by decide), IsPage]
  constructor
  · rintro (⟨blanks, mark, rest, heq, hblanks, hmark⟩ | ⟨blanks, mark, rest, heq, hblanks, hmark⟩)
    · exact ⟨blanks, mark, rest, heq, hblanks, Or.inl hmark⟩
    · exact ⟨blanks, mark, rest, heq, hblanks, Or.inr hmark⟩
  · rintro ⟨blanks, mark, rest, heq, hblanks, hmark | hmark⟩
    · exact Or.inl ⟨blanks, mark, rest, heq, hblanks, hmark⟩
    · exact Or.inr ⟨blanks, mark, rest, heq, hblanks, hmark⟩

-- ============================================== answers

namespace Http.Outcome

/-- The credentials were accepted. What cannot be read counts as nothing. -/
def Accepts [Platform] (o : Outcome) : Prop :=
  ∃ r, o = .reply r ∧ r.status.isSuccess = true ∧ ¬ IsPage (r.text?.getD "")

/-- The token that came, or word that there are none. -/
def Grants [Platform] (o : Outcome) (token : Option String) : Prop :=
  ∃ r, o = .reply r
    ∧ ((r.status.code = 404 ∧ token = none)
      ∨ (r.status.isSuccess = true
        ∧ ∃ body, r.text? = some body ∧ ¬ IsPage body ∧ token = some (Text.trimmed body)))

/-- The controller said this about itself. What counts are the bytes of the
answer, whatever text they may be taken for. -/
def Describes (o : Outcome) (info : ServerInfo) : Prop :=
  ∃ r bytes, o = .reply r ∧ r.status.isSuccess = true ∧ r.body = some bytes
    ∧ ServerInfo.ofBytes? bytes = some info

end Http.Outcome

open Outcome

-- ============================================== one step

/-- The action sends one request and makes a result of what comes back:
exactly where `P` holds, it succeeds. -/
def Action.Asks (a : Action α) (r : Request) (P : Outcome → α → Prop) : Prop :=
  ∃ make : Outcome → Result α, a.run = .send r (fun o => .done (make o))
    ∧ ∀ o x, make o = .ok x ↔ P o x

namespace Action

variable {a : Action α} {r : Request} {P : Outcome → α → Prop}

/-- One step by itself. -/
theorem Asks.run (h : a.Asks r P) (serve : Server σ) (s : σ) :
    (Dialogue.run serve a.run s).requests = [r]
      ∧ ∀ x, (Dialogue.run serve a.run s).value = .ok x ↔ P (serve r s).1 x := by
  obtain ⟨make, hrun, hmake⟩ := h
  rw [hrun, run_send]
  exact ⟨rfl, hmake (serve r s).1⟩

/-- What only makes something of the value is a step, too. -/
theorem Asks.bind_pure (h : a.Asks r P) (f : α → β) :
    (a >>= fun x => pure (f x)).Asks r fun o y => ∃ x, P o x ∧ f x = y := by
  obtain ⟨make, hrun, hmake⟩ := h
  refine ⟨fun o => (make o).map f, ?_, fun o y => ?_⟩
  · have hbind : (a >>= fun x => pure (f x)).run
        = a.run.bind (ExceptT.bindCont fun x => (pure (f x) : Action β)) := rfl
    rw [hbind, hrun, Dialogue.bind]
    refine congrArg (Dialogue.send r) (funext fun o => ?_)
    dsimp only
    cases make o <;> rfl
  · rw [ok_map_iff]
    exact exists_congr fun x => and_congr_left fun _ => hmake o x

/-- Where a step fails, it is the last one. -/
theorem Asks.run_of_not (h : a.Asks r P) (f : α → Action β) (serve : Server σ) (s : σ)
    (hno : ∀ x, ¬ P (serve r s).1 x) :
    (Dialogue.run serve (a >>= f).run s).requests = [r]
      ∧ ∃ err, (Dialogue.run serve (a >>= f).run s).value = .error err := by
  obtain ⟨make, hrun, hmake⟩ := h
  have hbind : (a >>= f).run = a.run.bind (ExceptT.bindCont f) := rfl
  rw [hbind, hrun, Dialogue.bind, run_send]
  cases hvalue : make (serve r s).1 with
  | ok x => exact absurd ((hmake _ x).mp hvalue) (hno x)
  | error err =>
      simp only [Dialogue.bind, hvalue]
      exact ⟨rfl, err, rfl⟩

/-- Where it succeeds, what follows goes on from there. -/
theorem Asks.run_of (h : a.Asks r P) (f : α → Action β) (serve : Server σ) (s : σ) {x : α}
    (hx : P (serve r s).1 x) :
    (Dialogue.run serve (a >>= f).run s).requests
        = r :: (Dialogue.run serve (f x).run (serve r s).2).requests
      ∧ (Dialogue.run serve (a >>= f).run s).value
        = (Dialogue.run serve (f x).run (serve r s).2).value := by
  obtain ⟨make, hrun, hmake⟩ := h
  have hbind : (a >>= f).run = a.run.bind (ExceptT.bindCont f) := rfl
  rw [hbind, hrun, Dialogue.bind, run_send]
  simp only [Dialogue.bind, (hmake _ x).mpr hx]
  exact ⟨rfl, rfl⟩

end Action

/-- Refusing what fails a check is a result. -/
theorem Action.run_refuse_if (check : Bool) (e : Error) (x : α) :
    (if check = true then throw e else pure x : Action α).run
      = .done (if check = true then .error e else .ok x) := by
  cases check <;> rfl

namespace Login

variable {l : Login} {dir : List (List Char)}

/-- The request with the credentials. -/
def submission (l : Login) (dir : List (List Char)) : Request where
  method := .post
  url := l.hostUrl.below dir ["j_security_check".toList]
  body := .form [("j_username", l.username), ("j_password", l.password)]

/-- The request for a token. -/
def tokenRequest (l : Login) (dir : List (List Char)) : Request where
  method := .get
  url := l.hostUrl.below dir ["dataservice".toList, "client".toList, "token".toList]

/-- The question what the controller is, with the token if there is one. -/
def infoRequest (l : Login) (dir : List (List Char)) (token : Option String) : Request where
  method := .get
  url := l.hostUrl.below dir ["dataservice".toList, "client".toList, "server".toList]
  headers := ("accept", "application/json") :: token.toList.map ("x-xsrf-token", ·)

/-- What is made of the answer to the credentials. -/
def verdict [Platform] (username : String) (o : Outcome) : Result Unit :=
  o.replyOrFail.bind fun reply =>
    if !reply.status.isSuccess || looksLikeHtml (reply.text?.getD "") then
      .error (.authentication ("login rejected for user " ++ Text.backquoted username))
    else .ok ()

/-- Submitting the form sends it, and judges by the outcome. -/
theorem run_submit [Platform] (h : l.hostUrl.IsDirectory dir) :
    l.submit.run = .send (l.submission dir) fun o => .done (verdict l.username o) := by
  unfold submit
  rw [resolve_form h]
  refine congrArg (Dialogue.send _) (funext fun o => ?_)
  cases o with
  | reply reply => exact Action.run_refuse_if _ _ ()
  | refused | unreachable | timedOut | broken => rfl

/-- Submitting asks whether the controller accepts the form. -/
theorem asks_submit [Platform] (h : l.hostUrl.IsDirectory dir) :
    l.submit.Asks (l.submission dir) fun o _ => Accepts o := by
  refine ⟨verdict l.username, run_submit h, fun o _ => ?_⟩
  cases o with
  | reply reply =>
      simp [verdict, Outcome.replyOrFail, Except.bind, Accepts, ← looksLikeHtml_iff]
  | refused | unreachable | timedOut | broken =>
      simp [verdict, Outcome.replyOrFail, Except.bind, Accepts]

/-- The paths of the login lie below the interface. -/
theorem resolve_below [Platform] {ws : List (List Char)} {text : String}
    (h : l.hostUrl.IsDirectory dir)
    (hapi : l.apiUrl = l.hostUrl.interface dir) (hws : IsReference ws)
    (hno : ∀ w ∈ ws, ¬ IsDots w) (hne : ws ≠ [[]])
    (htext : String.ofList (Text.joined '/' ws) = text) :
    l.apiUrl.resolve text = .ok (l.hostUrl.below dir ("dataservice".toList :: ws)) := by
  have hdir : l.apiUrl.IsDirectory (dir ++ ["dataservice".toList]) :=
    hapi ▸ (isBase_interface h).toIsDirectory
  rw [resolve_joined hdir hws hno hne htext, hapi]
  simp [below, interface]

/-- The token is asked for at its path. -/
theorem resolve_token [Platform] (h : l.hostUrl.IsDirectory dir)
    (hapi : l.apiUrl = l.hostUrl.interface dir) :
    l.apiUrl.resolve "client/token" = .ok (l.tokenRequest dir).url :=
  resolve_below h hapi ⟨by simp, by decide +kernel, by decide +kernel, Or.inr (by decide)⟩
    (by decide +kernel) (by decide) (by decide +kernel)

/-- Fetching the token asks what the controller grants. -/
theorem asks_fetchToken [Platform] (h : l.hostUrl.IsDirectory dir)
    (hapi : l.apiUrl = l.hostUrl.interface dir) :
    l.fetchToken.Asks (l.tokenRequest dir) Grants := by
  refine ⟨fun o => o.replyOrFail.bind fun reply =>
    if (reply.status.code == 404) = true then .ok none
    else reply.readText.bind fun body =>
      if (!reply.status.isSuccess || looksLikeHtml body) = true then
        .error (.authentication ("failed to obtain XSRF token (" ++ reply.status.text ++ ")"))
      else .ok (some (Text.trimmed body)), ?_, fun o token => ?_⟩
  · unfold fetchToken
    rw [resolve_token h hapi]
    refine congrArg (Dialogue.send _) (funext fun o => ?_)
    cases o with
    | reply reply =>
        show ExceptT.run (if (reply.status.code == 404) = true then pure none
          else (liftM reply.readText : Action String) >>= fun body =>
            if (!reply.status.isSuccess || looksLikeHtml body) = true then throw _
            else pure (some (Text.trimmed body)) : Action (Option String)) = _
        simp only [Outcome.replyOrFail, Except.bind]
        cases reply.status.code == 404 with
        | true => rfl
        | false =>
            cases reply.readText with
            | ok body => exact Action.run_refuse_if _ _ _
            | error err => rfl
    | refused | unreachable | timedOut | broken => rfl
  · cases o with
    | reply reply =>
        -- a missing token is told by a status that is no success
        have hfails : reply.status.code = 404 → reply.status.isSuccess = false := by
          intro hcode
          simp [Status.isSuccess, hcode]
        by_cases hcode : reply.status.code = 404
        · simp [Outcome.replyOrFail, Except.bind, Grants, hcode, hfails hcode, @eq_comm _ token]
        · cases htext : reply.text? with
          | none => simp [Outcome.replyOrFail, Except.bind, Grants, Reply.readText, hcode, htext]
          | some body =>
              cases hsuccess : reply.status.isSuccess <;> cases hpage : looksLikeHtml body <;>
                simp [Outcome.replyOrFail, Except.bind, Grants, Reply.readText, hcode, htext,
                  hsuccess, hpage, ← looksLikeHtml_iff, @eq_comm _ token]
    | refused | unreachable | timedOut | broken =>
        simp [Outcome.replyOrFail, Except.bind, Grants]

/-- The server is asked for at its path. -/
theorem resolve_server [Platform] (h : l.hostUrl.IsDirectory dir)
    (hapi : l.apiUrl = l.hostUrl.interface dir) :
    l.apiUrl.resolve "client/server" = .ok (l.infoRequest dir none).url :=
  resolve_below h hapi ⟨by simp, by decide +kernel, by decide +kernel, Or.inr (by decide)⟩
    (by decide +kernel) (by decide) (by decide +kernel)

/-- Fetching the information asks how the server describes itself. -/
theorem asks_fetchServerInfo [Platform] (h : l.hostUrl.IsDirectory dir)
    (hapi : l.apiUrl = l.hostUrl.interface dir) (token : Option String) :
    (l.fetchServerInfo token).Asks (l.infoRequest dir token) Describes := by
  refine ⟨fun o => o.replyOrFail.bind fun reply =>
    if (!reply.status.isSuccess) = true then
      .error (.ofReply reply.status (reply.text?.getD ""))
    else (reply.body.bind ServerInfo.ofBytes?).elim
      (.error (.parse "invalid /client/server response")) .ok, ?_, fun o info => ?_⟩
  · have hrequest : l.infoRequest dir token
        = (l.infoRequest dir none).withHeaderIf "x-xsrf-token" token := by
      cases token <;> rfl
    unfold fetchServerInfo
    rw [resolve_server h hapi, hrequest]
    refine congrArg (Dialogue.send _) (funext fun o => ?_)
    cases o with
    | reply reply =>
        change ExceptT.run ((liftM (Except.ok reply) : Action Reply) >>= _) = _
        rw [Action.ok_bind]
        simp only [Outcome.replyOrFail, Except.bind]
        cases reply.status.isSuccess with
        | false => rfl
        | true =>
            -- a body that broke off is taken for one that cannot be read
            cases reply.body.bind ServerInfo.ofBytes? with
            | some info => rfl
            | none => rfl
    | refused | unreachable | timedOut | broken => rfl
  · cases o with
    | reply reply =>
        cases hsuccess : reply.status.isSuccess with
        | false => simp [Outcome.replyOrFail, Except.bind, Describes, hsuccess]
        | true =>
            cases hbody : reply.body with
            | none => simp [Outcome.replyOrFail, Except.bind, Describes, hsuccess, hbody]
            | some bytes =>
                cases hread : ServerInfo.ofBytes? bytes <;>
                  simp [Outcome.replyOrFail, Except.bind, Describes, hsuccess, hbody, hread]
    | refused | unreachable | timedOut | broken =>
        simp [Outcome.replyOrFail, Except.bind, Describes]

-- ============================================== the whole

variable (serve : Server σ) (s : σ)

/-- Without credentials that are accepted there is one request. -/
theorem authenticate_of_not_accepts [Platform] (h : l.hostUrl.IsDirectory dir)
    (hno : ¬ (serve (l.submission dir) s).1.Accepts) :
    (Dialogue.run serve l.authenticate.run s).requests = [l.submission dir]
      ∧ ∃ err, (Dialogue.run serve l.authenticate.run s).value = .error err :=
  (asks_submit h).run_of_not _ serve s fun _ => hno

/-- What follows when they are accepted. -/
theorem authenticate_of_accepts [Platform] (h : l.hostUrl.IsDirectory dir)
    (haccepts : (serve (l.submission dir) s).1.Accepts) :
    let rest := Dialogue.run serve (l.fetchToken >>= fun token => l.fetchServerInfo token >>=
      fun info => pure { xsrfToken := token, apiVersion := info.apiVersion? : Session }).run
        (serve (l.submission dir) s).2
    (Dialogue.run serve l.authenticate.run s).requests = l.submission dir :: rest.requests
      ∧ (Dialogue.run serve l.authenticate.run s).value = rest.value :=
  (asks_submit h).run_of _ serve s (x := ()) haccepts

/-- Without a token, or word that there are none, there are two requests. -/
theorem authenticate_of_not_grants [Platform] (h : l.hostUrl.IsDirectory dir)
    (hapi : l.apiUrl = l.hostUrl.interface dir)
    (haccepts : (serve (l.submission dir) s).1.Accepts)
    (hno : ∀ token,
      ¬ (serve (l.tokenRequest dir) (serve (l.submission dir) s).2).1.Grants token) :
    (Dialogue.run serve l.authenticate.run s).requests = [l.submission dir, l.tokenRequest dir]
      ∧ ∃ err, (Dialogue.run serve l.authenticate.run s).value = .error err := by
  obtain ⟨hrequests, hvalue⟩ := authenticate_of_accepts serve s h haccepts
  obtain ⟨hrest, hfails⟩ := (asks_fetchToken h hapi).run_of_not _ serve _ hno
  rw [hrequests, hvalue, hrest]
  exact ⟨rfl, hfails⟩

/-- With it there are three, and the last answer decides. -/
theorem authenticate_of_grants [Platform] (h : l.hostUrl.IsDirectory dir)
    (hapi : l.apiUrl = l.hostUrl.interface dir)
    (haccepts : (serve (l.submission dir) s).1.Accepts) {token : Option String}
    (hgrants : (serve (l.tokenRequest dir) (serve (l.submission dir) s).2).1.Grants token) :
    (Dialogue.run serve l.authenticate.run s).requests
        = [l.submission dir, l.tokenRequest dir, l.infoRequest dir token]
      ∧ ∀ session, (Dialogue.run serve l.authenticate.run s).value = .ok session
          ↔ ∃ info, (serve (l.infoRequest dir token)
                (serve (l.tokenRequest dir) (serve (l.submission dir) s).2).2).1.Describes info
              ∧ { xsrfToken := token, apiVersion := info.apiVersion? } = session := by
  obtain ⟨hrequests, hvalue⟩ := authenticate_of_accepts serve s h haccepts
  obtain ⟨hrest, hrestValue⟩ := (asks_fetchToken h hapi).run_of
    (fun token => l.fetchServerInfo token >>= fun info =>
      pure { xsrfToken := token, apiVersion := info.apiVersion? : Session }) serve _ hgrants
  obtain ⟨hlast, hlastValue⟩ :=
    ((asks_fetchServerInfo h hapi token).bind_pure fun info =>
      { xsrfToken := token, apiVersion := info.apiVersion? : Session }).run serve
        (serve (l.tokenRequest dir) (serve (l.submission dir) s).2).2
  rw [hrequests, hvalue, hrest, hrestValue, hlast]
  exact ⟨rfl, hlastValue⟩

end Login

/-- The release is not known where the controller names none, or names what
is no version. -/
theorem ServerInfo.apiVersion?_eq_none {info : ServerInfo} :
    info.apiVersion? = none
      ↔ info.platformVersion = none
        ∨ ∃ raw err, info.platformVersion = some raw ∧ Version.parse raw = .error err := by
  unfold apiVersion?
  cases hraw : info.platformVersion with
  | none => simp
  | some raw => cases hversion : Version.parse raw <;> simp [Except.toOption, hversion]

/-- A client of a configuration is one that a program may have. -/
theorem Client.made_of_ofConfig [Platform] {config : Config} {files : Files} {c : Client}
    (h : ofConfig config files = .ok c) : c.Made := by
  obtain ⟨b, hb, hbuild⟩ := ok_bind_iff.mp h
  obtain ⟨b₀, hnew, heq⟩ := ok_bind_iff.mp hb
  have hhost : b.hostUrl = b₀.hostUrl := by
    cases heq
    rfl
  exact .build hnew hhost hbuild

/-- A client is connected with the session that its login finds. -/
theorem Client.value_establish (c : Client) (authenticate : Action Session) (serve : Server σ)
    (s : σ) :
    (Dialogue.run serve (c.establish authenticate).run s).value
      = (Dialogue.run serve authenticate.run s).value.map c.inSession := by
  have hbind : (c.establish authenticate).run
      = authenticate.run.bind
          (ExceptT.bindCont fun session => (pure (c.inSession session) : Action Client)) := rfl
  rw [hbind, run_bind]
  dsimp only
  cases (Dialogue.run serve authenticate.run s).value <;> rfl

/-- Connecting is making the client and logging in with its password. -/
theorem Client.value_connect [Platform] {config : Config} {files : Files} {c : Client}
    {password : String}
    (hclient : ofConfig config files = .ok c) (hpassword : config.password = some password)
    (serve : Server σ) (s : σ) :
    (Dialogue.run serve (connect config files).run s).value
      = (Dialogue.run serve (c.formLogin config.username password).authenticate.run s).value.map
          c.inSession := by
  rw [connect, hclient, Action.ok_bind, Config.requirePassword, hpassword, Action.ok_bind]
  exact value_establish ..

/-- Without a client or without a password, nothing is connected. -/
theorem Client.exists_of_value_connect [Platform] {config : Config} {files : Files} {c' : Client}
    {serve : Server σ} {s : σ}
    (h : (Dialogue.run serve (connect config files).run s).value = .ok c') :
    ∃ c password, ofConfig config files = .ok c ∧ config.password = some password := by
  cases hclient : ofConfig config files with
  | error err =>
      rw [connect, hclient] at h
      cases h
  | ok c =>
      cases hpassword : config.password with
      | none =>
          rw [connect, hclient, Action.ok_bind, Config.requirePassword, hpassword] at h
          cases h
      | some password => exact ⟨c, password, rfl, rfl⟩

/-- A login asks three times: it posts the credentials, fetches a token, and
asks what the controller is, with the token if there is one. It goes on only
where the credentials were accepted and where a token, or word that there are
none, has come; and it finds a session exactly where the controller described
itself in the end. The session has this token, and the release if the
controller names one. Whatever fails, a client is connected only with the
session that a login found.

An answer is what the login is given in the end, behind the agent: `serve`
stands for the controller and for the agent in front of it, which has followed
all redirects by then. Such a server is also `Agent.relay serve`, the agent with
any controller on the wire, and a login on the wire comes to what it comes to
with that server. -/
theorem Client.login_as_answered [Platform] :
    (∀ {c : Client}, c.Made → ∀ username password : String,
      ∃ dir, c.hostUrl.IsDirectory dir ∧
        let l := c.formLogin username password
        ∀ {σ : Type} (serve : Server σ) (s : σ),
          let login := Dialogue.run serve l.authenticate.run s
          let first := serve (l.submission dir) s
          let second := serve (l.tokenRequest dir) first.2
          (¬ first.1.Accepts → login.requests = [l.submission dir])
            ∧ (first.1.Accepts → (∀ token, ¬ second.1.Grants token) →
                login.requests = [l.submission dir, l.tokenRequest dir])
            ∧ (∀ token, first.1.Accepts → second.1.Grants token →
                login.requests
                  = [l.submission dir, l.tokenRequest dir, l.infoRequest dir token])
            ∧ (∀ session, login.value = .ok session
                ↔ first.1.Accepts ∧ ∃ token info, second.1.Grants token
                    ∧ (serve (l.infoRequest dir token) second.2).1.Describes info
                    ∧ session = { xsrfToken := token, apiVersion := info.apiVersion? })
            ∧ ∀ a : Agent, (Dialogue.run serve (a.speak l.authenticate.run) s).value.1
                = (Dialogue.run (Agent.relay serve) l.authenticate.run (a, s)).value)
      ∧ (∀ info : ServerInfo, info.apiVersion? = none
          ↔ info.platformVersion = none
            ∨ ∃ raw err, info.platformVersion = some raw ∧ Version.parse raw = .error err)
      ∧ ∀ (config : Config) (files : Files) {σ : Type} (serve : Server σ) (s : σ) (c' : Client),
          (Dialogue.run serve (connect config files).run s).value = .ok c'
            ↔ ∃ c password session, ofConfig config files = .ok c ∧ c.Made
                ∧ config.password = some password
                ∧ (Dialogue.run serve (c.formLogin config.username password).authenticate.run
                    s).value = .ok session
                ∧ c' = c.inSession session := by
  refine ⟨fun {c} hmade username password => ?_, fun info => info.apiVersion?_eq_none, ?_⟩
  · obtain ⟨dir, h, hapi⟩ := hmade.exists_interface
    refine ⟨dir, h, ?_⟩
    intro l σ serve s login first second
    have hl : l.hostUrl.IsDirectory dir := h
    refine ⟨fun hno => (Login.authenticate_of_not_accepts serve s hl hno).1,
      fun haccepts hno => (Login.authenticate_of_not_grants serve s hl hapi haccepts hno).1,
      fun token haccepts hgrants =>
        (Login.authenticate_of_grants serve s hl hapi haccepts hgrants).1,
      fun session => ⟨fun hsession => ?_, ?_⟩,
      fun a => Agent.value_speak serve a _ s⟩
    -- a session comes out only where neither of the first two questions ended the login
    · by_cases haccepts : first.1.Accepts
      · by_cases hgrants : ∃ token, second.1.Grants token
        · obtain ⟨token, hgrants⟩ := hgrants
          have hlast := (Login.authenticate_of_grants serve s hl hapi haccepts hgrants).2 session
          obtain ⟨info, hdescribes, rfl⟩ := hlast.mp hsession
          exact ⟨haccepts, token, info, hgrants, hdescribes, rfl⟩
        · obtain ⟨-, err, herr⟩ := Login.authenticate_of_not_grants serve s hl hapi haccepts
            fun token htoken => hgrants ⟨token, htoken⟩
          cases herr.symm.trans hsession
      · obtain ⟨-, err, herr⟩ := Login.authenticate_of_not_accepts serve s hl haccepts
        cases herr.symm.trans hsession
    · rintro ⟨haccepts, token, info, hgrants, hdescribes, rfl⟩
      exact ((Login.authenticate_of_grants serve s hl hapi haccepts hgrants).2 _).mpr
        ⟨info, hdescribes, rfl⟩
  · intro config files σ serve s c'
    constructor
    · intro h
      obtain ⟨c, password, hclient, hpassword⟩ := exists_of_value_connect h
      rw [value_connect hclient hpassword] at h
      obtain ⟨session, hsession, rfl⟩ := ok_map_iff.mp h
      exact ⟨c, password, session, hclient, made_of_ofConfig hclient, hpassword, hsession, rfl⟩
    · rintro ⟨c, password, session, hclient, -, hpassword, hsession, rfl⟩
      rw [value_connect hclient hpassword, hsession]
      rfl

/-- A controller that answers with these bodies, one after the other. -/
def Http.answering : Server (List (List UInt8)) := fun _ left =>
  (.reply ⟨⟨200⟩, [], some (left.headD [])⟩, left.tail)

section Stock

attribute [local instance] Stock.platform

/-- The token is taken without the blanks around it. A byte that belongs to no
character spoils the last answer, though it stands in a string. A login that is
answered with a page ends there. -/
theorem Client.login_as_answered_quietly :
    let l := ((ClientBuilder.onLocalhost {}).client []).formLogin "admin" "secret"
    let token := Text.bytesOf " 8C1F3A2B\n"
    let front := Text.bytesOf "\x7b\"data\":\x7b\"platformVersion\":\"20.12.1"
    let back := Text.bytesOf "\"\x7d\x7d"
    (Dialogue.run Http.answering l.authenticate.run [[], token, front ++ back]).value
        = .ok { xsrfToken := some "8C1F3A2B", apiVersion := some ⟨[20, 12, 1]⟩ }
      ∧ (∀ session, (Dialogue.run Http.answering l.authenticate.run
            [[], token, front ++ 0xFF :: back]).value ≠ .ok session)
      ∧ (Dialogue.run Http.answering l.authenticate.run
            [Text.bytesOf "\n<!DOCTYPE html>"]).requests.length = 1 := by
  intro l token front back
  obtain ⟨dir, -, hcourse⟩ :=
    login_as_answered.1 (made_onLocalhost {}) "admin" "secret"
  refine ⟨?_, fun session hsession => ?_, ?_⟩
  · obtain ⟨-, -, -, hvalue, -⟩ := hcourse Http.answering [[], token, front ++ back]
    have htoken : (Reply.mk ⟨200⟩ [] (some token)).text? = some " 8C1F3A2B\n" := by
      decide +kernel
    have hinfo : ServerInfo.ofBytes? (front ++ back) = some ⟨some "20.12.1", none, none⟩ := by
      decide +kernel
    refine (hvalue _).mpr ⟨⟨_, rfl, rfl, ?_⟩, some "8C1F3A2B", ⟨some "20.12.1", none, none⟩,
      ⟨_, rfl, Or.inr ⟨rfl, _, htoken, ?_, by decide +kernel⟩⟩,
      ⟨_, _, rfl, rfl, rfl, hinfo⟩, by decide +kernel⟩
    · rw [← looksLikeHtml_iff]
      decide +kernel
    · rw [← looksLikeHtml_iff]
      decide +kernel
  · obtain ⟨-, -, -, hvalue, -⟩ := hcourse Http.answering [[], token, front ++ 0xFF :: back]
    obtain ⟨-, _, info, -, ⟨r, bytes, hr, -, hbytes, hinfo⟩, -⟩ := (hvalue session).mp hsession
    -- the byte is no UTF-8, so the body describes nothing
    have hnone : ServerInfo.ofBytes? (front ++ 0xFF :: back) = none := by decide +kernel
    cases hr
    cases hbytes
    cases hnone.symm.trans hinfo
  · obtain ⟨hrefused, -⟩ := hcourse Http.answering [Text.bytesOf "\n<!DOCTYPE html>"]
    rw [hrefused ?_]
    · rfl
    · rintro ⟨r, hr, -, hno⟩
      cases hr
      rw [← looksLikeHtml_iff] at hno
      exact hno (by decide +kernel)

end Stock

end Sdwan
