/-
What becomes of a configuration.

# Rules

A configuration has four rules: the address is a URL, there is a name to
log in with, a request may take up to five minutes, and it is repeated ten
times at most (`Config.validate_eq_nil`). They are checked where a
configuration is made from a login, and nowhere else: a configuration that
is read, or changed, is as it is.

# Use

A client is made of the configuration as it is. What stands in the way is
an address that leads to nothing on the web, and a certificate that cannot
be used (`Config.Usable`); the name, the time and the number of repetitions
are taken over whatever they are. Logging in asks for a password, too.
-/
import Sdwan.Proofs.Api.Building
import Sdwan.Proofs.Api.Requests
import Sdwan.Proofs.Validation.Check

namespace Sdwan

open Http Http.Dialogue Url Validation

variable {config : Config} {files : Files} {u : Url} {dir : List (List Char)}

namespace Config

-- ============================================== rules

/-- An address passes if it can be read. -/
theorem onUrl_eq_nil [Platform] {name value : String} :
    onUrl name value = [] ↔ ∃ u, Url.parse value = .ok u := by
  unfold onUrl
  cases Url.parse value with
  | ok u => simp
  | error e => simp [atField]

/-- A configuration is valid with an address that can be read, a name, and numbers
within their bounds. -/
theorem validate_eq_nil [Platform] :
    config.validate = []
      ↔ (∃ u, Url.parse config.url = .ok u)
        ∧ config.username ≠ ""
        ∧ (1 ≤ config.timeoutSeconds.toNat ∧ config.timeoutSeconds.toNat ≤ 300)
        ∧ config.maxRetries.toNat ≤ 10 := by
  have hname : 1 ≤ config.username.length ↔ config.username ≠ "" := by
    rw [Nat.one_le_iff_ne_zero, ne_eq, ne_eq, String.length_eq_zero_iff]
  simp only [validate, List.append_eq_nil_iff, onUrl_eq_nil, onLength_eq_nil, onRange_eq_nil,
    within_eq_true, Option.some.injEq, forall_eq', hname, reduceCtorEq, false_implies, forall_const,
    and_true, Nat.zero_le, true_and, and_assoc]

-- ============================================== use

/-- A client can be made of the configuration. -/
def Usable [Platform] (config : Config) (files : Files) : Prop :=
  WebAddress config.url ∧ files.Certify config.caCert

/-- The builder of a configuration, for its host. -/
def builder (config : Config) (host : Url) : ClientBuilder where
  hostUrl := host
  settings := { timeout := config.timeoutMillis, retry := { maxRetries := config.maxRetries } }
  tlsVerify := config.tlsVerify
  caCert := config.caCert
  pinnedVersion := config.apiVersion
  session := { vsessionId := config.vsessionId }

/-- Of an address on the web a builder with the settings of the configuration is
made. -/
theorem ofConfig_eq [Platform] (h : Url.parse config.url = .ok u) (hweb : u.isWeb = true) :
    ClientBuilder.ofConfig config = .ok (config.builder u.withSlash) := by
  unfold ClientBuilder.ofConfig
  rw [ClientBuilder.new_eq h hweb]
  rfl

/-- A configuration that can be used gives a client with its settings. -/
theorem exists_client_of_usable [Platform] (h : config.Usable files) :
    ∃ host dir, host.IsDirectory dir
      ∧ Client.ofConfig config files = .ok ((config.builder host).client dir) := by
  obtain ⟨⟨u, hu, hweb⟩, hcertify⟩ := h
  obtain ⟨dir, hdir⟩ := exists_isDirectory_withSlash hu hweb
  refine ⟨u.withSlash, dir, hdir, ?_⟩
  have hcertificate : (config.builder u.withSlash).checkCertificate files = .ok () :=
    ClientBuilder.checkCertificate_of_certify hcertify
  have hagent : Http.isHeaderValue "vmanage-rust/0.1.0" = true := by decide
  have hdefault : (config.builder u.withSlash).userAgent = "vmanage-rust/0.1.0" := rfl
  unfold Client.ofConfig
  rw [ofConfig_eq hu hweb]
  show (config.builder u.withSlash).build files = _
  rw [ClientBuilder.build_eq hdir, hcertificate, hdefault, hagent]
  rfl

/-- Any other is an error of the configuration. -/
theorem exists_config_of_not_usable [Platform] (h : ¬ config.Usable files) :
    ∃ text, Client.ofConfig config files = .error (.config text) := by
  by_cases haddress : WebAddress config.url
  · obtain ⟨u, hu, hweb⟩ := haddress
    obtain ⟨dir, hdir⟩ := exists_isDirectory_withSlash hu hweb
    obtain ⟨text, herror⟩ : ∃ text,
        (config.builder u.withSlash).checkCertificate files = .error (.config text) :=
      ClientBuilder.exists_config_of_not_certify fun hcertify => h ⟨⟨u, hu, hweb⟩, hcertify⟩
    refine ⟨text, ?_⟩
    unfold Client.ofConfig
    rw [ofConfig_eq hu hweb]
    show (config.builder u.withSlash).build files = _
    rw [ClientBuilder.build_eq hdir, herror]
    rfl
  · obtain ⟨text, herror⟩ := ClientBuilder.exists_config_of_not_webAddress haddress
    refine ⟨text, ?_⟩
    unfold Client.ofConfig ClientBuilder.ofConfig
    rw [herror]
    rfl

end Config

-- ============================================== logging in

/-- The form is found right behind the path of the host. -/
theorem resolve_form [Platform] (h : u.IsDirectory dir) :
    u.resolve "j_security_check" = .ok (u.below dir ["j_security_check".toList]) :=
  resolve_joined h ⟨by simp, by decide +kernel, by decide +kernel, Or.inr (by decide)⟩
    (by decide +kernel) (by decide) (by decide +kernel)

/-- A login begins with a request. -/
theorem exists_send_of_login [Platform] {c : Client} (h : c.hostUrl.IsDirectory dir)
    (username password : String) :
    ∃ r next, (c.establish (c.formLogin username password).authenticate).run = .send r next := by
  have hform : (c.formLogin username password).hostUrl.resolve "j_security_check" = .ok _ :=
    resolve_form h
  unfold Client.establish Login.authenticate Login.submit
  rw [hform]
  exact ⟨_, _, rfl⟩

-- ============================================== clients of configurations

/-- A client is made of every configuration that can be used, with the
timeout and the retries that stand there, whether they keep the rules or
not; a login with it begins with a request once there is a password. Where
no client is made, this is an error of the configuration, and nothing is
sent. Of the four rules, only the one for the address is kept by all clients
that are made. -/
theorem Client.made_as_configured [Platform] (config : Config) (files : Files) :
    (config.validate = []
        ↔ (∃ u, Url.parse config.url = .ok u)
          ∧ config.username ≠ ""
          ∧ (1 ≤ config.timeoutSeconds.toNat ∧ config.timeoutSeconds.toNat ≤ 300)
          ∧ config.maxRetries.toNat ≤ 10)
      ∧ ((∃ c, ofConfig config files = .ok c) ↔ config.Usable files)
      ∧ (∀ c, ofConfig config files = .ok c →
          (∃ u, Url.parse config.url = .ok u)
            ∧ c.settings.timeout = 1000 * config.timeoutSeconds.toNat
            ∧ c.settings.retry.maxRetries = config.maxRetries)
      ∧ (¬ config.Usable files → ∃ text, ofConfig config files = .error (.config text)
          ∧ (connect config files).run = .done (.error (.config text)))
      ∧ (config.Usable files → config.password = none →
          ∃ text, (connect config files).run = .done (.error (.config text)))
      ∧ ∀ password, config.Usable files → config.password = some password →
          ∃ r next, (connect config files).run = .send r next := by
  refine ⟨Config.validate_eq_nil, ⟨?_, ?_⟩, ?_, ?_, ?_, ?_⟩
  · rintro ⟨c, hc⟩
    by_contra h
    obtain ⟨text, herror⟩ := Config.exists_config_of_not_usable h
    rw [herror] at hc
    cases hc
  · intro h
    obtain ⟨host, dir, -, hclient⟩ := Config.exists_client_of_usable h
    exact ⟨_, hclient⟩
  · intro c hc
    by_cases h : config.Usable files
    · obtain ⟨host, dir, -, hclient⟩ := Config.exists_client_of_usable h
      rw [hclient] at hc
      cases hc
      obtain ⟨⟨u, hu, -⟩, -⟩ := h
      exact ⟨⟨u, hu⟩, rfl, rfl⟩
    · obtain ⟨text, herror⟩ := Config.exists_config_of_not_usable h
      rw [herror] at hc
      cases hc
  · intro h
    obtain ⟨text, herror⟩ := Config.exists_config_of_not_usable h
    refine ⟨text, herror, ?_⟩
    rw [connect, herror]
    rfl
  · intro h hpassword
    obtain ⟨host, dir, -, hclient⟩ := Config.exists_client_of_usable h
    refine ⟨"password is not set", ?_⟩
    rw [connect, hclient, Action.ok_bind, Config.requirePassword, hpassword]
    rfl
  · intro password h hpassword
    obtain ⟨host, dir, hdir, hclient⟩ := Config.exists_client_of_usable h
    have hhost : ((config.builder host).client dir).hostUrl.IsDirectory dir := hdir
    rw [connect, hclient, Action.ok_bind, Config.requirePassword, hpassword]
    exact exists_send_of_login hhost config.username password

/-- A configuration for a controller on this machine, with no time for its
requests and with eleven repetitions. -/
def Config.hasty : Config :=
  Config.withMaxRetries
    (Config.withTimeout
      { url := "http://localhost", username := "admin", password := some "secret" } 0) 11

section Stock

attribute [local instance] Stock.platform

/-- A configuration that kept the rules when it was made, but has changed
since, is used as it is. -/
theorem Client.made_as_configured_hasty :
    (∃ config, Config.new "http://localhost" "admin" "secret" = .ok config
        ∧ (config.withTimeout 0).withMaxRetries 11 = Config.hasty)
      ∧ Config.hasty.validate ≠ []
      ∧ (∃ c, ofConfig Config.hasty Files.bare = .ok c
          ∧ c.settings.timeout = 0 ∧ c.settings.retry.maxRetries = 11)
      ∧ ∃ r next, (connect Config.hasty Files.bare).run = .send r next := by
  have hparse := ClientBuilder.parse_localhost {}
  have hweb := (ClientBuilder.isDirectory_onLocalhost {}).web
  obtain ⟨hrules, hmade, hsettings, -, -, hsends⟩ :=
    Client.made_as_configured Config.hasty Files.bare
  have husable : Config.hasty.Usable Files.bare := ⟨⟨_, hparse, hweb⟩, fun p hp => nomatch hp⟩
  refine ⟨?_, ?_, ?_, hsends "secret" husable rfl⟩
  · have hvalid : Config.validate
        { url := "http://localhost", username := "admin", password := some "secret" } = [] :=
      Config.validate_eq_nil.mpr ⟨⟨_, hparse⟩, by decide, by decide, by decide⟩
    rw [Config.new, hvalid]
    exact ⟨_, rfl, rfl⟩
  · rw [ne_eq, hrules]
    rintro ⟨-, -, ⟨htime, -⟩, -⟩
    exact absurd htime (by decide)
  · obtain ⟨c, hc⟩ := hmade.mpr husable
    obtain ⟨-, htime, hretries⟩ := hsettings c hc
    exact ⟨c, hc, htime, hretries⟩

end Stock

end Sdwan
