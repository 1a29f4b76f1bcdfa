/-
How a program comes by a client.

# From an address to a client

A builder can be had for every address on the web and for no other
(`new_eq`, `exists_config_of_not_webAddress`). The path of its host ends
with a slash, so the interface lies right behind it: `build_eq` says what
the client is. Only a certificate that cannot be used and a user agent that
is no header stand in the way, and both are errors of the configuration.

# Clients that there are

`Client.Made` holds of the clients that programs have: those that were
built, in whatever session. Each has a place on the web for its paths to be
relative to (`Client.Made.isBase`).
-/
import Sdwan.Api.Client
import Sdwan.Proofs.Url.Parse
import Sdwan.Stock

namespace Sdwan

open Url

variable {address : String} {files : Files} {dir : List (List Char)} {u : Url}

-- ============================================== addresses

/-- The text is the address of something on the web. -/
def WebAddress [Platform] (address : String) : Prop :=
  ∃ u, Url.parse address = .ok u ∧ u.isWeb = true

/-- An address on the web is that of a directory, once its path ends with a slash. -/
theorem exists_isDirectory_withSlash [Platform] (h : Url.parse address = .ok u)
    (hweb : u.isWeb = true) :
    ∃ dir, u.withSlash.IsDirectory dir := by
  obtain ⟨items, hne, hpath⟩ := exists_segments_of_parse h hweb
  have hslash : u.withSlash.path = (Url.Path.segments items).withSlash := by
    rw [← hpath]
    rfl
  rw [Url.Path.withSlash] at hslash
  split at hslash
  · next hlast =>
      refine ⟨items.dropLast, hweb, hslash.trans ?_⟩
      have hlast' : items.getLast hne = [] := by
        rw [beq_iff_eq, List.getLast?_eq_some_getLast hne] at hlast
        exact Option.some.inj hlast
      rw [← hlast', List.dropLast_concat_getLast]
  · exact ⟨items, hweb, hslash⟩

/-- What lies below a directory, with nothing behind the path. -/
def Url.below (u : Url) (dir ws : List (List Char)) : Url :=
  { u with path := .segments (dir ++ ws), query := none, fragment := none }

/-- A relative path without dots leads below the directory. -/
theorem resolve_joined [Platform] {ws : List (List Char)} {text : String} (h : u.IsDirectory dir)
    (hws : IsReference ws) (hno : ∀ w ∈ ws, ¬ IsDots w) (hne : ws ≠ [[]])
    (htext : String.ofList (Text.joined '/' ws) = text) :
    u.resolve text = .ok (u.below dir ws) := by
  rw [Url.resolve, ← htext, join_joined (layout_of_isWeb h.web) h.path hws hne,
    (addSegments_eq_append hws.chars).mpr hno]
  rfl

/-- Where the interface of a host lies. -/
def Url.interface (u : Url) (dir : List (List Char)) : Url :=
  { u with path := .segments (dir ++ ["dataservice".toList, []]), query := none, fragment := none }

/-- The interface is found right behind the path of the host. -/
theorem resolve_dataservice [Platform] (h : u.IsDirectory dir) :
    u.resolve "dataservice/" = .ok (u.interface dir) :=
  resolve_joined h ⟨by simp, by decide +kernel, by decide +kernel, Or.inr (by decide)⟩
    (by decide +kernel) (by decide) (by decide +kernel)

/-- The interface is a directory, and nothing stands behind its path. -/
theorem isBase_interface (h : u.IsDirectory dir) :
    (u.interface dir).IsBase (dir ++ ["dataservice".toList]) := by
  refine ⟨⟨h.web, ?_⟩, rfl, rfl⟩
  show Path.segments _ = _
  rw [List.append_assoc]
  rfl

-- ============================================== builders

namespace ClientBuilder

variable {b : ClientBuilder}

/-- A builder for an address on the web keeps it, with a slash behind the path. -/
theorem new_eq [Platform] (h : Url.parse address = .ok u) (hweb : u.isWeb = true) :
    new address = .ok { hostUrl := u.withSlash } := by
  rw [new, h]
  dsimp only
  rw [if_pos hweb]

/-- An address that is not on the web is an error of the configuration. -/
theorem exists_config_of_not_webAddress [Platform] (h : ¬ WebAddress address) :
    ∃ text, new address = .error (.config text) := by
  unfold new
  split
  · exact ⟨_, rfl⟩
  · next u hu =>
      rw [if_neg fun hweb => h ⟨u, hu, hweb⟩]
      exact ⟨_, rfl⟩

/-- The host of every builder is a directory. -/
theorem exists_isDirectory_of_new [Platform] (h : new address = .ok b) :
    ∃ dir, b.hostUrl.IsDirectory dir := by
  by_cases haddress : WebAddress address
  · obtain ⟨u, hu, hweb⟩ := haddress
    rw [new_eq hu hweb] at h
    cases h
    exact exists_isDirectory_withSlash hu hweb
  · obtain ⟨text, herror⟩ := exists_config_of_not_webAddress haddress
    rw [herror] at h
    cases h

end ClientBuilder

-- ============================================== certificates

/-- If a certificate is asked for, the files have it. -/
def Files.Certify [Tls.Certificates] (files : Files) (path : Option String) : Prop :=
  ∀ p, path = some p → ∃ bytes, files p = .ok bytes ∧ Tls.Certificates.fault? bytes = none

namespace ClientBuilder

variable {b : ClientBuilder}

/-- A certificate that the files have is taken, and so is none. -/
theorem checkCertificate_of_certify [Platform] (h : files.Certify b.caCert) :
    b.checkCertificate files = .ok () := by
  unfold checkCertificate
  split
  · rfl
  · next path hpath =>
      obtain ⟨bytes, hbytes, hholds⟩ := h path hpath
      rw [hbytes]
      dsimp only
      rw [hholds]

/-- A file that is missing, or without a certificate, is an error of the
configuration. -/
theorem exists_config_of_not_certify [Platform] (h : ¬ files.Certify b.caCert) :
    ∃ text, b.checkCertificate files = .error (.config text) := by
  unfold checkCertificate
  split
  · next hnone =>
      -- without a path there is nothing to certify
      refine absurd (fun p hp => ?_) h
      rw [hnone] at hp
      cases hp
  · next path hpath =>
      split
      · exact ⟨_, rfl⟩
      · next bytes hbytes =>
          split
          · next hholds =>
              refine absurd (fun p hp => ?_) h
              rw [hpath] at hp
              cases hp
              exact ⟨bytes, hbytes, hholds⟩
          · exact ⟨_, rfl⟩

/-- The client of a builder whose host has this directory. -/
def client (b : ClientBuilder) (dir : List (List Char)) : Client where
  hostUrl := b.hostUrl
  apiUrl := b.hostUrl.interface dir
  settings := b.settings
  userAgent := b.userAgent
  pinnedVersion := b.pinnedVersion
  session := b.session

/-- Making a client fails with the certificate or with the user agent, or
not at all. -/
theorem build_eq [Platform] (h : b.hostUrl.IsDirectory dir) (files : Files) :
    b.build files = (b.checkCertificate files).bind fun _ =>
      if Http.isHeaderValue b.userAgent then .ok (b.client dir)
      else .error (.config "Failed to build HTTP client: builder error") := by
  unfold build
  rw [resolve_dataservice h]
  cases b.checkCertificate files with
  | error e => rfl
  | ok x =>
      cases hagent : Http.isHeaderValue b.userAgent with
      | false => rfl
      | true => rfl

/-- A client that was built is that of its builder. -/
theorem eq_client_of_build [Platform] {c : Client} (h : b.hostUrl.IsDirectory dir)
    (hbuild : b.build files = .ok c) : c = b.client dir := by
  rw [build_eq h] at hbuild
  cases hcert : b.checkCertificate files with
  | error e =>
      rw [hcert] at hbuild
      cases hbuild
  | ok x =>
      rw [hcert] at hbuild
      have hbuild' : (if Http.isHeaderValue b.userAgent = true then Except.ok (b.client dir)
          else Except.error (Error.config "Failed to build HTTP client: builder error"))
          = .ok c := hbuild
      split at hbuild'
      · exact (Except.ok.inj hbuild').symm
      · cases hbuild'

/-- A builder for a controller on this machine. -/
def onLocalhost (s : Session) : ClientBuilder where
  hostUrl :=
    { scheme := "http".toList
      host := some (.domain "localhost".toList)
      path := .segments [[]] }
  session := s

theorem isDirectory_onLocalhost (s : Session) : (onLocalhost s).hostUrl.IsDirectory [] :=
  ⟨rfl, rfl⟩

section Stock

attribute [local instance] Stock.platform

/-- The address without a path is read as that host. -/
theorem parse_localhost (s : Session) :
    Url.parse "http://localhost" = .ok (onLocalhost s).hostUrl := by
  have h : (Url.parse "http://localhost").toOption = some (onLocalhost {}).hostUrl := by
    decide +kernel
  cases hu : Url.parse "http://localhost" with
  | ok u =>
      rw [hu] at h
      rw [Option.some.inj h]
      rfl
  | error e =>
      rw [hu] at h
      cases h

theorem new_onLocalhost : new "http://localhost" = .ok (onLocalhost {}) :=
  new_eq (parse_localhost {}) (isDirectory_onLocalhost {}).web

/-- No files are asked for, so it always makes a client. -/
theorem build_onLocalhost (files : Files) (s : Session) :
    (onLocalhost s).build files = .ok ((onLocalhost s).client []) := by
  have hagent : Http.isHeaderValue "vmanage-rust/0.1.0" = true := by decide
  have hdefault : (onLocalhost s).userAgent = "vmanage-rust/0.1.0" := rfl
  rw [build_eq (isDirectory_onLocalhost s), hdefault, hagent]
  rfl

end Stock

end ClientBuilder

-- ============================================== clients

namespace Client

/-- A client that a program may have: built from a builder for some address,
whatever was set on the builder, and in any session since. -/
inductive Made [Platform] : Client → Prop where
  | build {address : String} {b₀ b : ClientBuilder} {files : Files} {c : Client}
      (hnew : ClientBuilder.new address = .ok b₀) (hhost : b.hostUrl = b₀.hostUrl)
      (hbuild : b.build files = .ok c) : Made c
  | inSession {c : Client} (h : Made c) (s : Session) : Made (c.inSession s)

/-- The interface of a client lies right behind the path of its host. -/
theorem Made.exists_interface [Platform] {c : Client} (h : c.Made) :
    ∃ dir, c.hostUrl.IsDirectory dir ∧ c.apiUrl = c.hostUrl.interface dir := by
  induction h with
  | build hnew hhost hbuild =>
      obtain ⟨dir, hdir⟩ := ClientBuilder.exists_isDirectory_of_new hnew
      rw [← hhost] at hdir
      rw [ClientBuilder.eq_client_of_build hdir hbuild]
      exact ⟨dir, hdir, rfl⟩
  | inSession h s ih => exact ih

/-- The paths of a client are relative to a place on the web. -/
theorem Made.isBase [Platform] {c : Client} (h : c.Made) : ∃ dir, c.apiUrl.IsBase dir := by
  obtain ⟨dir, hdir, hurl⟩ := h.exists_interface
  rw [hurl]
  exact ⟨_, isBase_interface hdir⟩

section Stock

attribute [local instance] Stock.platform

theorem made_onLocalhost (s : Session) : ((ClientBuilder.onLocalhost s).client []).Made :=
  .build (b := ClientBuilder.onLocalhost s) ClientBuilder.new_onLocalhost rfl
    (ClientBuilder.build_onLocalhost Files.bare s)

end Stock

end Client

end Sdwan
