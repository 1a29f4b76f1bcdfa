/-
Which calls are let through, said by the components of versions.

# The gate

An endpoint may declare which releases have it. A call of it goes on only
if the declaration can be read, and if the release of the controller, where
one is known, meets each part of it (`Client.Admits`). That is all there is
to the gate: a call that is let through is the call of an endpoint without
a declaration, and one that is not ends with the error of its fault, before
anything is sent.

# Imports

An archive can be unpacked without a key up to some release, and with a key
from then on. The two declarations are each other's negation, so of the two
operations a release has exactly one, however the release is spelled.
-/
import Sdwan.Proofs.Api.Paths
import Sdwan.Proofs.Version.Order

namespace Sdwan

open Http Http.Dialogue Version Template

namespace Client

variable {c : Client} {e : Endpoint} {v : Version}

-- ============================================== releases

/-- The release that the controller is taken to have: the pinned one, else
the one that the login found. -/
def Assumes (c : Client) (v : Version) : Prop :=
  c.pinnedVersion = some v ∨ c.pinnedVersion = none ∧ c.session.apiVersion = some v

/-- The client looks up the release that it assumes. -/
theorem apiVersion?_eq_some : c.apiVersion? = some v ↔ c.Assumes v := by
  rw [apiVersion?, Option.or_eq_some_iff, Assumes]

-- ============================================== the gate

/-- The client lets calls of the endpoint through. -/
def Admits (c : Client) (e : Endpoint) : Prop :=
  ∀ raw, e.versions = some raw →
    ∃ K, Constraint.parse raw = .ok K ∧ ∀ v, c.Assumes v → ∀ s ∈ K.specifiers, s.Met v

/-- The fault for which a call is not let through. -/
inductive Refusal (c : Client) (e : Endpoint) (raw : String) : Error → Prop where
  | malformed {err : Error} (hparse : Constraint.parse raw = .error err) :
    Refusal c e raw (.invalidEndpoint (e.text ++ ": " ++ err.message))
  | unmet {K : Constraint} {v : Version} {s : Specifier} (hparse : Constraint.parse raw = .ok K)
      (hv : c.Assumes v) (hs : s ∈ K.specifiers) (hmet : ¬ s.Met v) :
    Refusal c e raw (.unsupportedVersion e.path K.text v.text)

/-- The gate of an endpoint with a declaration: it fails if that cannot be read,
lets all calls through as long as no release is known, and else compares. -/
theorem ensureSupported_eq {raw : String} (h : e.versions = some raw) :
    c.ensureSupported e
      = match Constraint.parse raw with
        | .error err => .error (.invalidEndpoint (e.text ++ ": " ++ err.message))
        | .ok K =>
          match c.apiVersion? with
          | none => .ok ()
          | some v =>
            if K.holds v then .ok () else .error (.unsupportedVersion e.path K.text v.text) := by
  unfold ensureSupported Endpoint.constraint?
  rw [h]
  dsimp only
  cases Constraint.parse raw with
  | error err => rfl
  | ok K => rfl

/-- The gate is open for the endpoints that the client admits. -/
theorem ensureSupported_of_admits (h : c.Admits e) : c.ensureSupported e = .ok () := by
  cases hraw : e.versions with
  | none => exact ensureSupported_of_versions hraw c
  | some raw =>
      obtain ⟨K, hK, hmet⟩ := h raw hraw
      rw [ensureSupported_eq hraw, hK]
      dsimp only
      cases hv : c.apiVersion? with
      | none => rfl
      | some v => exact if_pos (K.holds_iff.mpr (hmet v (apiVersion?_eq_some.mp hv)))

/-- The gate is shut for all others, with an error that names the fault. -/
theorem ensureSupported_of_not_admits (h : ¬ c.Admits e) :
    ∃ raw err, e.versions = some raw ∧ Refusal c e raw err ∧ c.ensureSupported e = .error err := by
  unfold Admits at h
  push Not at h
  obtain ⟨raw, hraw, h⟩ := h
  cases hparse : Constraint.parse raw with
  | error err =>
      refine ⟨raw, _, hraw, .malformed hparse, ?_⟩
      rw [ensureSupported_eq hraw, hparse]
  | ok K =>
      obtain ⟨v, hv, s, hs, hmet⟩ := h K hparse
      -- a part that is not met exists only where a release is known
      refine ⟨raw, _, hraw, .unmet hparse hv hs hmet, ?_⟩
      rw [ensureSupported_eq hraw, hparse, apiVersion?_eq_some.mpr hv]
      exact if_neg fun hK => hmet (K.holds_iff.mp hK s hs)

/-- A call that is let through is one without a declaration. -/
theorem call_of_admits [Platform] (h : c.Admits e) (args params : List (String × String))
    (p : Payload) :
    c.call e args params p = c.call { e with versions := none } args params p := by
  unfold call
  rw [ensureSupported_of_admits h, ensureSupported_of_versions rfl c]
  rfl

theorem assumes_unique {w : Version} (hv : c.Assumes v) (hw : c.Assumes w) : v = w :=
  Option.some.inj ((apiVersion?_eq_some.mpr hv).symm.trans (apiVersion?_eq_some.mpr hw))

/-- Where the declaration can be read and the release is known, the fault is
that the release does not meet it. -/
theorem ensureSupported_of_parse {raw : String} {K : Constraint} (hraw : e.versions = some raw)
    (hK : Constraint.parse raw = .ok K) (hv : c.Assumes v) (h : ¬ c.Admits e) :
    c.ensureSupported e = .error (.unsupportedVersion e.path K.text v.text) := by
  obtain ⟨raw', err, hraw', hrefusal, herror⟩ := ensureSupported_of_not_admits h
  obtain rfl := Option.some.inj (hraw.symm.trans hraw')
  cases hrefusal with
  | malformed hparse =>
      rw [hK] at hparse
      cases hparse
  | unmet hparse hw hs hmet =>
      rw [hK] at hparse
      cases hparse
      rw [herror, assumes_unique hv hw]

/-- Where the declaration can be read, all that counts is whether the release, if
one is known, meets each part of it. -/
theorem admits_iff_of_parse {raw : String} {K : Constraint} (hraw : e.versions = some raw)
    (hK : Constraint.parse raw = .ok K) :
    c.Admits e ↔ ∀ v, c.Assumes v → ∀ s ∈ K.specifiers, s.Met v := by
  unfold Admits
  rw [hraw]
  constructor
  · intro h
    obtain ⟨K', hK', hmet⟩ := h raw rfl
    rw [hK] at hK'
    cases hK'
    exact hmet
  · intro h raw' hraw'
    cases hraw'
    exact ⟨K, hK, h⟩

end Client

/-- In every way of calling, an endpoint that is let through is called like one
without a declaration. -/
theorem Call.action_of_admits [Platform] {α : Type} (k : Call α) {c : Client} {e : Endpoint}
    (h : c.Admits e) (args params : List (String × String)) :
    k.action c e args params = k.action c { e with versions := none } args params := by
  cases k with
  | json read body =>
      show c.callWith e read args params body = c.callWith _ read args params body
      unfold Client.callWith
      rw [Client.call_of_admits h]
      rfl
  | empty body =>
      show c.callEmpty e args params body = c.callEmpty _ args params body
      unfold Client.callEmpty
      rw [Client.call_of_admits h]
  | text =>
      show c.callText e args params = c.callText _ args params
      unfold Client.callText
      rw [Client.call_of_admits h]
  | bytes =>
      show c.callBytes e args params = c.callBytes _ args params
      unfold Client.callBytes
      rw [Client.call_of_admits h]
  | custom payload => exact Client.call_of_admits h args params payload

-- ============================================== imports

namespace MigrationClient

variable {c : Client} {e : Endpoint} {v : Version} {ss : List Segment}

/-- The first release that asks for a key. -/
def keyed : Version := ⟨[20, 13]⟩

theorem parse_import : Constraint.parse "<20.13" = .ok ⟨[⟨.lt, keyed⟩]⟩ := by rfl

theorem parse_importWithKey : Constraint.parse ">=20.13" = .ok ⟨[⟨.ge, keyed⟩]⟩ := by rfl

/-- An import without a key goes through if no release is known, or one before the
first that asks for a key. -/
theorem admits_import : c.Admits importEndpoint ↔ ∀ v, c.Assumes v → v.Before keyed := by
  rw [Client.admits_iff_of_parse rfl parse_import]
  simp [Specifier.Met]

/-- An import with a key goes through if no release is known, or one that asks for a
key. -/
theorem admits_importWithKey :
    c.Admits importWithKeyEndpoint ↔ ∀ v, c.Assumes v → ¬ v.Before keyed := by
  rw [Client.admits_iff_of_parse rfl parse_importWithKey]
  simp [Specifier.Met]

/-- The path of the import without a key. -/
def importSegments : List Segment :=
  [.literal "tenantmigration".toList, .literal "import".toList]

theorem madeOf_importSegments : importEndpoint.MadeOf importSegments :=
  ⟨by decide +kernel, by decide, by decide +kernel, by decide +kernel⟩

/-- The path of the import with a key: the key is its last segment. -/
def importWithKeySegments : List Segment := importSegments ++ [.hole "migration_key".toList]

theorem madeOf_importWithKeySegments : importWithKeyEndpoint.MadeOf importWithKeySegments :=
  ⟨by decide +kernel, by decide, by decide +kernel, by decide +kernel⟩

variable {σ α : Type} {args : List (String × String)}

/-- An upload that is let through sends something: its path can be rendered, and the
URL be built. -/
theorem requests_upload_ne_nil [Platform] (hmade : c.Made) (h : c.Admits e) (he : e.MadeOf ss)
    (hargs : ∀ name, .hole name ∈ ss → ∃ v, argument? args name = some v) (a : Migration.Archive)
    (serve : Server σ) (s : σ) :
    (Dialogue.run serve (upload ⟨c⟩ e args a).run s).requests ≠ [] := by
  obtain ⟨dir, hbase⟩ := hmade.isBase
  obtain ⟨vs, hvs⟩ := exists_forall₂_shows hargs
  exact Client.requests_call_bind_ne_nil (Client.ensureSupported_of_admits h)
    (he.renderPath_eq_ok.mpr ⟨vs, hvs, rfl⟩) (he.buildUrl_eq hbase hvs) _ serve s

/-- Nothing is sent, because the release does not have the endpoint. -/
def Unsupported (e : Endpoint) (required : String) (v : Version) (r : Run σ (Result α)) : Prop :=
  r.requests = [] ∧ r.value = .error (.unsupportedVersion e.path required v.text)

/-- An upload that is not let through sends nothing, and says what is asked for and
what is there. -/
theorem unsupported_upload [Platform] {raw : String} {K : Constraint} (hraw : e.versions = some raw)
    (hK : Constraint.parse raw = .ok K) (hv : c.Assumes v) (h : ¬ c.Admits e)
    (a : Migration.Archive) (serve : Server σ) (s : σ) :
    Unsupported e K.text v (Dialogue.run serve (upload ⟨c⟩ e args a).run s) := by
  have hrun : (upload ⟨c⟩ e args a).run
      = .done (.error (.unsupportedVersion e.path K.text v.text)) :=
    Client.run_call_bind_of_error (Client.ensureSupported_of_parse hraw hK hv h) _
  rw [hrun]
  exact ⟨rfl, rfl⟩

variable [Platform] (hmade : c.Made) (a : Migration.Archive) (key : String) (serve : Server σ)
    (s : σ)

include hmade in
/-- Before the first release with keys, the import without one is sent. -/
theorem requests_importArchive_ne_nil (h : ∀ v, c.Assumes v → v.Before keyed) :
    (Dialogue.run serve (importArchive ⟨c⟩ a).run s).requests ≠ [] :=
  requests_upload_ne_nil hmade (admits_import.mpr h) madeOf_importSegments
    (by simp [importSegments]) a serve s

include hmade in
/-- From the first release with keys on, the import with one is sent. -/
theorem requests_importWithKey_ne_nil (h : ∀ v, c.Assumes v → ¬ v.Before keyed) :
    (Dialogue.run serve (importWithKey ⟨c⟩ a key).run s).requests ≠ [] := by
  refine requests_upload_ne_nil hmade (admits_importWithKey.mpr h) madeOf_importWithKeySegments
    (fun name hname => ⟨key, ?_⟩) a serve s
  obtain rfl : name = "migration_key".toList := by
    unfold importWithKeySegments importSegments at hname
    rcases hname with _ | ⟨_, _ | ⟨_, _ | ⟨_, ⟨⟩⟩⟩⟩
    rfl
  exact argument?_singleton "migration_key" key

/-- From that release on, the import without a key is refused. -/
theorem unsupported_importArchive (hv : c.Assumes v) (h : ¬ v.Before keyed) :
    Unsupported importEndpoint "<20.13" v (Dialogue.run serve (importArchive ⟨c⟩ a).run s) :=
  unsupported_upload rfl parse_import hv
    (fun hadmits => h (admits_import.mp hadmits v hv)) a serve s

/-- Before that release, the import with a key is refused. -/
theorem unsupported_importWithKey (hv : c.Assumes v) (h : v.Before keyed) :
    Unsupported importWithKeyEndpoint ">=20.13" v
      (Dialogue.run serve (importWithKey ⟨c⟩ a key).run s) :=
  unsupported_upload rfl parse_importWithKey hv
    (fun hadmits => admits_importWithKey.mp hadmits v hv h) a serve s

end MigrationClient

-- ============================================== all calls

open MigrationClient

/-- A call is sent only through the gate: it goes on as if the endpoint had
no declaration, or else ends with the fault before anything is sent. Of the
two ways to import an archive, a release that is known has exactly one, and
where none is known both are tried. -/
theorem Client.calls_gated [Platform] {c : Client} (hmade : c.Made) :
    (∀ {α σ : Type} (k : Call α) (e : Endpoint) (args params : List (String × String))
        (serve : Server σ) (s : σ),
      (c.Admits e →
          k.action c e args params = k.action c { e with versions := none } args params)
        ∧ (¬ c.Admits e →
          (Dialogue.run serve (k.action c e args params).run s).requests = []
            ∧ ∃ raw err, e.versions = some raw ∧ c.Refusal e raw err
              ∧ (Dialogue.run serve (k.action c e args params).run s).value = .error err))
      ∧ ∀ {σ : Type} (a : Migration.Archive) (key : String) (serve : Server σ) (s : σ),
        let plain := Dialogue.run serve (importArchive ⟨c⟩ a).run s
        let withKey := Dialogue.run serve (importWithKey ⟨c⟩ a key).run s
        (∀ v, c.Assumes v →
            (v.Before ⟨[20, 13]⟩ →
              plain.requests ≠ [] ∧ Unsupported importWithKeyEndpoint ">=20.13" v withKey)
            ∧ (¬ v.Before ⟨[20, 13]⟩ →
              withKey.requests ≠ [] ∧ Unsupported importEndpoint "<20.13" v plain))
          ∧ ((∀ v, ¬ c.Assumes v) → plain.requests ≠ [] ∧ withKey.requests ≠ []) := by
  constructor
  · intro α σ k e args params serve s
    -- each way of calling is a plain call whose answer is worked on, so the gate decides alone
    obtain ⟨p, make, hk⟩ := k.exists_action_eq e
    refine ⟨fun h => k.action_of_admits h args params, fun h => ?_⟩
    obtain ⟨raw, err, hraw, hrefusal, herror⟩ := ensureSupported_of_not_admits h
    rw [hk, run_call_bind_of_error herror]
    exact ⟨rfl, raw, err, hraw, hrefusal, rfl⟩
  · intro σ a key serve s
    refine ⟨fun v hv => ⟨fun hbefore => ⟨?_, ?_⟩, fun hbefore => ⟨?_, ?_⟩⟩, fun hnone => ⟨?_, ?_⟩⟩
    · exact requests_importArchive_ne_nil hmade a serve s fun w hw => assumes_unique hv hw ▸ hbefore
    · exact unsupported_importWithKey a key serve s hv hbefore
    · exact requests_importWithKey_ne_nil hmade a key serve s
        fun w hw => assumes_unique hv hw ▸ hbefore
    · exact unsupported_importArchive a serve s hv hbefore
    · exact requests_importArchive_ne_nil hmade a serve s fun w hw => absurd hw (hnone w)
    · exact requests_importWithKey_ne_nil hmade a key serve s fun w hw => absurd hw (hnone w)

section Stock

attribute [local instance] Stock.platform

/-- The release `20.13.0`, found by a login, asks for a key. -/
theorem Client.calls_gated_20_13_0 :
    ∃ c : Client, c.Made ∧ c.Assumes ⟨[20, 13, 0]⟩ ∧ ∀ (a : Migration.Archive) (key : String),
      Unsupported importEndpoint "<20.13" ⟨[20, 13, 0]⟩
          (Dialogue.run (fun _ s => (.refused, s)) (importArchive ⟨c⟩ a).run ())
        ∧ (Dialogue.run (fun _ s => (.refused, s)) (importWithKey ⟨c⟩ a key).run ()).requests
            ≠ [] := by
  have hmade := made_onLocalhost { apiVersion := some ⟨[20, 13, 0]⟩ }
  have hassumes : ((ClientBuilder.onLocalhost { apiVersion := some ⟨[20, 13, 0]⟩ }).client
      []).Assumes ⟨[20, 13, 0]⟩ := Or.inr ⟨rfl, rfl⟩
  have hsame : (⟨[20, 13, 0]⟩ : Version).Same ⟨[20, 13]⟩ := by
    rintro (_ | _ | _ | i) <;> rfl
  refine ⟨_, hmade, hassumes, fun a key => ?_⟩
  obtain ⟨hsends, hunsupported⟩ :=
    ((Client.calls_gated hmade).2 a key (fun _ s => (.refused, s)) ()).1 _ hassumes |>.2
      hsame.not_before
  exact ⟨hunsupported, hsends⟩

end Stock

end Sdwan
