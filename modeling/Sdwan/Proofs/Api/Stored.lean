/-
Configurations as they are stored.

# Reading

What a description puts together has a property when its function has it for
all that its members may bring (`Members.Yields`). The password of a
configuration is no member: nothing that is read brings one
(`password_of_decode`).

# Reading back

Everything else is read as it was written. A release without components is
the exception, since its text is empty; configurations without one are a type
of their own here (`Config.Numbered`), and its description restores all of
them but for the password.
-/
import Sdwan.Api.Config
import Sdwan.Proofs.Json.Faithful
import Sdwan.Proofs.Success
import Sdwan.Proofs.Version.Text

namespace Sdwan

open Json

namespace Json

/-- What a text is read as is what its draft is read as. -/
theorem read_of_readText {α : Type} {read : Reader α} {s : String} {a : α}
    (h : readText read s = .ok a) : read .text (Draft.ofText s).1 = .ok a := by
  unfold readText readBytes at h
  unfold Draft.ofText
  generalize Draft.ofBytes (Text.bytesOf s) = parsed at h ⊢
  obtain ⟨d, clean⟩ := parsed
  obtain ⟨a', hread, h⟩ := ok_bind_iff.mp h
  cases clean with
  | true =>
      cases h
      exact hread
  | false => cases h

namespace Members

variable {σ α β : Type} {P : β → Prop}

/-- Whatever the description puts together, from an object or from an array,
has the property. -/
structure Yields (m : Members σ α) (P : α → Prop) : Prop where
  build : ∀ {o find a}, m.build o find = .ok a → P a
  take : ∀ {o expected c a c'}, m.take o expected c = .ok (a, c') → P a

/-- A constant yields itself. -/
theorem yields_pure (a : α) : (pure a : Members σ α).Yields (· = a) where
  build h := by
    cases h
    rfl
  take h := by
    cases h
    rfl

/-- What holds of all images holds of what is mapped. -/
theorem Yields.map {f : α → β} (h : ∀ a, P (f a)) (x : Members σ α) : (f <$> x).Yields P where
  build hb := by
    obtain ⟨a, -, rfl⟩ := ok_map_iff.mp hb
    exact h a
  take ht := by
    obtain ⟨⟨a, c⟩, -, heq⟩ := ok_map_iff.mp ht
    cases heq
    exact h a

/-- A member that can only bring some of the values. -/
theorem Yields.seq_of {f : Members σ (α → β)} {x : Members σ α} {Q : α → Prop} (hx : x.Yields Q)
    (hf : f.Yields fun g => ∀ a, Q a → P (g a)) : (f <*> x).Yields P where
  build hb := by
    obtain ⟨g, hg, hb⟩ := ok_bind_iff.mp hb
    obtain ⟨a, ha, heq⟩ := ok_bind_iff.mp hb
    cases heq
    exact hf.build hg a (hx.build ha)
  take ht := by
    obtain ⟨⟨g, c⟩, hg, ht⟩ := ok_bind_iff.mp ht
    obtain ⟨⟨a, c'⟩, ha, heq⟩ := ok_bind_iff.mp ht
    cases heq
    exact hf.take hg a (hx.take ha)

/-- Of a function and its argument, it is enough that the function leads there. -/
theorem Yields.seq {f : Members σ (α → β)} (hf : f.Yields fun g => ∀ a, P (g a))
    (x : Members σ α) : (f <*> x).Yields P :=
  .seq_of (Q := fun _ => True) ⟨fun _ => trivial, fun _ => trivial⟩
    ⟨fun hg a _ => hf.build hg a, fun hg a _ => hf.take hg a⟩

/-- A record that was read is what its description yields. -/
theorem Yields.of_readRecord {m : Members σ β} (h : m.Yields P) {name : String} {o : Origin}
    {d : Draft} {b : β} (hread : m.readRecord name o d = .ok b) : P b := by
  cases d with
  | object ms closed =>
      obtain ⟨-, -, hbuild⟩ := ok_bind_iff.mp hread
      cases closed with
      | true => exact h.build hbuild
      | false => cases hbuild
  | array xs closed =>
      obtain ⟨⟨b', c⟩, htake, hrest⟩ := ok_bind_iff.mp hread
      obtain ⟨-, -, heq⟩ := ok_bind_iff.mp hrest
      cases heq
      exact h.take htake
  | null | bool | number | string | hugeNumber | brokenString | tooDeep | fault => cases hread

end Members

end Json

-- ============================================== versions

/-- A version is read back from its text. -/
theorem Version.read_encode {v : Version} (h : v.components ≠ []) (o : Origin) :
    Coded.read o (Draft.ofJson (encode v)) = .ok v := by
  show read o (.string v.text) = .ok v
  simp only [read, readString, readStringAs, bind, Except.bind, parse_text h]

namespace Config

open Members

-- ============================================== reading

/-- No password is read. -/
theorem yields_members : members.Yields fun c => c.password = none := by
  have hbefore : (Config.mk <$> required "url" Config.url
      <*> required "username" Config.username).Yields
        fun g => ∀ p, p = none → ∀ verify cert time count v id,
          (g p verify cert time count v id).password = none :=
    .seq (.map (fun _ _ _ hp _ _ _ _ _ _ => hp) _) _
  exact .seq (.seq (.seq (.seq (.seq (.seq (.seq_of (yields_pure none) hbefore) _) _) _) _) _) _

/-- A configuration that was read has no password. -/
theorem password_of_decode {j : Json} {c : Config} (h : decode j = .ok c) : c.password = none :=
  yields_members.of_readRecord h

/-- Nor has one that was read from a text. -/
theorem password_of_decodeText {s : String} {c : Config} (h : decodeText s = .ok c) :
    c.password = none := by
  have hread : members.readRecord "VmanageClientConfig" .text (Draft.ofText s).1 = .ok c :=
    read_of_readText h
  exact yields_members.of_readRecord hread

-- ============================================== reading back

/-- A configuration whose release, if it has one, has components. -/
abbrev Numbered := { c : Config // ∀ v, c.apiVersion = some v → v.components ≠ [] }

instance : Restores (optional "api_version" fun c : Numbered => c.1.apiVersion)
    fun c => c.1.apiVersion := by
  refine restores_member (fun c j hj o => ?_) fun c hnone => ?_
  · obtain ⟨v, hv, rfl⟩ := Option.map_eq_some_iff.mp hj
    exact (congrArg (Except.map some) (Version.read_encode (c.2 v hv) o)).trans
      (congrArg Except.ok hv.symm)
  · exact congrArg some (Option.map_eq_none_iff.mp hnone).symm

instance : Restores (member "tls_ca_cert" readPath (some none) none
    fun c : Numbered => c.1.caCert.map Json.string) fun c => c.1.caCert := by
  refine restores_member (fun c j hj o => ?_) fun c hnone => ?_
  · obtain ⟨path, hpath, rfl⟩ := Option.map_eq_some_iff.mp hj
    exact congrArg Except.ok hpath.symm
  · exact congrArg some (Option.map_eq_none_iff.mp hnone).symm

set_option synthInstance.maxSize 1000 in
instance : (members.within fun c : Numbered => c.1).Restores
    fun c => { c.1 with password := none } := by
  have : (Config.mk <$> required "url" (fun c : Numbered => c.1.url)
      <*> required "username" (fun c => c.1.username)
      <*> pure none
      <*> defaulted "tls_verify" true (fun c => c.1.tlsVerify)
      <*> member "tls_ca_cert" readPath (some none) none (fun c => c.1.caCert.map Json.string)
      <*> defaulted "request_timeout_secs" 30 (fun c => c.1.timeoutSeconds)
      <*> defaulted "max_retries" 3 (fun c => c.1.maxRetries)
      <*> optional "api_version" (fun c => c.1.apiVersion)
      <*> optional "vsession_id" (fun c => c.1.vsessionId)).Restores
        fun c => { c.1 with password := none } := inferInstance
  exact this

instance : members.Orderly := by
  unfold members
  infer_instance

/-- All but the password is read back. -/
theorem decode_encode_config {c : Config} (h : ∀ v, c.apiVersion = some v → v.components ≠ []) :
    decode (encode c) = .ok { c with password := none } :=
  have hnames : members.names.Nodup := by decide
  readMembers_of_agree (m := members.within fun c : Numbered => c.1) hnames .value
    (members.nodup_write hnames c) ⟨c, h⟩ fun _ _ => rfl

end Config

end Sdwan
