/-
What records write, read off their descriptions.

A description of a record is put together from its members with `<$>` and
`<*>`. The laws below are classes that follow this structure: one instance
for each way to build a description, so that a law of a whole record is
found from the laws of the types of its members.
-/
import Mathlib.Data.List.Nodup
import Sdwan.Json.Codec
import Sdwan.Proofs.Json.Lookup

namespace Sdwan.Json

/-- Every value of the type is written as JSON of a certain form. -/
class Writes (P : Json → Prop) (α : Type) [Coded α] : Prop where
  form : ∀ a : α, P (encode a)

namespace Members

variable {σ τ α β : Type} {P : Json → Prop}

/-- The names of the members that a description speaks of. -/
def names (m : Members σ α) : List String := m.slots.map Slot.name

/-- The members are written in the order of their slots; some of them may
be left out. -/
class Orderly (m : Members σ α) : Prop where
  sublist : ∀ s, (keys (m.write s)).Sublist m.names

/-- All members are written, whatever their values are. -/
class Complete (m : Members σ α) : Prop where
  keys_write : ∀ s, keys (m.write s) = m.names

instance (m : Members σ α) [Complete m] : Orderly m :=
  ⟨fun s => Complete.keys_write (m := m) s ▸ List.Sublist.refl _⟩

/-- Every value that is written has a certain form. -/
class AllOf (P : Json → Prop) (m : Members σ α) : Prop where
  form : ∀ s, ∀ f ∈ m.write s, P f.2

/-- What is written begins with a member of this name. -/
class Begins (m : Members σ α) (name : outParam String) : Prop where
  head_write : ∀ s, (keys (m.write s)).head? = some name

/-- What a record writes has no member twice. -/
theorem nodup_write (m : Members σ α) [Orderly m] (h : m.names.Nodup) (s : σ) :
    (keys (m.write s)).Nodup := h.sublist (Orderly.sublist s)

/-- A name that no slot has is not written. -/
theorem notMem_write (m : Members σ α) [Orderly m] {name : String} (h : name ∉ m.names) (s : σ) :
    name ∉ keys (m.write s) := fun hmem => h ((Orderly.sublist s).subset hmem)

-- ============================================== putting members together

@[simp] theorem names_seq (f : Members σ (α → β)) (x : Members σ α) :
    (f <*> x).names = f.names ++ x.names := List.map_append

instance (f : Members σ (α → β)) (x : Members σ α) [Orderly f] [Orderly x] :
    Orderly (f <*> x) where
  sublist s := by
    rw [names_seq]
    show (keys (f.write s ++ x.write s)).Sublist _
    rw [keys_append]
    exact (Orderly.sublist s).append (Orderly.sublist s)

instance (f : α → β) (x : Members σ α) [Orderly x] : Orderly (f <$> x) :=
  ⟨(Orderly.sublist (m := x) ·)⟩

instance (part : τ → σ) (x : Members σ α) [Orderly x] : Orderly (x.within part) :=
  ⟨fun t => Orderly.sublist (m := x) (part t)⟩

instance (f : Members σ (α → β)) (x : Members σ α) [Complete f] [Complete x] :
    Complete (f <*> x) where
  keys_write s := by
    rw [names_seq, ← Complete.keys_write (m := f) s, ← Complete.keys_write (m := x) s]
    exact keys_append _ _

instance (f : α → β) (x : Members σ α) [Complete x] : Complete (f <$> x) :=
  ⟨(Complete.keys_write (m := x) ·)⟩

instance (part : τ → σ) (x : Members σ α) [Complete x] : Complete (x.within part) :=
  ⟨fun t => Complete.keys_write (m := x) (part t)⟩

instance (f : Members σ (α → β)) (x : Members σ α) [AllOf P f] [AllOf P x] :
    AllOf P (f <*> x) where
  form s m hm := by
    rcases List.mem_append.mp hm with hm | hm
    · exact AllOf.form s m hm
    · exact AllOf.form s m hm

instance (f : α → β) (x : Members σ α) [AllOf P x] : AllOf P (f <$> x) :=
  ⟨(AllOf.form (m := x) ·)⟩

instance (part : τ → σ) (x : Members σ α) [AllOf P x] : AllOf P (x.within part) :=
  ⟨fun t => AllOf.form (m := x) (part t)⟩

instance (f : Members σ (α → β)) (x : Members σ α) (name : String) [Begins f name] :
    Begins (f <*> x) name where
  head_write s := by
    show (keys (f.write s ++ x.write s)).head? = some name
    rw [keys_append, List.head?_append, Begins.head_write s]
    rfl

instance (f : α → β) (x : Members σ α) (name : String) [Begins x name] : Begins (f <$> x) name :=
  ⟨(Begins.head_write (m := x) ·)⟩

-- ============================================== single members

section Single

variable (name : String) (read : Reader α) (absent short : Option α) (write : σ → Option Json)

/-- A single member is written under its name or not at all. -/
theorem mem_write_member {s : σ} {f : String × Json}
    (h : f ∈ (member name read absent short write).write s) :
    f.1 = name ∧ write s = some f.2 := by
  change f ∈ memberIf name id (write s) at h
  cases hw : write s with
  | none =>
      rw [hw] at h
      cases h
  | some v =>
      rw [hw, memberIf, List.mem_singleton] at h
      subst h
      exact ⟨rfl, rfl⟩

instance : Orderly (member name read absent short write) where
  sublist s := by
    show (keys (memberIf name id (write s))).Sublist [name]
    cases write s with
    | none => exact List.nil_sublist _
    | some v => exact List.Sublist.refl _

end Single

variable [Coded α] (name : String)

instance (get : σ → α) : Complete (required name get) := ⟨fun _ => rfl⟩

instance (get : σ → α) : Begins (required name get) name := ⟨fun _ => rfl⟩

instance (fallback : α) (get : σ → α) : Complete (defaulted name fallback get) := ⟨fun _ => rfl⟩

instance (get : σ → Option α) : Complete (nullable name get) := ⟨fun _ => rfl⟩

instance (get : σ → Option α) : Orderly (optional name get) := by
  unfold optional
  infer_instance

instance (get : σ → α) [Writes P α] : AllOf P (required name get) where
  form s f hf := by
    have hw := (mem_write_member _ _ _ _ _ hf).2
    exact Option.some.inj hw ▸ Writes.form (get s)

instance (fallback : α) (get : σ → α) [Writes P α] : AllOf P (defaulted name fallback get) where
  form s f hf := by
    have hw := (mem_write_member _ _ _ _ _ hf).2
    exact Option.some.inj hw ▸ Writes.form (get s)

instance (get : σ → Option α) [Writes P α] : AllOf P (optional name get) where
  form s f hf := by
    obtain ⟨a, -, ha⟩ := Option.map_eq_some_iff.mp (mem_write_member _ _ _ _ _ hf).2
    exact ha ▸ Writes.form a

instance (get : σ → Option α) [Writes P (Option α)] : AllOf P (nullable name get) where
  form s f hf := by
    have hw := (mem_write_member _ _ _ _ _ hf).2
    exact Option.some.inj hw ▸ Writes.form (get s)

end Members

end Sdwan.Json
