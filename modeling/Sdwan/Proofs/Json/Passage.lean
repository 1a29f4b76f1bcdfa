/-
What is read does not depend on whether a document stands by itself or was
set aside while another one was read, with one exception.

# The exception

Beside the name of a variant a part set aside may hold an empty object, where
a document that stands by itself has to hold `null`. A document without such
an object is not *braced* (`Braced`).

# Passages

A `Passage` goes from one origin to another, for documents of a certain sort.
A type passes when what is read of a document at the one origin is read at
the other, too (`Passes`). Types with names of variants need a passage on
which what stands beside them passes (`PassesUnit`).

# Records

A description passes when its checks and its readers do (`Members.Passes`).
There is an instance for each way to build one, so whether a record passes is
found from the types of its members.
-/
import Sdwan.Proofs.Json.Draft
import Sdwan.Proofs.Success

namespace Sdwan.Json

-- ============================================== refinement

variable {α β : Type}

/-- What the first gives, the second gives, too. -/
def Refines (r s : Decoded α) : Prop := ∀ a, r = .ok a → s = .ok a

namespace Refines

theorem refl (r : Decoded α) : Refines r r := fun _ h => h

theorem of_error (e : DecodeError) (s : Decoded α) : Refines (.error e) s := nofun

theorem bind {r s : Decoded α} {f g : α → Decoded β} (h : Refines r s)
    (hf : ∀ a, r = .ok a → Refines (f a) (g a)) : Refines (r >>= f) (s >>= g) := by
  intro b hb
  cases r with
  | error e => cases hb
  | ok a =>
      rw [h a rfl]
      exact hf a rfl b hb

theorem map {r s : Decoded α} (h : Refines r s) (f : α → β) : Refines (r.map f) (s.map f) := by
  intro b hb
  cases r with
  | error e => cases hb
  | ok a =>
      rw [h a rfl]
      exact hb

end Refines

-- ============================================== passages

/-- A way from one origin to another for the documents that it allows, and
with them for all documents inside them. -/
structure Passage where
  source : Origin
  target : Origin
  source_ne_text : source ≠ .text
  target_ne_text : target ≠ .text
  allows : Draft → Prop
  item : ∀ {xs : List Draft} {closed : Bool}, allows (.array xs closed) → ∀ d ∈ xs, allows d
  member : ∀ {ms : List (Option String × Draft)} {closed : Bool}, allows (.object ms closed) →
    ∀ f ∈ ms, allows f.2

variable {p : Passage}

/-- What is read before the passage is read behind it. -/
class Passes (p : Passage) (α : Type) [Coded α] : Prop where
  refines : ∀ d, p.allows d →
    Refines (Coded.read p.source d : Decoded α) (Coded.read p.target d)

/-- What may stand beside the name of a variant passes. -/
class PassesUnit (p : Passage) : Prop where
  refines : ∀ {k : Option String} {d : Draft} {closed : Bool}, p.allows (.object [(k, d)] closed) →
    Refines (readUnit p.source d) (readUnit p.target d)

-- ============================================== braces

/-- The value has an object whose only member is an empty object. -/
inductive Braced : Json → Prop where
  | object (k : String) : Braced (.object [(k, .object [])])
  | item {xs : List Json} {x : Json} (mem : x ∈ xs) (braced : Braced x) : Braced (.array xs)
  | member {ms : List (String × Json)} {f : String × Json} (mem : f ∈ ms) (braced : Braced f.2) :
      Braced (.object ms)

namespace Passage

/-- Any document is set aside. -/
def aside : Passage where
  source := .value
  target := .buffer
  source_ne_text := nofun
  target_ne_text := nofun
  allows _ := True
  item _ _ _ := trivial
  member _ _ _ := trivial

/-- Any document is taken for one that stands by itself. -/
def back : Passage where
  source := .buffer
  target := .value
  source_ne_text := nofun
  target_ne_text := nofun
  allows _ := True
  item _ _ _ := trivial
  member _ _ _ := trivial

/-- The same for values that are not braced. -/
def unbraced : Passage where
  source := .buffer
  target := .value
  source_ne_text := nofun
  target_ne_text := nofun
  allows d := ∃ j, ¬ Braced j ∧ Draft.ofJson j = d
  item := by
    rintro ds closed ⟨j, hj, hd⟩ d hmem
    cases j with
    | array xs =>
        obtain ⟨rfl, -⟩ := Draft.array.inj hd
        obtain ⟨x, hx, rfl⟩ := Draft.mem_ofItems.mp hmem
        exact ⟨x, fun h => hj (.item hx h), rfl⟩
    | _ => cases hd
  member := by
    rintro ds closed ⟨j, hj, hd⟩ f hmem
    cases j with
    | object ms =>
        obtain ⟨rfl, -⟩ := Draft.object.inj hd
        obtain ⟨g, hg, rfl⟩ := Draft.mem_ofMembers.mp hmem
        exact ⟨g.2, fun h => hj (.member hg h), rfl⟩
    | _ => cases hd

end Passage

/-- Where `null` is asked for it is accepted in a part, too. -/
instance : PassesUnit .aside where
  refines {_ d _} _ := by
    unfold readUnit
    split
    · exact .refl _
    · exact .of_error _ _
    · exact .refl _

/-- A part that is not braced has no empty object beside a name. -/
instance : PassesUnit .unbraced where
  refines := by
    rintro k d closed ⟨j, hj, hd⟩
    cases j with
    | object ms =>
        obtain ⟨hms, -⟩ := Draft.object.inj hd
        obtain _ | ⟨⟨k', v⟩, _ | _⟩ := ms
        · cases hms
        · obtain ⟨-, rfl⟩ := Prod.mk.inj (List.cons.inj hms).1
          unfold readUnit
          split
          · exact .refl _
          · next closed' hv =>
              cases v with
              | object ns =>
                  cases ns with
                  | nil => exact absurd (.object k') hj
                  | cons n ns => cases hv
              | _ => cases hv
          · exact .refl _
        · cases hms
    | _ => cases hd

-- ============================================== types

instance : Passes p String := ⟨fun _ _ => .refl _⟩
instance : Passes p Bool := ⟨fun _ _ => .refl _⟩
instance : Passes p UInt8 := ⟨fun _ _ => .refl _⟩
instance : Passes p UInt16 := ⟨fun _ _ => .refl _⟩
instance : Passes p UInt32 := ⟨fun _ _ => .refl _⟩
instance : Passes p UInt64 := ⟨fun _ _ => .refl _⟩

instance (expected : String) (print : α → String) (parse : String → Option α) :
    @Passes p α (codedByText expected print parse) :=
  @Passes.mk p α (codedByText expected print parse) fun _ _ => .refl _

instance [Coded α] [Passes p α] : Passes p (Option α) where
  refines d hd := by
    show Refines (readNullable Coded.read p.source d) (readNullable Coded.read p.target d)
    unfold readNullable
    split
    · exact .refl _
    · exact (Passes.refines d hd).map some

theorem passes_items [Coded α] [Passes p α] {xs : List Draft} (h : ∀ d ∈ xs, p.allows d) :
    Refines (readItems (Coded.read (α := α)) p.source xs) (readItems Coded.read p.target xs) := by
  induction xs with
  | nil => exact .refl _
  | cons d ds ih =>
      obtain ⟨hd, hds⟩ := List.forall_mem_cons.mp h
      exact (Passes.refines d hd).bind fun _ _ => (ih hds).bind fun _ _ => .refl _

instance [Coded α] [Passes p α] : Passes p (List α) where
  refines d hd := by
    show Refines (readList Coded.read p.source d) (readList Coded.read p.target d)
    unfold readList
    split
    · exact (passes_items (p.item hd)).bind fun _ _ => .refl _
    · exact .refl _

/-- A name of a variant passes where what stands beside it does. -/
instance [PassesUnit p] (variants : List (String × α)) (name : α → String) :
    @Passes p α (codedByName variants name) :=
  @Passes.mk p α (codedByName variants name) fun d hd => by
    have hsource : (p.source == .text) = false := beq_eq_false_iff_ne.mpr p.source_ne_text
    have htarget : (p.target == .text) = false := beq_eq_false_iff_ne.mpr p.target_ne_text
    show Refines (readVariant variants p.source d) (readVariant variants p.target d)
    unfold readVariant
    rw [hsource, htarget]
    simp only [Bool.false_eq_true, if_false]
    split
    · exact .refl _
    · split
      · exact (Refines.refl _).bind fun _ _ => (PassesUnit.refines hd).bind fun _ _ => .refl _
      · exact .refl _
    · exact .refl _

-- ============================================== descriptions

namespace Members

variable {σ τ : Type}

/-- The checks of a description pass, and what it makes of members by their
names or by their positions. -/
class Passes (p : Passage) (m : Members σ α) : Prop where
  check : ∀ slot ∈ m.slots, ∀ d, p.allows d →
    Refines (slot.check p.source d) (slot.check p.target d)
  build : ∀ find : String → Option Draft, (∀ name d, find name = some d → p.allows d) →
    Refines (m.build p.source find) (m.build p.target find)
  take : ∀ expected c, (∀ d ∈ c.rest, p.allows d) →
    Refines (m.take p.source expected c) (m.take p.target expected c)
  rest : ∀ expected c, (∀ d ∈ c.rest, p.allows d) →
    ∀ a c', m.take p.source expected c = .ok (a, c') → ∀ d ∈ c'.rest, p.allows d

instance (a : α) : Passes p (pure a : Members σ α) where
  check _ h := absurd h List.not_mem_nil
  build _ _ := .refl _
  take _ _ _ := .refl _
  rest _ _ hc _ _ h := by
    obtain ⟨-, rfl⟩ := Prod.mk.inj (Except.ok.inj h)
    exact hc

instance (f : α → β) (x : Members σ α) [Passes p x] : Passes p (f <$> x) where
  check := Passes.check (m := x)
  build find hfind := (Passes.build (m := x) find hfind).map f
  take expected c hc := (Passes.take (m := x) expected c hc).map _
  rest expected c hc b c' h := by
    obtain ⟨⟨a, c''⟩, hx, hb⟩ := ok_map_iff.mp h
    obtain ⟨-, rfl⟩ := Prod.mk.inj hb
    exact Passes.rest (m := x) expected c hc a c'' hx

instance (part : τ → σ) (x : Members σ α) [Passes p x] : Passes p (x.within part) where
  check := Passes.check (m := x)
  build := Passes.build (m := x)
  take := Passes.take (m := x)
  rest := Passes.rest (m := x)

instance (f : Members σ (α → β)) (x : Members σ α) [Passes p f] [Passes p x] :
    Passes p (f <*> x) where
  check slot hslot := (List.mem_append.mp hslot).elim (Passes.check slot) (Passes.check slot)
  build find hfind := (Passes.build (m := f) find hfind).bind fun _ _ =>
    (Passes.build (m := x) find hfind).bind fun _ _ => .refl _
  take expected c hc := (Passes.take (m := f) expected c hc).bind fun (g, c') hf =>
    (Passes.take (m := x) expected c' (Passes.rest expected c hc g c' hf)).bind fun _ _ => .refl _
  rest expected c hc b c' h := by
    obtain ⟨⟨g, c''⟩, hf, h⟩ := ok_bind_iff.mp h
    obtain ⟨⟨a, c'''⟩, hx, h⟩ := ok_bind_iff.mp h
    obtain ⟨-, rfl⟩ := Prod.mk.inj (Except.ok.inj h)
    exact Passes.rest expected c'' (Passes.rest expected c hc g c'' hf) a c''' hx

/-- A single member passes when its reader does. -/
theorem passes_member {name : String} {read : Reader α} {absent short : Option α}
    {write : σ → Option Json}
    (h : ∀ d, p.allows d → Refines (read p.source d) (read p.target d)) :
    Passes p (member name read absent short write) where
  check slot hslot d hd := by
    obtain rfl := List.mem_singleton.mp hslot
    exact (h d hd).map _
  build find hfind := by
    unfold member
    dsimp only
    split
    · next d hd => exact h d (hfind name d hd)
    · exact .refl _
  take expected c hc := by
    obtain ⟨xs, closed, i⟩ := c
    cases xs with
    | nil => exact .refl _
    | cons d ds => exact (h d (hc d List.mem_cons_self)).map _
  rest expected c hc a c' hread := by
    obtain ⟨xs, closed, i⟩ := c
    cases xs with
    | nil =>
        -- Nothing is left behind the end of the array.
        cases closed with
        | false => cases hread
        | true =>
            cases short with
            | none => cases hread
            | some a' =>
                obtain ⟨-, rfl⟩ := Prod.mk.inj (Except.ok.inj hread)
                exact List.forall_mem_nil _
    | cons d ds =>
        obtain ⟨a', -, ha⟩ := ok_map_iff.mp hread
        obtain ⟨-, rfl⟩ := Prod.mk.inj ha
        exact fun d' hd' => hc d' (List.mem_cons_of_mem d hd')

section Single

variable [Coded α] [Json.Passes p α] (name : String)

instance (get : σ → α) : Passes p (required name get) := passes_member Passes.refines

instance (fallback : α) (get : σ → α) : Passes p (defaulted name fallback get) :=
  passes_member Passes.refines

instance (get : σ → Option α) : Passes p (optional name get) := passes_member Passes.refines

end Single

-- ============================================== records

/-- The scan of an object passes when the checks of its members do. -/
theorem refines_scan {slots : List Slot} {seen : List String} {ms : List (Option String × Draft)}
    (hms : ∀ f ∈ ms, p.allows f.2) (h : ∀ slot ∈ slots, ∀ d, p.allows d →
      Refines (slot.check p.source d) (slot.check p.target d)) :
    Refines (scan slots p.source seen ms) (scan slots p.target seen ms) := by
  induction ms generalizing seen with
  | nil => exact .refl _
  | cons f ms ih =>
      obtain ⟨hd, htail⟩ := List.forall_mem_cons.mp hms
      obtain ⟨none | k, d⟩ := f
      · exact .refl _
      · have hsource : (p.source == .text) = false := beq_eq_false_iff_ne.mpr p.source_ne_text
        have htarget : (p.target == .text) = false := beq_eq_false_iff_ne.mpr p.target_ne_text
        rw [scan, scan, hsource, htarget]
        split
        · next slot hslot =>
            split
            · exact .refl _
            · have hcheck := h slot (List.mem_of_find?_eq_some hslot) d hd
              exact hcheck.bind fun _ _ => ih htail
        · exact ih htail

/-- What is left over behind a record is an error at both origins. -/
theorem refines_finish (c : Cursor) : Refines (finish p.source c) (finish p.target c) := by
  unfold finish
  split
  · exact .refl _
  · have hsource := p.source_ne_text
    cases hs : p.source with
    | text => exact absurd hs hsource
    | value => exact .of_error _ _
    | buffer => exact .of_error _ _

/-- What is found under a name is one of the members. -/
theorem allows_findMember {ms : List (Option String × Draft)} (hms : ∀ f ∈ ms, p.allows f.2)
    (name : String) (d : Draft) (h : findMember ms name = some d) : p.allows d := by
  obtain ⟨before, behind, rfl, -⟩ := List.lookup_eq_some_iff.mp h
  exact hms _ (List.mem_append_right _ List.mem_cons_self)

/-- The members of an object pass. -/
theorem refines_readMembers (m : Members σ α) [Passes p m] {ms : List (Option String × Draft)}
    (hms : ∀ f ∈ ms, p.allows f.2) (closed : Bool) :
    Refines (m.readMembers p.source ms closed) (m.readMembers p.target ms closed) := by
  refine (refines_scan hms Passes.check).bind fun _ _ => ?_
  split
  · exact Passes.build (findMember ms) (allows_findMember hms)
  · exact .refl _

instance (m : Members σ σ) [Passes p m] (name : String) : @Json.Passes p σ (m.coded name) :=
  @Json.Passes.mk p σ (m.coded name) fun d hd => by
    show Refines (m.readRecord name p.source d) (m.readRecord name p.target d)
    unfold readRecord
    split
    · exact refines_readMembers m (p.member hd) _
    · exact (Passes.take _ ⟨_, _, 0⟩ (p.item hd)).bind fun ac _ =>
        (refines_finish ac.2).bind fun _ _ => .refl _
    · exact .refl _

end Members

end Sdwan.Json
