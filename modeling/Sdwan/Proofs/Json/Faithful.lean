/-
What is written can be read back.

# Types

A type is *faithful* when the reader gets back what was written, wherever
the document comes from (`Faithful`).

# Records

For a record this is put together member by member. A description
*restores* a value when each of its members, found under its name, is read
as what was written there (`Members.Restores`); an instance for each way to
build a description follows. The members of a record can stand in a larger
object, between members that the description does not know. So the law of
records (`readMembers_of_agree`) asks only that the object agrees with what
was written on the names of the description.
-/
import Sdwan.Proofs.Json.Draft
import Sdwan.Proofs.Json.Members

namespace Sdwan.Json

/-- What is written of a value is read as this value. -/
class Faithful (α : Type) [Coded α] : Prop where
  read_encode : ∀ (o : Origin) (a : α), Coded.read o (Draft.ofJson (encode a)) = .ok a

/-- What is written of a value decodes to it. -/
theorem decode_encode {α : Type} [Coded α] [Faithful α] (a : α) : decode (encode a) = .ok a :=
  Faithful.read_encode .value a

-- ============================================== basic types

instance : Faithful String := ⟨fun _ _ => rfl⟩
instance : Faithful Bool := ⟨fun _ _ => rfl⟩

theorem readNatBelow_nat {bound n : Nat} (h : n < bound) (expected : String) (o : Origin) :
    readNatBelow bound expected o (Draft.ofJson (.nat n)) = .ok n := by
  show (if 0 ≤ (n : Int) ∧ (n : Int) < bound then Except.ok (n : Int).toNat else _) = _
  rw [if_pos ⟨Int.natCast_nonneg n, Int.ofNat_lt.mpr h⟩, Int.toNat_natCast]

instance : Faithful UInt8 where
  read_encode o n := by
    show (readNatBelow UInt8.size "u8" o (Draft.ofJson (.nat n.toNat))).map UInt8.ofNat = .ok n
    rw [readNatBelow_nat n.toNat_lt]
    exact congrArg Except.ok n.ofNat_toNat

instance : Faithful UInt16 where
  read_encode o n := by
    show (readNatBelow UInt16.size "u16" o (Draft.ofJson (.nat n.toNat))).map UInt16.ofNat = .ok n
    rw [readNatBelow_nat n.toNat_lt]
    exact congrArg Except.ok n.ofNat_toNat

instance : Faithful UInt32 where
  read_encode o n := by
    show (readNatBelow UInt32.size "u32" o (Draft.ofJson (.nat n.toNat))).map UInt32.ofNat = .ok n
    rw [readNatBelow_nat n.toNat_lt]
    exact congrArg Except.ok n.ofNat_toNat

instance : Faithful UInt64 where
  read_encode o n := by
    show (readNatBelow UInt64.size "u64" o (Draft.ofJson (.nat n.toNat))).map UInt64.ofNat = .ok n
    rw [readNatBelow_nat n.toNat_lt]
    exact congrArg Except.ok n.ofNat_toNat

/-- A value that is not `null`. -/
def IsSet (j : Json) : Prop := j ≠ .null

instance : Writes IsSet String := ⟨fun _ => nofun⟩
instance : Writes IsSet Bool := ⟨fun _ => nofun⟩
instance : Writes IsSet UInt8 := ⟨fun _ => nofun⟩
instance : Writes IsSet UInt16 := ⟨fun _ => nofun⟩
instance : Writes IsSet UInt32 := ⟨fun _ => nofun⟩
instance : Writes IsSet UInt64 := ⟨fun _ => nofun⟩

section Containers

variable {α : Type} [Coded α]

instance : Writes IsSet (List α) := ⟨fun _ => nofun⟩

variable [Faithful α]

/-- A value that is not written as `null` is read as one that is there. -/
theorem readNullable_encode [Writes IsSet α] (o : Origin) (a : α) :
    readNullable Coded.read o (Draft.ofJson (encode a)) = .ok (some a) := by
  have hset : encode a ≠ .null := Writes.form (P := IsSet) a
  have hread := Faithful.read_encode o a
  revert hread
  cases hj : encode a with
  | null => exact absurd hj hset
  | bool b => intro hread; exact congrArg (Except.map some) hread
  | number n => intro hread; exact congrArg (Except.map some) hread
  | string s => intro hread; exact congrArg (Except.map some) hread
  | array xs => intro hread; exact congrArg (Except.map some) hread
  | object ms => intro hread; exact congrArg (Except.map some) hread

instance [Writes IsSet α] : Faithful (Option α) where
  read_encode o
    | none => rfl
    | some a => readNullable_encode o a

/-- A list is read item by item. -/
theorem readItems_encode (o : Origin) (as : List α) :
    readItems Coded.read o (Draft.ofItems (as.map encode)) = .ok as := by
  induction as with
  | nil => rfl
  | cons a as ih =>
      rw [List.map_cons, Draft.ofItems, readItems, Faithful.read_encode, ih]
      rfl

instance : Faithful (List α) where
  read_encode o as := by
    show (readItems Coded.read o (Draft.ofItems (as.map encode)) >>= fun as => Except.ok as) = _
    rw [readItems_encode]
    rfl

end Containers

/-- A finite type is faithful when every value is found under its name. -/
theorem faithful_byName {α : Type} {variants : List (String × α)} {name : α → String}
    (h : ∀ a, variants.lookup (name a) = some a) : @Faithful α (codedByName variants name) :=
  @Faithful.mk α (codedByName variants name) fun o a => by
    show pickVariant variants (name a) = _
    rw [pickVariant, h a]

instance {α : Type} (variants : List (String × α)) (name : α → String) :
    @Writes IsSet α (codedByName variants name) :=
  @Writes.mk IsSet α (codedByName variants name) fun _ => nofun

/-- A type that is written as text is faithful when every text that is
written means the value. -/
theorem faithful_byText {α : Type} {expected : String} {print : α → String}
    {parse : String → Option α} (h : ∀ a, parse (print a) = some a) :
    @Faithful α (codedByText expected print parse) :=
  @Faithful.mk α (codedByText expected print parse) fun o a => by
    show readParsed expected parse o (.string (print a)) = _
    unfold readParsed
    simp only [readStringAs, bind, Except.bind, h a]

instance {α : Type} (expected : String) (print : α → String) (parse : String → Option α) :
    @Writes IsSet α (codedByText expected print parse) :=
  @Writes.mk IsSet α (codedByText expected print parse) fun _ => nofun

-- ============================================== descriptions

namespace Members

variable {σ τ α β γ : Type}

/-- A description reads `get s` out of what it writes of `s`: every member
passes its check, and together they make up the value. -/
class Restores (m : Members σ α) (get : outParam (σ → α)) : Prop where
  check : m.names.Nodup → ∀ o s, ∀ f ∈ m.write s, ∀ slot ∈ m.slots, slot.name = f.1 →
    slot.check o (Draft.ofJson f.2) = .ok ()
  build : m.names.Nodup → ∀ o s (find : String → Option Draft),
    (∀ name ∈ m.names, find name = ((m.write s).lookup name).map Draft.ofJson) →
      m.build o find = .ok (get s)

theorem name_mem_names {m : Members σ α} {slot : Slot} (h : slot ∈ m.slots) :
    slot.name ∈ m.names := List.mem_map_of_mem h

theorem mem_names_of_write (m : Members σ α) [Orderly m] {s : σ} {f : String × Json}
    (h : f ∈ m.write s) : f.1 ∈ m.names := (Orderly.sublist s).subset (List.mem_map_of_mem h)

instance (a : α) : Restores (pure a : Members σ α) fun _ => a where
  check _ _ _ _ hf := absurd hf List.not_mem_nil
  build _ _ _ _ _ := rfl

instance (a : α) : Complete (pure a : Members σ α) := ⟨fun _ => rfl⟩

instance (f : α → β) (x : Members σ α) (get : σ → α) [Restores x get] :
    Restores (f <$> x) fun s => f (get s) where
  check := Restores.check (m := x)
  build hnd o s find hfind := by
    show (x.build o find).map f = .ok (f (get s))
    rw [Restores.build (m := x) hnd o s find hfind]
    rfl

instance (part : τ → σ) (x : Members σ α) (get : σ → α) [Restores x get] :
    Restores (x.within part) fun t => get (part t) where
  check hnd o t := Restores.check (m := x) hnd o (part t)
  build hnd o t := Restores.build (m := x) hnd o (part t)

instance (f : Members σ (α → β)) (x : Members σ α) (getF : σ → α → β) (getX : σ → α)
    [Orderly f] [Orderly x] [Restores f getF] [Restores x getX] :
    Restores (f <*> x) fun s => getF s (getX s) where
  check hnd o s m hm slot hslot hname := by
    rw [names_seq, List.nodup_append] at hnd
    obtain ⟨hf, hx, hdisjoint⟩ := hnd
    rcases List.mem_append.mp hm with hm | hm
    · rcases List.mem_append.mp hslot with hslot | hslot
      · exact Restores.check hf o s m hm slot hslot hname
      · exact absurd hname.symm
          (hdisjoint _ (f.mem_names_of_write hm) _ (name_mem_names hslot))
    · rcases List.mem_append.mp hslot with hslot | hslot
      · exact absurd hname (hdisjoint _ (name_mem_names hslot) _ (x.mem_names_of_write hm))
      · exact Restores.check hx o s m hm slot hslot hname
  build hnd o s find hfind := by
    rw [names_seq, List.nodup_append] at hnd
    obtain ⟨hf, hx, hdisjoint⟩ := hnd
    have hwrite : (f <*> x).write s = f.write s ++ x.write s := rfl
    rw [names_seq, hwrite] at hfind
    -- A name of the one part is not written by the other.
    have hfindF : ∀ name ∈ f.names, find name = ((f.write s).lookup name).map Draft.ofJson := by
      intro name hmem
      have hnot : name ∉ keys (x.write s) := fun hk =>
        hdisjoint _ hmem _ ((Orderly.sublist s).subset hk) rfl
      rw [hfind name (List.mem_append_left _ hmem), lookup_append_left hnot]
    have hfindX : ∀ name ∈ x.names, find name = ((x.write s).lookup name).map Draft.ofJson := by
      intro name hmem
      have hnot : name ∉ keys (f.write s) := fun hk =>
        hdisjoint _ ((Orderly.sublist s).subset hk) _ hmem rfl
      rw [hfind name (List.mem_append_right _ hmem), lookup_append_right hnot]
    show (f.build o find >>= fun g => x.build o find >>= fun a => .ok (g a)) = _
    rw [Restores.build hf o s find hfindF, Restores.build hx o s find hfindX]
    rfl

-- ============================================== single members

/-- A single member restores what its reader makes of what was written,
and what stands for a member that was not. -/
theorem restores_member {name : String} {read : Reader α} {absent short : Option α}
    {write : σ → Option Json} {get : σ → α}
    (hread : ∀ s v, write s = some v → ∀ o, read o (Draft.ofJson v) = .ok (get s))
    (habsent : ∀ s, write s = none → absent = some (get s)) :
    Restores (member name read absent short write) get where
  check _ o s f hf slot hslot _ := by
    obtain rfl := List.mem_singleton.mp hslot
    show (read o (Draft.ofJson f.2)).map (fun _ => ()) = .ok ()
    rw [hread s f.2 (mem_write_member _ _ _ _ _ hf).2 o]
    rfl
  build _ o s find hfind := by
    have hname := hfind name List.mem_cons_self
    have hwrite : (member name read absent short write).write s = memberIf name id (write s) := rfl
    rw [hwrite] at hname
    unfold member
    dsimp only
    -- what is not written is not found, and then the value is the one for absence
    cases hw : write s with
    | none =>
        rw [hw] at hname
        rw [hname, habsent s hw]
        rfl
    | some v =>
        rw [hw, memberIf, List.lookup_cons_self] at hname
        rw [hname]
        exact hread s v hw o

section Single

variable [Coded α] [Faithful α] (name : String)

instance (get : σ → α) : Restores (required name get) get :=
  restores_member (fun s _ hv o => Option.some.inj hv ▸ Faithful.read_encode o (get s))
    fun _ h => nomatch h

instance (fallback : α) (get : σ → α) : Restores (defaulted name fallback get) get :=
  restores_member (fun s _ hv o => Option.some.inj hv ▸ Faithful.read_encode o (get s))
    fun _ h => nomatch h

instance (get : σ → Option α) [Writes IsSet α] : Restores (nullable name get) get :=
  restores_member (fun s _ hv o => Option.some.inj hv ▸ Faithful.read_encode o (get s))
    fun _ h => nomatch h

/-- A value that is there was written, and one that is not was left out. -/
theorem read_optional [Writes IsSet α] {get : σ → Option α} {s : σ} {v : Json}
    (h : (get s).map encode = some v) (o : Origin) :
    Coded.read o (Draft.ofJson v) = .ok (get s) := by
  obtain ⟨a, ha, rfl⟩ := Option.map_eq_some_iff.mp h
  rw [ha]
  exact readNullable_encode o a

instance (get : σ → Option α) [Writes IsSet α] : Restores (optional name get) get :=
  restores_member (fun _ _ hv o => read_optional hv o)
    fun _ h => congrArg some (Option.map_eq_none_iff.mp h).symm

end Single

-- ============================================== objects

theorem of_find?_slot {slots : List Slot} {k : String} {slot : Slot}
    (h : slots.find? (·.name == k) = some slot) : slot ∈ slots ∧ slot.name = k :=
  ⟨List.mem_of_find?_eq_some h, by simpa using List.find?_some h⟩

/-- No slot is found exactly for the other names. -/
theorem find?_slot_eq_none {m : Members σ α} {k : String} :
    m.slots.find? (·.name == k) = none ↔ k ∉ m.names := by
  rw [List.find?_eq_none]
  constructor
  · intro h hk
    obtain ⟨slot, hslot, rfl⟩ := List.mem_map.mp hk
    exact h slot hslot (beq_self_eq_true _)
  · intro h slot hslot heq
    exact h (eq_of_beq heq ▸ name_mem_names hslot)

/-- A scan passes over a member without a slot. -/
theorem scan_cons_of_notMem {m : Members σ α} {k : String} (hk : k ∉ m.names) (o : Origin)
    (seen : List String) (v : Json) (ds : List (Option String × Draft)) :
    scan m.slots o seen ((some k, Draft.ofJson v) :: ds) = scan m.slots o seen ds := by
  have hskip : (o == .text && !(Draft.ofJson v).skippable) = false := by
    rw [Draft.skippable_ofJson, Bool.not_true, Bool.and_false]
  rw [scan, find?_slot_eq_none.mpr hk]
  dsimp only
  rw [hskip, if_neg Bool.false_ne_true]

/-- The names that are still to come have not been seen behind the first one either. -/
theorem notMem_seen_cons {k : String} {ks seen : List String} (hnd : (k :: ks).Nodup)
    (hseen : ∀ k' ∈ k :: ks, k' ∉ seen) : ∀ k' ∈ ks, k' ∉ k :: seen := by
  intro k' hk'
  rw [List.mem_cons]
  rintro (rfl | hmem)
  · exact (List.nodup_cons.mp hnd).1 hk'
  · exact hseen k' (List.mem_cons_of_mem k hk') hmem

/-- The members of an object without repetitions pass the scan when each
passes the check of its slot. -/
theorem scan_ofMembers {m : Members σ α} {o : Origin} {seen : List String}
    {ms : List (String × Json)} (hnd : (keys ms).Nodup) (hseen : ∀ k ∈ keys ms, k ∉ seen)
    (hcheck : ∀ f ∈ ms, ∀ slot ∈ m.slots, slot.name = f.1 →
      slot.check o (Draft.ofJson f.2) = .ok ()) :
    scan m.slots o seen (Draft.ofMembers ms) = .ok () := by
  induction ms generalizing seen with
  | nil => rfl
  | cons f ms ih =>
      obtain ⟨k, v⟩ := f
      have hnext := notMem_seen_cons hnd hseen
      rw [keys_cons, List.nodup_cons] at hnd
      have hk := List.forall_mem_cons.mp hseen
      have hf := List.forall_mem_cons.mp hcheck
      rw [Draft.ofMembers]
      cases hfind : m.slots.find? (·.name == k) with
      | some slot =>
          obtain ⟨hslot, hname⟩ := of_find?_slot hfind
          -- the slot is checked, unless the name was seen before
          have hnew : seen.contains k = false := by simpa using hk.1
          rw [scan, hfind]
          dsimp only
          rw [hnew, if_neg Bool.false_ne_true, hf.1 slot hslot hname]
          exact ih hnd.2 hnext hf.2
      | none =>
          rw [scan_cons_of_notMem (find?_slot_eq_none.mp hfind)]
          exact ih hnd.2 hk.2 hf.2

/-- Of a complete object, the members of other names are left. -/
theorem leave_ofMembers (m : Members σ α) (ms : List (String × Json)) :
    m.leave (Draft.ofMembers ms) = Draft.ofMembers (ms.filter fun f => f.1 ∉ m.names) := by
  induction ms with
  | nil => rfl
  | cons f ms ih =>
      obtain ⟨k, v⟩ := f
      have hknown : (m.slots.any fun slot => some k == some slot.name) = decide (k ∈ m.names) := by
        rw [Bool.eq_iff_iff, List.any_eq_true, decide_eq_true_iff, names, List.mem_map]
        simp only [beq_iff_eq, Option.some.injEq, eq_comm (a := k)]
      rw [Draft.ofMembers, leave, List.filter_cons, List.filter_cons, hknown, decide_not, ← leave, ih]
      split <;> rfl

/-- Of an object, a description leaves what it did not write. -/
theorem leave_write (m : Members σ α) [Orderly m] (s : σ) {before behind : List (String × Json)}
    (hbefore : ∀ f ∈ before, f.1 ∉ m.names) (hbehind : ∀ f ∈ behind, f.1 ∉ m.names) :
    m.leave (Draft.ofMembers (before ++ m.write s ++ behind))
      = Draft.ofMembers (before ++ behind) := by
  have hwritten : (m.write s).filter (fun f => f.1 ∉ m.names) = [] :=
    List.filter_eq_nil_iff.mpr fun f hf => by simpa using m.mem_names_of_write hf
  rw [leave_ofMembers, List.filter_append, List.filter_append, hwritten, List.append_nil,
    List.filter_eq_self.mpr fun f hf => decide_eq_true (hbefore f hf),
    List.filter_eq_self.mpr fun f hf => decide_eq_true (hbehind f hf)]

/-- Parting an object is scanning it and leaving the rest. -/
theorem partition_eq_map (m : Members σ α) (o : Origin) (seen : List String)
    (ms : List (String × Json)) :
    partition m.slots o seen (Draft.ofMembers ms)
      = (scan m.slots o seen (Draft.ofMembers ms)).map fun _ => m.leave (Draft.ofMembers ms) := by
  rw [leave_ofMembers]
  induction ms generalizing seen with
  | nil => rfl
  | cons f ms ih =>
      obtain ⟨k, v⟩ := f
      rw [Draft.ofMembers, partition]
      cases hfind : m.slots.find? (·.name == k) with
      | some slot =>
          obtain ⟨hslot, hname⟩ := of_find?_slot hfind
          have hmem : k ∈ m.names := hname ▸ name_mem_names hslot
          rw [scan, hfind, List.filter_cons_of_neg (by simpa using hmem)]
          dsimp only
          split
          · rfl
          · rw [ih]
            cases slot.check o (Draft.ofJson v) <;> rfl
      | none =>
          have hmem : k ∉ m.names := find?_slot_eq_none.mp hfind
          -- without a slot the member is left over, and its draft is a document
          obtain ⟨v', hv'⟩ := Draft.exists_toJson_ofJson v
          rw [scan_cons_of_notMem hmem, List.filter_cons_of_pos (by simpa using hmem)]
          dsimp only
          rw [hv', Option.isNone_some, if_neg Bool.false_ne_true, ih]
          cases scan m.slots o seen (Draft.ofMembers ms) <;> rfl

/-- The own part of an object is read as if it were all of it. -/
theorem readOwn_eq_map (m : Members σ α) (o : Origin) (ms : List (String × Json)) :
    m.readOwn o (Draft.ofMembers ms) true
      = (m.readMembers o (Draft.ofMembers ms) true).map
        fun a => (a, m.leave (Draft.ofMembers ms)) := by
  show (partition m.slots o [] (Draft.ofMembers ms) >>= fun rest =>
      m.build o (findMember (Draft.ofMembers ms)) >>= fun a => .ok (a, rest))
    = (scan m.slots o [] (Draft.ofMembers ms) >>= fun _ =>
      m.build o (findMember (Draft.ofMembers ms))).map _
  rw [partition_eq_map]
  cases scan m.slots o [] (Draft.ofMembers ms) with
  | error e => rfl
  | ok u => cases m.build o (findMember (Draft.ofMembers ms)) <;> rfl

/-- Where two objects agree on the names of a description, its members in
the one are members of the other. -/
theorem mem_of_agree {m : Members σ α} {ms ns : List (String × Json)} (hnd : (keys ms).Nodup)
    (hagree : ∀ name ∈ m.names, ms.lookup name = ns.lookup name) {f : String × Json}
    (hf : f ∈ ms) (hname : f.1 ∈ m.names) : f ∈ ns := by
  have hlookup := lookup_of_mem hnd hf
  rw [hagree f.1 hname] at hlookup
  exact mem_of_lookup hlookup

section Records

variable {m : Members σ α} {get : σ → α} [hm : Restores m get] (hnames : m.names.Nodup)
  (o : Origin) {ms : List (String × Json)} (hnd : (keys ms).Nodup) (s : σ)
  (hagree : ∀ name ∈ m.names, ms.lookup name = (m.write s).lookup name)

include hm hnames hnd hagree

/-- The members of an object that agrees with what was written of a record
pass their checks. -/
theorem check_of_agree : ∀ f ∈ ms, ∀ slot ∈ m.slots, slot.name = f.1 →
    slot.check o (Draft.ofJson f.2) = .ok () := by
  intro f hf slot hslot hname
  have hmem := mem_of_agree hnd hagree hf (hname ▸ name_mem_names hslot)
  exact hm.check hnames o s f hmem slot hslot hname

omit hnd in
/-- Together they make up the record. -/
theorem build_of_agree : m.build o (findMember (Draft.ofMembers ms)) = .ok (get s) := by
  refine Restores.build hnames o s _ fun name hmem => ?_
  rw [findMember_ofMembers, hagree name hmem]

/-- An object that agrees with what was written of a record, on the names
of the description, is read as this record. -/
theorem readMembers_of_agree : m.readMembers o (Draft.ofMembers ms) true = .ok (get s) := by
  have hscan : scan m.slots o [] (Draft.ofMembers ms) = .ok () :=
    scan_ofMembers hnd (fun _ _ => List.not_mem_nil) (check_of_agree hnames o hnd s hagree)
  have hbuild := build_of_agree hnames o s hagree
  show (scan m.slots o [] (Draft.ofMembers ms) >>= fun _ =>
    m.build o (findMember (Draft.ofMembers ms))) = _
  rw [hscan, ← hbuild]
  rfl

end Records

/-- What is written of a record with different names for its members is read
as what its members make up. -/
theorem read_encode_coded {m : Members σ σ} {get : σ → σ} [Orderly m] [Restores m get]
    (hnames : m.names.Nodup) (name : String) (o : Origin) (s : σ) :
    (m.coded name).read o (Draft.ofJson ((m.coded name).encode s)) = .ok (get s) :=
  readMembers_of_agree hnames o (m.nodup_write hnames s) s fun _ _ => rfl

/-- Such a record is faithful when this is the record itself. -/
theorem faithful_record {m : Members σ σ} {get : σ → σ} [Orderly m] [Restores m get]
    (hget : ∀ s, get s = s) (hnames : m.names.Nodup) (name : String) :
    @Faithful σ (m.coded name) :=
  @Faithful.mk σ (m.coded name) fun o s => by rw [read_encode_coded hnames, hget]

/-- The description of a whole record: what it writes of a record in order
is read as this record. -/
class Describes (m : Members σ σ) : Prop where
  orderly : Orderly m
  restores : Restores m fun s => s

/-- A record that its description describes is faithful. -/
theorem faithful_coded {m : Members σ σ} [h : Describes m] (hnames : m.names.Nodup)
    (name : String) : @Faithful σ (m.coded name) :=
  have := h.orderly
  have := h.restores
  faithful_record (fun _ => rfl) hnames name

instance (m : Members σ σ) (name : String) : @Writes IsSet σ (m.coded name) :=
  @Writes.mk IsSet σ (m.coded name) fun _ => nofun

section Shared

variable {own : Members σ α} {fst : Members σ β} {snd : Members σ γ} {getOwn : σ → α}
  {getFst : σ → β} {getSnd : σ → γ} [Orderly fst] [Orderly snd]
  (hnames : (fst.names ++ snd.names ++ own.names).Nodup) (o : Origin) (s : σ)

include hnames

/-- The parts with other names write nothing under a name of the own one. -/
theorem notMem_names_of_parts : ∀ k ∈ keys (fst.write s ++ snd.write s), k ∉ own.names := by
  intro k hk hmem
  obtain ⟨-, -, hdisjoint⟩ := List.nodup_append.mp hnames
  rw [keys_append, List.mem_append] at hk
  have hparts : k ∈ fst.names ++ snd.names := List.mem_append.mpr
    (hk.imp (fun h => (Orderly.sublist s).subset h) fun h => (Orderly.sublist s).subset h)
  exact hdisjoint k hparts k hmem rfl

/-- The two parts write no name twice. -/
theorem nodup_parts : (keys (fst.write s ++ snd.write s)).Nodup := by
  rw [keys_append]
  exact ((Orderly.sublist s).append (Orderly.sublist s)).nodup (List.nodup_append.mp hnames).1

/-- Without the members of the first part, those of the second are left. -/
theorem leave_parts :
    fst.leave (Draft.ofMembers (fst.write s ++ snd.write s)) = Draft.ofMembers (snd.write s) := by
  obtain ⟨-, -, hdisjoint⟩ := List.nodup_append.mp (List.nodup_append.mp hnames).1
  exact fst.leave_write s (List.forall_mem_nil _) fun f hf hmem =>
    hdisjoint f.1 hmem f.1 (snd.mem_names_of_write hf) rfl

variable [Restores fst getFst] [Restores snd getSnd]

/-- The first part is read from both, and the second from what it leaves. -/
theorem readParts_shared :
    fst.readMembers o (Draft.ofMembers (fst.write s ++ snd.write s)) true = .ok (getFst s)
      ∧ snd.readMembers o (fst.leave (Draft.ofMembers (fst.write s ++ snd.write s))) true
        = .ok (getSnd s) := by
  obtain ⟨hfst, hsnd, hdisjoint⟩ := List.nodup_append.mp (List.nodup_append.mp hnames).1
  refine ⟨readMembers_of_agree hfst o (nodup_parts hnames s) s fun k hk => ?_, ?_⟩
  · exact lookup_append_left fun hk' => hdisjoint k hk k ((Orderly.sublist s).subset hk') rfl
  · rw [leave_parts hnames]
    exact readMembers_of_agree hsnd o (snd.nodup_write hsnd s) s fun _ _ => rfl

variable [Orderly own]

/-- With the own members behind them, still no name is written twice. -/
theorem nodup_shared : (keys (fst.write s ++ snd.write s ++ own.write s)).Nodup := by
  rw [keys_append, keys_append]
  exact (((Orderly.sublist s).append (Orderly.sublist s)).append (Orderly.sublist s)).nodup hnames

/-- Without the own members, the two parts are left. -/
theorem leave_own :
    own.leave (Draft.ofMembers (fst.write s ++ snd.write s ++ own.write s))
      = Draft.ofMembers (fst.write s ++ snd.write s) := by
  have hparts : ∀ f ∈ fst.write s ++ snd.write s, f.1 ∉ own.names := fun f hf =>
    notMem_names_of_parts hnames s f.1 (List.mem_map_of_mem hf)
  have hleave := own.leave_write s hparts (List.forall_mem_nil _)
  rwa [List.append_nil, List.append_nil] at hleave

variable [Restores own getOwn]

/-- The own part of the object is read first, and the two parts are left. -/
theorem readOwn_shared :
    own.readOwn o (Draft.ofMembers (fst.write s ++ snd.write s ++ own.write s)) true
      = .ok (getOwn s, Draft.ofMembers (fst.write s ++ snd.write s)) := by
  have hown : own.names.Nodup := (List.nodup_append.mp hnames).2.1
  have hread := readMembers_of_agree (m := own) hown o (nodup_shared hnames s) s fun k hk =>
    lookup_append_right fun hk' => notMem_names_of_parts hnames s k hk' hk
  rw [readOwn_eq_map, hread, leave_own hnames]
  rfl

/-- Three descriptions with different names, all members taken together,
share an object faithfully. -/
theorem faithful_codedShared (combine : α → β → γ → σ)
    (hcombine : ∀ s, combine (getOwn s) (getFst s) (getSnd s) = s) (name : String) :
    @Faithful σ (codedShared own fst snd combine name) := by
  refine @Faithful.mk σ (codedShared own fst snd combine name) fun o s => ?_
  obtain ⟨hfst, hsnd⟩ := readParts_shared hnames .buffer s
  show ((own.readOwn o (Draft.ofMembers (fst.write s ++ snd.write s ++ own.write s)) true >>=
    fun x => fst.readMembers .buffer x.2 true >>= fun b =>
      snd.readMembers .buffer (fst.leave x.2) true >>= fun c => .ok (x.1, b, c)).map
        fun x => combine x.1 x.2.1 x.2.2) = .ok s
  rw [readOwn_shared hnames]
  show ((fst.readMembers .buffer (Draft.ofMembers (fst.write s ++ snd.write s)) true >>= fun b =>
      snd.readMembers .buffer (fst.leave (Draft.ofMembers (fst.write s ++ snd.write s))) true >>=
        fun c => .ok (getOwn s, b, c)).map fun x => combine x.1 x.2.1 x.2.2) = .ok s
  rw [hfst, hsnd]
  exact congrArg Except.ok (hcombine s)

end Shared

end Members

end Sdwan.Json
