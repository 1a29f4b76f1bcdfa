/-
An object that several descriptions share is read by each of them as if it
were the only one, as long as their names are different.

The own part is read first, and the others read what it leaves (`readOwn`,
`readShared`). None of them is in the way of another: leaving out members of
other names changes nothing for a description (`readMembers_leave`), because
the scan passes over them and the readers look for names of their own
(`Local`). So the shared object is read exactly when each part is read from
all of it (`readShared_eq_ok`).
-/
import Sdwan.Proofs.Json.Faithful
import Sdwan.Proofs.Success

namespace Sdwan.Json.Members

variable {σ τ α β γ : Type}

-- ============================================== members that are looked for

/-- The readers of a description look for no other names than its own. -/
class Local (m : Members σ α) : Prop where
  build_congr : ∀ (o : Origin) (find find' : String → Option Draft),
    (∀ name ∈ m.names, find name = find' name) → m.build o find = m.build o find'

instance (a : α) : Local (pure a : Members σ α) := ⟨fun _ _ _ _ => rfl⟩

instance (f : α → β) (x : Members σ α) [Local x] : Local (f <$> x) where
  build_congr o find find' h := congrArg (Except.map f) (Local.build_congr (m := x) o find find' h)

instance (part : τ → σ) (x : Members σ α) [Local x] : Local (x.within part) :=
  ⟨Local.build_congr (m := x)⟩

instance (f : Members σ (α → β)) (x : Members σ α) [Local f] [Local x] : Local (f <*> x) where
  build_congr o find find' h := by
    rw [names_seq] at h
    have hf := Local.build_congr (m := f) o find find' fun k hk => h k (List.mem_append_left _ hk)
    have hx := Local.build_congr (m := x) o find find' fun k hk => h k (List.mem_append_right _ hk)
    show (f.build o find >>= fun g => x.build o find >>= fun a => .ok (g a)) = _
    rw [hf, hx]
    rfl

theorem local_member (name : String) (read : Reader α) (absent short : Option α)
    (write : σ → Option Json) : Local (member name read absent short write) where
  build_congr o find find' h := by
    have hname : find name = find' name := h name List.mem_cons_self
    unfold member
    dsimp only
    rw [hname]

section Single

variable [Coded α] (name : String)

instance (get : σ → α) : Local (required name get) := local_member _ _ _ _ _

instance (fallback : α) (get : σ → α) : Local (defaulted name fallback get) :=
  local_member _ _ _ _ _

instance (get : σ → Option α) : Local (optional name get) := local_member _ _ _ _ _

end Single

-- ============================================== leaving out other members

/-- Members of other names can be left out of a scan. -/
theorem scan_filter {m : Members σ α} {o : Origin} {seen : List String}
    {ms : List (String × Json)} (keep : String × Json → Bool)
    (hkeep : ∀ f ∈ ms, f.1 ∈ m.names → keep f = true) :
    scan m.slots o seen (Draft.ofMembers (ms.filter keep))
      = scan m.slots o seen (Draft.ofMembers ms) := by
  induction ms generalizing seen with
  | nil => rfl
  | cons f ms ih =>
      obtain ⟨k, v⟩ := f
      obtain ⟨hf, hms⟩ := List.forall_mem_cons.mp hkeep
      by_cases hmem : k ∈ m.names
      · rw [List.filter_cons_of_pos (hf hmem), Draft.ofMembers, Draft.ofMembers, scan, scan]
        simp only [ih hms]
      · rw [Draft.ofMembers, scan_cons_of_notMem hmem, ← ih hms, List.filter_cons]
        split
        · rw [Draft.ofMembers, scan_cons_of_notMem hmem]
        · rfl

/-- What is left of an object by a description of other names is read as all
of it. -/
theorem readMembers_leave {m : Members σ α} [Local m] {other : Members τ β}
    (hnames : ∀ k ∈ m.names, k ∉ other.names) (o : Origin) (ms : List (String × Json)) :
    m.readMembers o (other.leave (Draft.ofMembers ms)) true
      = m.readMembers o (Draft.ofMembers ms) true := by
  rw [leave_ofMembers]
  have hscan : scan m.slots o [] (Draft.ofMembers (ms.filter fun f => f.1 ∉ other.names))
      = scan m.slots o [] (Draft.ofMembers ms) :=
    scan_filter _ fun f _ hmem => decide_eq_true (hnames f.1 hmem)
  have hbuild : m.build o (findMember (Draft.ofMembers (ms.filter fun f => f.1 ∉ other.names)))
      = m.build o (findMember (Draft.ofMembers ms)) := by
    refine Local.build_congr o _ _ fun k hk => ?_
    rw [findMember_ofMembers, findMember_ofMembers, lookup_filter]
    intro f _ hf
    exact decide_eq_true (hf ▸ hnames k hk)
  rw [readMembers, readMembers, hscan, hbuild]

-- ============================================== parts of an object

/-- A shared object is read when each of the parts is read of it. -/
theorem readShared_eq_ok {own : Members σ α} {fst : Members σ β} {snd : Members σ γ} [Local fst]
    [Local snd] (hnames : (fst.names ++ snd.names ++ own.names).Nodup) (name : String)
    {o : Origin} {ms : List (String × Json)} {a : α} {b : β} {c : γ} :
    own.readShared fst snd name o (Draft.ofJson (.object ms)) = .ok (a, b, c)
      ↔ own.readMembers o (Draft.ofMembers ms) true = .ok a
        ∧ fst.readMembers .buffer (Draft.ofMembers ms) true = .ok b
        ∧ snd.readMembers .buffer (Draft.ofMembers ms) true = .ok c := by
  obtain ⟨hparts, -, hown⟩ := List.nodup_append.mp hnames
  obtain ⟨-, -, hfst⟩ := List.nodup_append.mp hparts
  have hreadFst : fst.readMembers .buffer (own.leave (Draft.ofMembers ms)) true
      = fst.readMembers .buffer (Draft.ofMembers ms) true :=
    readMembers_leave (fun k hk h => hown k (List.mem_append_left _ hk) k h rfl) .buffer ms
  have hreadSnd : snd.readMembers .buffer (fst.leave (own.leave (Draft.ofMembers ms))) true
      = snd.readMembers .buffer (Draft.ofMembers ms) true := by
    rw [leave_ofMembers own, readMembers_leave fun k hk h => hfst k h k hk rfl,
      ← leave_ofMembers own, readMembers_leave fun k hk h =>
        hown k (List.mem_append_right _ hk) k h rfl]
  show (own.readOwn o (Draft.ofMembers ms) true >>= fun x =>
      fst.readMembers .buffer x.2 true >>= fun b =>
        snd.readMembers .buffer (fst.leave x.2) true >>= fun c => .ok (x.1, b, c)) = _ ↔ _
  rw [readOwn_eq_map]
  cases own.readMembers o (Draft.ofMembers ms) true with
  | error e => simp [Except.map, bind, Except.bind]
  | ok a' =>
      show (fst.readMembers .buffer (own.leave (Draft.ofMembers ms)) true >>= fun b =>
        snd.readMembers .buffer (fst.leave (own.leave (Draft.ofMembers ms))) true >>= fun c =>
          .ok (a', b, c)) = _ ↔ _
      rw [hreadFst, hreadSnd]
      simp only [ok_bind_iff, Except.ok.injEq, Prod.mk.injEq]
      constructor
      · rintro ⟨b, hb, c, hc, rfl, rfl, rfl⟩
        exact ⟨rfl, hb, hc⟩
      · rintro ⟨rfl, hb, hc⟩
        exact ⟨b, hb, c, hc, rfl, rfl, rfl⟩

/-- A description without members reads nothing. -/
theorem readMembers_pure (a : α) (o : Origin) (ms : List (String × Json)) :
    (pure a : Members σ α).readMembers o (Draft.ofMembers ms) true = .ok a := by
  have hscan : scan (pure a : Members σ α).slots o [] (Draft.ofMembers ms) = .ok () := by
    rw [← scan_filter (fun _ => false) fun _ _ h => absurd h List.not_mem_nil,
      List.filter_false]
    rfl
  rw [readMembers, hscan]
  rfl

/-- What is made of a record is made of its members. -/
theorem readMembers_map (f : α → β) (m : Members σ α) (o : Origin)
    (ms : List (Option String × Draft)) (closed : Bool) :
    (f <$> m).readMembers o ms closed = (m.readMembers o ms closed).map f := by
  show (scan m.slots o [] ms >>= fun _ => if closed then (m.build o (findMember ms)).map f else _)
    = (scan m.slots o [] ms >>= fun _ => if closed then m.build o (findMember ms) else _).map f
  cases scan m.slots o [] ms with
  | error e => rfl
  | ok u => cases closed <;> rfl

-- ============================================== records

section Records

variable {own : Members σ α} {fst : Members σ β} {snd : Members σ γ} (name : String) (o : Origin)
  (ms : List (String × Json))

/-- A record with a shared object is put together from its parts. -/
theorem read_codedShared_eq_ok [Local fst] [Local snd]
    (hnames : (fst.names ++ snd.names ++ own.names).Nodup) (combine : α → β → γ → σ) (s : σ) :
    (codedShared own fst snd combine name).read o (Draft.ofJson (.object ms)) = .ok s
      ↔ ∃ a b c, (own.readMembers o (Draft.ofMembers ms) true = .ok a
          ∧ fst.readMembers .buffer (Draft.ofMembers ms) true = .ok b
          ∧ snd.readMembers .buffer (Draft.ofMembers ms) true = .ok c) ∧ combine a b c = s := by
  show (own.readShared fst snd name o _).map (fun x => combine x.1 x.2.1 x.2.2) = _ ↔ _
  rw [ok_map_iff]
  simp only [Prod.exists, readShared_eq_ok hnames]

/-- A record of two sides, neither of which has a member of its own. -/
theorem read_sides_eq_ok [Local fst] [Local snd]
    (hnames : (fst.names ++ snd.names ++ (pure () : Members σ Unit).names).Nodup) {mk : β → γ → σ}
    (hmk : ∀ {b c b' c'}, mk b c = mk b' c' → b = b' ∧ c = c') (b : β) (c : γ) :
    (codedShared (pure ()) fst snd (fun _ b c => mk b c) name).read o (Draft.ofJson (.object ms))
        = .ok (mk b c)
      ↔ fst.readMembers .buffer (Draft.ofMembers ms) true = .ok b
        ∧ snd.readMembers .buffer (Draft.ofMembers ms) true = .ok c := by
  rw [read_codedShared_eq_ok name o ms hnames]
  constructor
  · rintro ⟨_, b', c', ⟨-, hfst, hsnd⟩, heq⟩
    obtain ⟨rfl, rfl⟩ := hmk heq
    exact ⟨hfst, hsnd⟩
  · rintro ⟨hfst, hsnd⟩
    exact ⟨(), b, c, ⟨readMembers_pure () o ms, hfst, hsnd⟩, rfl⟩

/-- A record of one side and members of its own. -/
theorem read_extended_eq_ok [Local fst]
    (hnames : (fst.names ++ (pure () : Members σ Unit).names ++ own.names).Nodup) {mk : β → α → σ}
    (hmk : ∀ {b a b' a'}, mk b a = mk b' a' → b = b' ∧ a = a') (b : β) (a : α) :
    (codedShared own fst (pure ()) (fun a b _ => mk b a) name).read o (Draft.ofJson (.object ms))
        = .ok (mk b a)
      ↔ fst.readMembers .buffer (Draft.ofMembers ms) true = .ok b
        ∧ own.readMembers o (Draft.ofMembers ms) true = .ok a := by
  rw [read_codedShared_eq_ok name o ms hnames]
  constructor
  · rintro ⟨a', b', _, ⟨hown, hfst, -⟩, heq⟩
    obtain ⟨rfl, rfl⟩ := hmk heq
    exact ⟨hfst, hown⟩
  · rintro ⟨hfst, hown⟩
    exact ⟨a, b, (), ⟨hown, hfst, readMembers_pure () .buffer ms⟩, rfl⟩

/-- A record that is made of one description is read of its members. -/
theorem read_map_eq_ok {m : Members σ α} {mk : α → σ} (hmk : ∀ {a a'}, mk a = mk a' → a = a')
    (a : α) :
    ((mk <$> m).coded name).read o (Draft.ofJson (.object ms)) = .ok (mk a)
      ↔ m.readMembers o (Draft.ofMembers ms) true = .ok a := by
  show (mk <$> m).readMembers o (Draft.ofMembers ms) true = _ ↔ _
  rw [readMembers_map, ok_map_iff]
  constructor
  · rintro ⟨a', ha', heq⟩
    exact hmk heq ▸ ha'
  · intro ha
    exact ⟨a, ha, rfl⟩

end Records

end Sdwan.Json.Members
