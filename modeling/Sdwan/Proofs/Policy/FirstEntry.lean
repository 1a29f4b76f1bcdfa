/-
Lists whose calls go to their first entry.

A list of probe classes and a list of classes of service are filled by calls
that each set or extend one part of the first entry, and make one when there is
none. The caller may also add entries of his own between the calls.

# One step, all steps

Which entry is the first is settled by the first step: a call makes a fresh
one, and an entry of the caller's own stands there itself (`seed`). From then
on a call changes this entry, and an entry that is added goes behind the others
(`entries_foldl`, over any list that has an entry).

# Parts

What the calls make of the entry is a fold, and each part of it follows the
calls that give this part, whatever comes between: the last value given for a
part that is set (`foldl_set`), all of them in order for one that is extended
(`foldl_extended`).
-/
import Mathlib.Data.List.Induction
import Sdwan.Policy.Builder

namespace Sdwan.Policy

-- ============================================== calls

/-- A call that goes to the first entry of a list. -/
inductive Tuning : ListKind → Type where
  | forwardingClass (name : String) : Tuning .appProbe
  | colorMapping (color : String) (dscp : UInt8) : Tuning .appProbe
  | appProbeClass (id : String) : Tuning .slaClass
  | thresholds (latency loss jitter : Option UInt32) : Tuning .slaClass
  | fallback (t : FallbackTunnel) : Tuning .slaClass

namespace Tuning

variable {k : ListKind} {α β γ : Type}

/-- What a call makes of a list. -/
def apply : {k : ListKind} → Tuning k → PolicyList k → PolicyList k
  | _, forwardingClass name, l => l.assignForwardingClass name
  | _, colorMapping color dscp, l => l.addColorMapping color dscp
  | _, appProbeClass id, l => l.assignAppProbeClass id
  | _, thresholds latency loss jitter, l => l.addThresholds latency loss jitter
  | _, fallback t, l => l.setFallback t

/-- The entry that a call begins with when there is none. -/
def fresh : {k : ListKind} → Tuning k → k.Entry
  | _, forwardingClass _ => AppProbeClassEntry.mk [] ""
  | _, colorMapping _ _ => AppProbeClassEntry.mk [] ""
  | _, appProbeClass _ => ({} : SlaClassEntry)
  | _, thresholds _ _ _ => ({} : SlaClassEntry)
  | _, fallback _ => ({} : SlaClassEntry)

/-- What a call makes of the first entry. -/
def change : {k : ListKind} → Tuning k → k.Entry → k.Entry
  | _, forwardingClass name, (e : AppProbeClassEntry) => { e with forwardingClass := name }
  | _, colorMapping color dscp, (e : AppProbeClassEntry) =>
    { e with map := e.map ++ [⟨color, dscp⟩] }
  | _, appProbeClass id, (e : SlaClassEntry) => { e with appProbeClass := some id }
  | _, thresholds latency loss jitter, (e : SlaClassEntry) =>
    { e with
      latency := latency.map toString
      loss := loss.map toString
      jitter := jitter.map toString }
  | _, fallback t, (e : SlaClassEntry) => { e with fallback := some t }

theorem apply_eq (c : Tuning k) (l : PolicyList k) :
    c.apply l = l.changeFirst c.fresh c.change := by
  cases c <;> rfl

-- ============================================== steps

/-- A step in filling a list: a call, or an entry of the caller's own. -/
inductive Step (k : ListKind) where
  | call (c : Tuning k)
  | push (e : k.Entry)

namespace Step

/-- What a step makes of a list. -/
def apply : Step k → PolicyList k → PolicyList k
  | call c, l => c.apply l
  | push e, l => l.push e

/-- The entry that comes first when the step is the first one. -/
def seed : Step k → k.Entry
  | call c => c.fresh
  | push e => e

def call? : Step k → Option (Tuning k)
  | call c => some c
  | push _ => none

def entry? : Step k → Option k.Entry
  | call _ => none
  | push e => some e

end Step

/-- A new list after these steps. -/
def made (name : String) (steps : List (Step k)) : PolicyList k :=
  steps.foldl (fun l s => s.apply l) (PolicyList.new k name)

/-- The calls among the steps. -/
def calls (steps : List (Step k)) : List (Tuning k) := steps.filterMap Step.call?

/-- The entries of the caller's own. -/
def added (steps : List (Step k)) : List k.Entry := steps.filterMap Step.entry?

/-- What the calls make of an entry. -/
def tuned (e : k.Entry) (calls : List (Tuning k)) : k.Entry :=
  calls.foldl (fun e c => c.change e) e

/-- A list that has an entry: the calls go to this one, and entries that are
added go behind the others. -/
theorem entries_foldl (steps : List (Step k)) {l : PolicyList k} {e : k.Entry}
    {es : List k.Entry} (h : l.entries = e :: es) :
    (steps.foldl (fun l s => s.apply l) l).entries
      = tuned e (calls steps) :: (es ++ added steps) := by
  induction steps generalizing l e es with
  | nil =>
      rw [show added ([] : List (Step k)) = [] from rfl, List.append_nil]
      exact h
  | cons s steps ih =>
      rw [List.foldl_cons]
      cases s with
      | call c =>
          have hcall : (Step.apply (.call c) l).entries = c.change e :: es := by
            rw [Step.apply, apply_eq, PolicyList.changeFirst, h]
          exact ih hcall
      | push e' =>
          have hpush : (Step.apply (.push e') l).entries = e :: (es ++ [e']) := by
            show l.entries ++ [e'] = _
            rw [h]
            rfl
          rw [ih hpush, List.append_assoc]
          rfl

/-- The first entry comes of the seed and of all calls, and behind it stand the
entries that were added. -/
theorem entries_made (name : String) (s : Step k) (steps : List (Step k)) :
    (made name (s :: steps)).entries = tuned s.seed (calls (s :: steps)) :: added steps := by
  rw [made, List.foldl_cons]
  cases s with
  | call c =>
      have hfirst : (Step.apply (.call c) (PolicyList.new k name)).entries
          = [c.change c.fresh] := by
        rw [Step.apply, apply_eq]
        rfl
      exact entries_foldl steps hfirst
  | push e =>
      have hfirst : (Step.apply (.push e) (PolicyList.new k name)).entries = [e] := rfl
      exact entries_foldl steps hfirst

-- ============================================== parts

/-- The last value that is given for a part. -/
def lastGiven (part? : γ → Option α) (cs : List γ) : Option α := (cs.filterMap part?).getLast?

variable {f : β → γ → β}

/-- A part that is set has the last value given for it. -/
theorem foldl_set (proj : β → α) {part? : γ → Option α}
    (h : ∀ b c, proj (f b c) = (part? c).getD (proj b)) (cs : List γ) (b : β) :
    proj (cs.foldl f b) = (lastGiven part? cs).getD (proj b) := by
  induction cs using List.reverseRecOn with
  | nil => rfl
  | append_singleton cs c ih =>
      rw [List.foldl_append, lastGiven, List.filterMap_append]
      show proj (f (cs.foldl f b) c) = _
      rw [h, ih]
      cases hpart : part? c with
      | none =>
          rw [List.filterMap_cons_none hpart, List.filterMap_nil, List.append_nil]
          rfl
      | some a =>
          rw [List.filterMap_cons_some hpart, List.filterMap_nil, List.getLast?_concat]
          rfl

/-- A part that is extended has all that is given for it. -/
theorem foldl_extended (proj : β → List α) {part? : γ → Option α}
    (h : ∀ b c, proj (f b c) = proj b ++ (part? c).toList) (cs : List γ) (b : β) :
    proj (cs.foldl f b) = proj b ++ cs.filterMap part? := by
  induction cs generalizing b with
  | nil => exact (List.append_nil _).symm
  | cons c cs ih =>
      rw [List.foldl_cons, ih, h, List.append_assoc]
      cases hpart : part? c with
      | none =>
          rw [List.filterMap_cons_none hpart]
          rfl
      | some a =>
          rw [List.filterMap_cons_some hpart]
          rfl

def forwardingClass? : Tuning .appProbe → Option String
  | forwardingClass name => some name
  | colorMapping _ _ => none

def mapping? : Tuning .appProbe → Option ColorDscp
  | forwardingClass _ => none
  | colorMapping color dscp => some ⟨color, dscp⟩

def appProbeClass? : Tuning .slaClass → Option (Option String)
  | appProbeClass id => some (some id)
  | thresholds _ _ _ => none
  | fallback _ => none

/-- All thresholds are given together, as numbers, and one that is left out is
given as none. -/
def thresholds? : Tuning .slaClass → Option (Option String × Option String × Option String)
  | appProbeClass _ => none
  | thresholds latency loss jitter =>
    some (latency.map toString, loss.map toString, jitter.map toString)
  | fallback _ => none

def fallback? : Tuning .slaClass → Option (Option FallbackTunnel)
  | appProbeClass _ => none
  | thresholds _ _ _ => none
  | fallback t => some (some t)

/-- The entry comes of another one by these calls: its forwarding class is the
last one that was assigned, and the mappings are put behind those it had. -/
structure IsProbe (before : AppProbeClassEntry) (calls : List (Tuning .appProbe))
    (after : AppProbeClassEntry) : Prop where
  forwardingClass :
    after.forwardingClass = (lastGiven forwardingClass? calls).getD before.forwardingClass
  map : after.map = before.map ++ calls.filterMap mapping?

/-- The same for a class of service: each part is the last one that was
given. -/
structure IsClass (before : SlaClassEntry) (calls : List (Tuning .slaClass))
    (after : SlaClassEntry) : Prop where
  appProbeClass :
    after.appProbeClass = (lastGiven appProbeClass? calls).getD before.appProbeClass
  thresholds : (after.latency, after.loss, after.jitter)
    = (lastGiven thresholds? calls).getD (before.latency, before.loss, before.jitter)
  fallback : after.fallback = (lastGiven fallback? calls).getD before.fallback

/-- What the calls make of a probe. -/
theorem isProbe_tuned (e : ListKind.Entry .appProbe) (calls : List (Tuning .appProbe)) :
    IsProbe e calls (tuned e calls) where
  forwardingClass := by
    apply foldl_set AppProbeClassEntry.forwardingClass
    intro e c
    cases c <;> rfl
  map := by
    apply foldl_extended AppProbeClassEntry.map
    intro e c
    cases c with
    | forwardingClass name => exact (List.append_nil _).symm
    | colorMapping color dscp => rfl

/-- What the calls make of a class. -/
theorem isClass_tuned (e : ListKind.Entry .slaClass) (calls : List (Tuning .slaClass)) :
    IsClass e calls (tuned e calls) where
  appProbeClass := by
    apply foldl_set SlaClassEntry.appProbeClass
    intro e c
    cases c <;> rfl
  thresholds := by
    apply foldl_set fun e : SlaClassEntry => (e.latency, e.loss, e.jitter)
    intro e c
    cases c <;> rfl
  fallback := by
    apply foldl_set SlaClassEntry.fallback
    intro e c
    cases c <;> rfl

-- ============================================== lists

/-- What steps leave in a list: nothing if there are none; else a first entry
that comes of the seed by the calls, and behind it the entries of the caller's
own as they were added. -/
def Leaves (Comes : k.Entry → List (Tuning k) → k.Entry → Prop) :
    List (Step k) → List k.Entry → Prop
  | [], entries => entries = []
  | s :: steps, entries =>
    ∃ first, entries = first :: added steps ∧ Comes s.seed (calls (s :: steps)) first

/-- What holds of the first entry after any calls holds of the list that was made. -/
theorem leaves_made {Comes : k.Entry → List (Tuning k) → k.Entry → Prop}
    (h : ∀ e calls, Comes e calls (tuned e calls)) (name : String) (steps : List (Step k)) :
    Leaves Comes steps (made name steps).entries := by
  cases steps with
  | nil => exact rfl
  | cons s steps => exact ⟨_, entries_made name s steps, h _ _⟩

/-- Without entries of the caller's own there is one entry at most. -/
theorem entries_calls {Comes : k.Entry → List (Tuning k) → k.Entry → Prop} {fresh : k.Entry}
    (hfresh : ∀ c : Tuning k, c.fresh = fresh) {cs : List (Tuning k)} {entries : List k.Entry}
    (h : Leaves Comes (cs.map .call) entries) :
    (cs = [] ∧ entries = [])
      ∨ cs ≠ [] ∧ ∃ first, entries = [first] ∧ Comes fresh cs first := by
  cases cs with
  | nil => exact Or.inl ⟨rfl, h⟩
  | cons c cs =>
      have hcalls : ∀ cs : List (Tuning k), calls (cs.map .call) = cs := by
        intro cs
        rw [calls, List.filterMap_map]
        exact List.filterMap_some
      have hadded : added (cs.map Step.call) = [] := by
        rw [added, List.filterMap_map]
        exact List.filterMap_eq_nil_iff.mpr fun _ _ => rfl
      obtain ⟨first, hentries, hcomes⟩ := h
      rw [hadded] at hentries
      rw [Step.seed, hfresh] at hcomes
      refine Or.inr ⟨List.cons_ne_nil c cs, first, hentries, ?_⟩
      rw [← hcalls (c :: cs)]
      exact hcomes

/-- A list that is only filled by calls has no entry before the first of them
and one ever after: of probe classes with the forwarding class that was assigned
last and all mappings in order, of classes of service with each part as it was
given last. Entries of the caller's own may come in between: they stay as they
are, in the order in which they were added, but for one that came first of all,
and the calls make of this one what they would make of a fresh one. -/
theorem only_first_tuned (name : String) :
    (∀ cs : List (Tuning .appProbe),
        let entries := (made name (cs.map .call)).entries
        (entries = [] ↔ cs = [])
          ∧ (cs ≠ [] → entries
            = [⟨cs.filterMap mapping?, (lastGiven forwardingClass? cs).getD ""⟩]))
      ∧ (∀ cs : List (Tuning .slaClass),
        let entries := (made name (cs.map .call)).entries
        (entries = [] ↔ cs = []) ∧ entries.length ≤ 1 ∧ ∀ e ∈ entries, IsClass {} cs e)
      ∧ (∀ steps : List (Step .appProbe), Leaves IsProbe steps (made name steps).entries)
      ∧ ∀ steps : List (Step .slaClass), Leaves IsClass steps (made name steps).entries := by
  have hprobes := leaves_made isProbe_tuned name
  have hclasses := leaves_made isClass_tuned name
  refine ⟨fun cs => ?_, fun cs => ?_, hprobes, hclasses⟩
  · have hfresh : ∀ c : Tuning .appProbe, c.fresh = AppProbeClassEntry.mk [] "" := by
      intro c
      cases c <;> rfl
    intro entries
    rcases entries_calls hfresh (hprobes (cs.map .call)) with
      ⟨hnil, hentries⟩ | ⟨hne, first, hentries, hprobe⟩
    · exact ⟨iff_of_true hentries hnil, fun hne => absurd hnil hne⟩
    · rw [show entries = [first] from hentries]
      refine ⟨iff_of_false (List.cons_ne_nil first []) hne, fun _ => congrArg ([·]) ?_⟩
      obtain ⟨map, forwardingClass⟩ := first
      exact congrArg₂ AppProbeClassEntry.mk hprobe.map hprobe.forwardingClass
  · have hfresh : ∀ c : Tuning .slaClass, c.fresh = ({} : SlaClassEntry) := by
      intro c
      cases c <;> rfl
    intro entries
    rcases entries_calls hfresh (hclasses (cs.map .call)) with
      ⟨hnil, hentries⟩ | ⟨hne, first, hentries, hclass⟩
    · rw [show entries = [] from hentries]
      exact ⟨iff_of_true rfl hnil, Nat.zero_le 1, nofun⟩
    · rw [show entries = [first] from hentries]
      refine ⟨iff_of_false (List.cons_ne_nil first []) hne, Nat.le_refl 1, fun e he => ?_⟩
      rw [List.mem_singleton.mp he]
      exact hclass

/-- The entry that was added second keeps its class. -/
example (a b : AppProbeClassEntry) :
    (made "p" [.push a, .push b, .call (.forwardingClass "voice")]).entries
      = [{ a with forwardingClass := "voice" }, b] := rfl

end Tuning

end Sdwan.Policy
