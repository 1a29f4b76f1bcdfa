/-
Lists that are filled by hand pass their check when the numbers in them are in
range.

# What is still in a list

Some calls add an entry, some replace what an earlier call has put into
the list, and some change a part of the first entry. What counts is what is
said by the calls that no later one replaces (`Stands`), so the numbers of the
rest may be anything.

# One call, all calls

A number is printed, and the check reads it back. So what a call puts into a
list passes exactly when its numbers are in range, and the rest of the list
passes as before or is gone (`adds_or_sets`). The induction takes off the last
call and needs nothing else. Classes of service are apart: an entry without
thresholds is not accepted, so a call that sets none of them is good only for
an entry that has some (`check_apply_appProbeClass`).
-/
import Sdwan.Policy.Builder
import Sdwan.Proofs.Policy.EntryTexts
import Sdwan.Proofs.Validation.Nested

namespace Sdwan.Policy

open Validation Text

-- ============================================== calls

/-- A call that fills lists of a kind with numbers, addresses and names. -/
inductive Filling : ListKind → Type where
  | vpn (n : UInt16) : Filling .vpn
  | vpnRange (first last : UInt16) : Filling .vpn
  | zoneVpn (n : UInt16) : Filling .zone
  | zoneInterface (t : InterfaceType) : Filling .zone
  | port (n : UInt16) : Filling .port
  | queue (n : UInt8) : Filling .classMap
  | policer (burst : UInt64) (exceed : ExceedAction) (rate : UInt64) : Filling .policer
  | tloc (tloc : Net.Ipv4) (color : String) (encap : Encap) (preference : Option UInt32) :
      Filling .tloc
  | ipv4Prefix (n : Net.Ipv4Net) (ge le : Option UInt8) : Filling .ipv4Prefix
  | ipv6Prefix (n : Net.Ipv6Net) (ge le : Option UInt8) : Filling .ipv6Prefix
  | dataPrefix (n : Net.Ipv4Net) : Filling .dataPrefix
  | dataIpv6Prefix (n : Net.Ipv6Net) : Filling .dataIpv6Prefix
  | forwardingClass (name : String) : Filling .appProbe
  | colorMapping (color : String) (dscp : UInt8) : Filling .appProbe
  | appProbeClass (id : String) : Filling .slaClass
  | thresholds (latency loss jitter : Option UInt32) : Filling .slaClass

namespace Filling

variable {k : ListKind}

/-- What a call makes of a list. -/
def apply : {k : ListKind} → Filling k → PolicyList k → PolicyList k
  | _, vpn n, l => l.addVpn n
  | _, vpnRange first last, l => l.addVpnRange first last
  | _, zoneVpn n, l => l.addZoneVpn n
  | _, zoneInterface t, l => l.addZoneInterface t
  | _, port n, l => l.addPort n
  | _, queue n, l => l.setQueue n
  | _, policer burst exceed rate, l => l.setPolicer burst exceed rate
  | _, tloc address color encap preference, l => l.addTloc address color encap preference
  | _, ipv4Prefix n ge le, l => l.addIpv4Prefix n ge le
  | _, ipv6Prefix n ge le, l => l.addIpv6Prefix n ge le
  | _, dataPrefix n, l => l.addDataPrefix n
  | _, dataIpv6Prefix n, l => l.addDataIpv6Prefix n
  | _, forwardingClass name, l => l.assignForwardingClass name
  | _, colorMapping color dscp, l => l.addColorMapping color dscp
  | _, appProbeClass id, l => l.assignAppProbeClass id
  | _, thresholds latency loss jitter, l => l.addThresholds latency loss jitter

/-- A new list after these calls. -/
def filled (name : String) (calls : List (Filling k)) : PolicyList k :=
  calls.foldl (fun l c => c.apply l) (PolicyList.new k name)

/-- The later call takes the place of the earlier one: what that one has put
into a list is not there any more. -/
def Replaces : {k : ListKind} → (later earlier : Filling k) → Prop
  | _, queue _, queue _ => True
  | _, policer _ _ _, policer _ _ _ => True
  | _, forwardingClass _, forwardingClass _ => True
  | _, appProbeClass _, appProbeClass _ => True
  | _, thresholds _ _ _, thresholds _ _ _ => True
  | _, _, _ => False

/-- The call is one of these, and no later one takes its place. -/
def Stands (calls : List (Filling k)) (c : Filling k) : Prop :=
  ∃ before after, calls = before ++ c :: after ∧ ∀ d ∈ after, ¬ d.Replaces c

/-- None of the last bits of an address is set. -/
def NoHostBits (address bits : Nat) : Prop := ∀ i < bits, address.testBit i = false

/-- The values of a call are in range. -/
def InRange : {k : ListKind} → Filling k → Prop
  | _, vpn n => n.toNat ≤ 65530
  | _, vpnRange first last => first.toNat < last.toNat ∧ last.toNat ≤ 65530
  | _, zoneVpn n => n.toNat ≤ 65530
  | _, queue n => n.toNat ≤ 7
  | _, policer burst _ rate =>
      (15000 ≤ burst.toNat ∧ burst.toNat ≤ 10000000)
        ∧ 8 ≤ rate.toNat ∧ rate.toNat ≤ 100000000000
  | _, ipv4Prefix n ge le =>
      NoHostBits n.addr.toNat (32 - n.length) ∧ (∀ m ∈ ge, m.toNat ≤ 32)
        ∧ ∀ m ∈ le, m.toNat ≤ 32
  | _, ipv6Prefix n ge le =>
      NoHostBits n.addr.toNat (128 - n.length) ∧ (∀ m ∈ ge, m.toNat ≤ 128)
        ∧ ∀ m ∈ le, m.toNat ≤ 128
  | _, dataPrefix n => NoHostBits n.addr.toNat (32 - n.length)
  | _, dataIpv6Prefix n => NoHostBits n.addr.toNat (128 - n.length)
  | _, colorMapping _ dscp => dscp.toNat ≤ 63
  | _, thresholds latency loss jitter =>
      (∀ n ∈ latency, 1 ≤ n.toNat ∧ n.toNat ≤ 1000) ∧ (∀ n ∈ loss, n.toNat ≤ 100)
        ∧ ∀ n ∈ jitter, 1 ≤ n.toNat ∧ n.toNat ≤ 1000
  | _, zoneInterface _ => True
  | _, port _ => True
  | _, tloc _ _ _ _ => True
  | _, forwardingClass _ => True
  | _, appProbeClass _ => True

/-- The call sets a threshold. -/
def Demands : {k : ListKind} → Filling k → Prop
  | _, thresholds latency loss jitter => latency ≠ none ∨ loss ≠ none ∨ jitter ≠ none
  | _, _ => False

/-- All values that are still in the list are in range, and if there is a
class of service in it, a threshold is among them. -/
structure Sound (calls : List (Filling k)) : Prop where
  inRange : ∀ c, Stands calls c → c.InRange
  demands : k = .slaClass → calls ≠ [] → ∃ c, Stands calls c ∧ c.Demands

-- ============================================== runs

variable {calls : List (Filling k)} {c d : Filling k}

/-- The last call works on what the calls before it have filled. -/
theorem filled_concat (name : String) (calls : List (Filling k)) (c : Filling k) :
    filled name (calls ++ [c]) = c.apply (filled name calls) := by
  rw [filled, List.foldl_append]
  rfl

/-- Before the first call nothing stands. -/
theorem not_stands_nil : ¬ Stands [] c := by
  intro ⟨before, after, h, _⟩
  simp at h

/-- The last call stands, and of the earlier ones those that it does not replace.
This is the step of every induction over calls. -/
theorem stands_concat : Stands (calls ++ [c]) d ↔ d = c ∨ Stands calls d ∧ ¬ c.Replaces d := by
  constructor
  · intro ⟨before, after, heq, hafter⟩
    -- Either nothing comes behind `d`, or the last call is the last of what does.
    rcases List.eq_nil_or_concat after with rfl | ⟨front, last, rfl⟩
    · exact Or.inl (List.singleton_inj.mp (List.append_inj' heq rfl).2).symm
    · have hconcat : calls ++ [c] = (before ++ d :: front) ++ [last] := by simpa using heq
      obtain ⟨hcalls, hlast⟩ := List.append_inj' hconcat rfl
      obtain rfl := List.singleton_inj.mp hlast
      refine Or.inr ⟨⟨before, front, hcalls, fun e he => hafter e ?_⟩, hafter c ?_⟩
      · simp [he]
      · simp
  · intro h
    rcases h with rfl | ⟨⟨before, after, rfl, hafter⟩, hlast⟩
    · exact ⟨calls, [], rfl, nofun⟩
    · refine ⟨before, after ++ [c], by simp, ?_⟩
      intro e he
      rcases List.mem_append.mp he with he | he
      · exact hafter e he
      · rw [List.mem_singleton.mp he]
        exact hlast

-- ============================================== entries

section Entries

/-- The test with a remainder is the one bit by bit. -/
theorem noHostBits_iff {address bits : Nat} :
    (address % Nat.pow 2 bits == 0) = true ↔ NoHostBits address bits := by
  rw [beq_iff_eq]
  constructor
  · intro h i hi
    have hbit : (address % 2 ^ bits).testBit i = false := by
      rw [show address % 2 ^ bits = 0 from h, Nat.zero_testBit]
    rwa [Nat.testBit_mod_two_pow, decide_eq_true hi, Bool.true_and] at hbit
  · intro h
    apply Nat.eq_of_testBit_eq
    intro i
    show (address % 2 ^ bits).testBit i = _
    rw [Nat.testBit_mod_two_pow, Nat.zero_testBit]
    -- The remainder cuts off the bits that the prefix covers, whatever they are.
    by_cases hi : i < bits
    · rw [h i hi, Bool.and_false]
    · rw [decide_eq_false hi, Bool.false_and]

/-- The check complains exactly about addresses that are no networks. -/
theorem checkNetwork_eq_none {text : String} {isNetwork : Bool} :
    checkNetwork text isNetwork = none ↔ isNetwork = true := by
  cases isNetwork <;> simp [checkNetwork]

/-- A network of 32 bits passes if the bits behind its prefix are zero. -/
theorem onIpv4Network_eq_nil {name : String} {n : Net.Ipv4Net} :
    onIpv4Network name n = [] ↔ NoHostBits n.addr.toNat (32 - n.length) := by
  rw [onIpv4Network, onText_eq_nil, checkNetwork_eq_none]
  exact noHostBits_iff

/-- The same with 128 bits. -/
theorem onIpv6Network_eq_nil {name : String} {n : Net.Ipv6Net} :
    onIpv6Network name n = [] ↔ NoHostBits n.addr.toNat (128 - n.length) := by
  rw [onIpv6Network, onText_eq_nil, checkNetwork_eq_none]
  exact noHostBits_iff

/-- The number of a VPN is read back. -/
theorem checkVpn_toString (n : UInt16) : checkVpn (toString n) = none ↔ n.toNat ≤ 65530 :=
  (checkIntRange_toDigits 0 65530 (n.toNat_lt.trans (by decide))).trans
    (and_iff_right (Nat.zero_le _))

/-- The number of a network is written without blanks and signs, so only its size is
left to check. -/
theorem check_vpnEntry_toString (n : UInt16) :
    check (VpnEntry.mk (toString n)) = [] ↔ n.toNat ≤ 65530 := by
  have hdigits : IsNumeral (Nat.toDigits 10 n.toNat) n.toNat :=
    readDigits?_iff.mp readDigits?_toDigits
  have hpieces : pieces (· == '-') (toString n).toList = [Nat.toDigits 10 n.toNat] := by
    show pieces (· == '-') (String.ofList _).toList = _
    rw [String.toList_ofList, hdigits.pieces_eq rfl]
  rw [check_vpnEntry_eq_nil, checkVpnRange_one hpieces,
    (isNatural_trim_digits hdigits).exists_and_iff]

/-- Two numbers with a hyphen between them are cut there and nowhere else: no
numeral holds a hyphen. -/
theorem check_vpnEntry_range (first last : UInt16) :
    check (VpnEntry.mk (toString first ++ "-" ++ toString last)) = []
      ↔ first.toNat < last.toNat ∧ last.toNat ≤ 65530 := by
  have hfirst : IsNumeral (Nat.toDigits 10 first.toNat) first.toNat :=
    readDigits?_iff.mp readDigits?_toDigits
  have hlast : IsNumeral (Nat.toDigits 10 last.toNat) last.toNat :=
    readDigits?_iff.mp readDigits?_toDigits
  have htext : (toString first ++ "-" ++ toString last).toList
      = Nat.toDigits 10 first.toNat ++ '-' :: Nat.toDigits 10 last.toNat := by
    show (String.ofList _ ++ "-" ++ String.ofList _).toList = _
    simp
  have hpieces : pieces (· == '-') (toString first ++ "-" ++ toString last).toList
      = [Nat.toDigits 10 first.toNat, Nat.toDigits 10 last.toNat] := by
    rw [htext, pieces_append_cons rfl, hfirst.pieces_eq rfl, hlast.pieces_eq rfl]
    rfl
  rw [check_vpnEntry_eq_nil, checkVpnRange_two hpieces]
  simp only [exists_and_left, (isNatural_trim_digits hfirst).exists_and_iff,
    (isNatural_trim_digits hlast).exists_and_iff]

/-- A length that was given as a number is never too small. -/
theorem checkLength_toString {label : String} (greatest : Nat) (m : UInt8) :
    checkIntRange (toString m) 0 greatest label = none ↔ m.toNat ≤ greatest :=
  (checkIntRange_toDigits 0 greatest (m.toNat_lt.trans (by decide))).trans
    (and_iff_right (Nat.zero_le _))

/-- The bounds for the lengths of routes, whichever of them are given. -/
theorem onLengths_eq_nil {ge le : Option UInt8} (greatest : Nat) :
    onTextIf "ge" (ge.map toString) (checkIntRange · 0 greatest "ge,le")
        ++ onTextIf "le" (le.map toString) (checkIntRange · 0 greatest "ge,le") = []
      ↔ (∀ m ∈ ge, m.toNat ≤ greatest) ∧ ∀ m ∈ le, m.toNat ≤ greatest := by
  have hlength : ∀ m : UInt8,
      checkIntRange (toString m) 0 greatest "ge,le" = none ↔ m.toNat ≤ greatest :=
    checkLength_toString greatest
  simp only [List.append_eq_nil_iff, onTextIf_map_eq_nil, hlength]

/-- The builder takes the lengths as numbers and writes them down, so the entry
passes if the numbers are in range. -/
theorem check_prefixEntry {n : Net.Ipv4Net} {ge le : Option UInt8} :
    check (PrefixEntry.mk n (ge.map toString) (le.map toString)) = []
      ↔ (ipv4Prefix n ge le).InRange := by
  show (_ ++ _ ++ _) = [] ↔ _ ∧ _
  rw [List.append_assoc, List.append_eq_nil_iff, onIpv4Network_eq_nil]
  exact and_congr_right fun _ => onLengths_eq_nil 32

/-- The same for the longer addresses. -/
theorem check_ipv6PrefixEntry {n : Net.Ipv6Net} {ge le : Option UInt8} :
    check (Ipv6PrefixEntry.mk n (ge.map toString) (le.map toString)) = []
      ↔ (ipv6Prefix n ge le).InRange := by
  show (_ ++ _ ++ _) = [] ↔ _ ∧ _
  rw [List.append_assoc, List.append_eq_nil_iff, onIpv6Network_eq_nil]
  exact and_congr_right fun _ => onLengths_eq_nil 128

/-- Burst and rate are numerals that the builder has written, so the entry passes if
both are in range. -/
theorem check_policerEntry {burst rate : UInt64} {exceed : ExceedAction} :
    check (PolicerEntry.mk (toString burst) exceed (toString rate)) = []
      ↔ (policer burst exceed rate).InRange := by
  have hburst : checkIntRange (toString burst) 15000 10000000 "burst" = none
      ↔ 15000 ≤ burst.toNat ∧ burst.toNat ≤ 10000000 :=
    checkIntRange_toDigits 15000 10000000 (burst.toNat_lt.trans (by decide))
  have hrate : checkIntRange (toString rate) 8 100000000000 "rate" = none
      ↔ 8 ≤ rate.toNat ∧ rate.toNat ≤ 100000000000 :=
    checkIntRange_toDigits 8 100000000000 (rate.toNat_lt.trans (by decide))
  show (_ ++ _) = [] ↔ (_ ∧ _) ∧ _
  rw [List.append_eq_nil_iff, onText_eq_nil, onText_eq_nil, hburst, hrate]

/-- There are eight queues, and a byte has more values than that. -/
theorem check_classMapEntry {n : UInt8} :
    check (ClassMapEntry.mk (toString n)) = [] ↔ n.toNat ≤ 7 := by
  show onText _ _ _ = [] ↔ _
  rw [onText_eq_nil]
  exact checkLength_toString 7 n

/-- Every number of sixteen bits is a port. -/
theorem check_portEntry (n : UInt16) : check (PortEntry.mk (toString n)) = [] := by
  show onText _ _ _ = []
  rw [onText_eq_nil]
  have hn : n.toNat < 65536 := n.toNat_lt
  exact (checkIntRange_toDigits 0 65535 (by omega)).mpr (by omega)

/-- Every number of 32 bits is a preference; address and colour are not checked at
all. -/
theorem check_tlocEntry (address : Net.Ipv4) (color : String) (encap : Encap) (n : UInt32) :
    check (TlocEntry.mk address color encap (toString n)) = [] := by
  show onText _ _ _ = []
  rw [onText_eq_nil]
  have hn : n.toNat < 4294967296 := n.toNat_lt
  exact (checkIntRange_toDigits 0 4294967295 (by omega)).mpr (by omega)

/-- A zone by a network alone has the bound of the network and no clash with an
interface. -/
theorem check_zoneEntry_vpn {n : UInt16} :
    check (ZoneEntry.mk (some (toString n)) none) = [] ↔ n.toNat ≤ 65530 := by
  show thenWhole (onText _ _ _) _ = [] ↔ _
  rw [thenWhole_eq_nil, onText_eq_nil, checkVpn_toString]
  exact and_iff_left rfl

/-- The class is not checked; what is, is the mark of each colour. -/
theorem check_appProbeEntry {e : AppProbeClassEntry} :
    check e = [] ↔ ∀ m ∈ e.map, m.dscp.toNat ≤ 63 := by
  show insideEach _ _ _ = [] ↔ _
  rw [insideEach_eq_nil]
  refine forall_congr' fun m => ?_
  refine forall_congr' fun _ => ?_
  show onRange _ _ _ _ = [] ↔ _
  rw [onRange_eq_nil, within_eq_true]
  simp

end Entries

-- ============================================== lists

section Lists

variable {l : PolicyList k} {e : k.Entry}

/-- A list has no checks of its own. -/
theorem check_list_eq_nil [Patterns] : check l = [] ↔ ∀ e ∈ l.entries, check e = [] :=
  insideEach_eq_nil

/-- An entry at the end is one more that has to pass. -/
theorem check_push_eq_nil [Patterns] : check (l.push e) = [] ↔ check l = [] ∧ check e = [] := by
  rw [check_list_eq_nil, check_list_eq_nil]
  show (∀ e' ∈ l.entries ++ [e], check e' = []) ↔ _
  rw [List.forall_mem_append, List.forall_mem_singleton]

/-- With one entry in place of all, the list is as good as this entry. -/
theorem check_only_eq_nil [Patterns] : check (l.only e) = [] ↔ check e = [] := by
  rw [check_list_eq_nil]
  exact List.forall_mem_singleton

/-- A change of the first entry that only adds to what has to hold of it, and
where a fresh entry passes. -/
theorem check_changeFirst_eq_nil [Patterns] {fresh : k.Entry} {f : k.Entry → k.Entry} {P : Prop}
    (hfresh : check fresh = []) (hf : ∀ e, check (f e) = [] ↔ check e = [] ∧ P) :
    check (l.changeFirst fresh f) = [] ↔ check l = [] ∧ P := by
  rw [check_list_eq_nil, check_list_eq_nil, PolicyList.changeFirst]
  cases l.entries with
  | nil => simp [hf, hfresh]
  | cons e es => simp [hf, and_assoc, and_comm]

end Lists

-- ============================================== one call

/-- The call adds something to what a list has to observe, and takes away
nothing. -/
structure Adds [Patterns] (c : Filling k) : Prop where
  check_apply : ∀ l, check (c.apply l) = [] ↔ check l = [] ∧ c.InRange
  replaced : ∀ d, c.Replaces d → d.InRange

/-- Nothing that the list held before the call matters after it. -/
structure Sets [Patterns] (c : Filling k) : Prop where
  check_apply : ∀ l, check (c.apply l) = [] ↔ c.InRange
  replaces : ∀ d, c.Replaces d

/-- A call that puts one entry behind the others adds, if the entry passes exactly
when the call is in range. -/
theorem adds_of_push [Patterns] {entry : k.Entry} (happly : ∀ l, c.apply l = l.push entry)
    (hentry : check entry = [] ↔ c.InRange) (hkeeps : ∀ d, ¬ c.Replaces d) : c.Adds where
  check_apply l := by rw [happly, check_push_eq_nil, hentry]
  replaced d h := absurd h (hkeeps d)

/-- All calls for other lists than those of classes of service do the one or
the other. -/
theorem adds_or_sets [Patterns] (c : Filling k) (hk : k ≠ .slaClass) : c.Adds ∨ c.Sets := by
  cases c with
  | vpn n => exact Or.inl (adds_of_push (fun _ => rfl) (check_vpnEntry_toString n) fun _ => id)
  | vpnRange first last =>
      exact Or.inl (adds_of_push (fun _ => rfl) (check_vpnEntry_range first last) fun _ => id)
  | zoneVpn n => exact Or.inl (adds_of_push (fun _ => rfl) check_zoneEntry_vpn fun _ => id)
  | zoneInterface t =>
      exact Or.inl (adds_of_push (fun _ => rfl) (iff_of_true rfl trivial) fun _ => id)
  | port n =>
      exact Or.inl (adds_of_push (fun _ => rfl) (iff_of_true (check_portEntry n) trivial)
        fun _ => id)
  | tloc address color encap preference =>
      have hentry := check_tlocEntry address color encap (preference.getD 0)
      exact Or.inl (adds_of_push (fun _ => rfl) (iff_of_true hentry trivial) fun _ => id)
  | ipv4Prefix n ge le => exact Or.inl (adds_of_push (fun _ => rfl) check_prefixEntry fun _ => id)
  | ipv6Prefix n ge le =>
      exact Or.inl (adds_of_push (fun _ => rfl) check_ipv6PrefixEntry fun _ => id)
  | dataPrefix n => exact Or.inl (adds_of_push (fun _ => rfl) onIpv4Network_eq_nil fun _ => id)
  | dataIpv6Prefix n => exact Or.inl (adds_of_push (fun _ => rfl) onIpv6Network_eq_nil fun _ => id)
  -- A queue and a policer are the only entries of their lists.
  | queue n =>
      refine Or.inr ⟨fun l => ?_, fun d => ?_⟩
      · exact check_only_eq_nil.trans check_classMapEntry
      · cases d
        exact trivial
  | policer burst exceed rate =>
      refine Or.inr ⟨fun l => ?_, fun d => ?_⟩
      · exact check_only_eq_nil.trans check_policerEntry
      · cases d
        exact trivial
  -- A class of probes is one entry, and both calls go on with it.
  | forwardingClass name =>
      refine Or.inl ⟨fun l => ?_, fun d h => ?_⟩
      · apply check_changeFirst_eq_nil rfl
        intro e
        exact (and_iff_left trivial).symm
      · cases d with
        | forwardingClass => exact trivial
        | colorMapping => exact h.elim
  | colorMapping color dscp =>
      refine Or.inl ⟨fun l => ?_, fun d h => h.elim⟩
      apply check_changeFirst_eq_nil rfl
      intro e
      rw [check_appProbeEntry, check_appProbeEntry]
      show (∀ m ∈ e.map ++ [_], _) ↔ _ ∧ dscp.toNat ≤ 63
      rw [List.forall_mem_append, List.forall_mem_singleton]
  | appProbeClass id => exact absurd rfl hk
  | thresholds latency loss jitter => exact absurd rfl hk

-- ============================================== classes of service

section Classes

variable {l : PolicyList .slaClass}

/-- There is one entry at most, and it has no fallback. -/
structure IsPlain (l : PolicyList .slaClass) : Prop where
  length_le : l.entries.length ≤ 1
  fallback : ∀ e ∈ l.entries, e.fallback = none

/-- Changing the first entry, or beginning with a fresh one, brings no fallback if
the change does not. -/
theorem isPlain_changeFirst {fresh : SlaClassEntry} {f : SlaClassEntry → SlaClassEntry}
    (hl : IsPlain l) (hfresh : fresh.fallback = none) (hf : ∀ e, (f e).fallback = e.fallback) :
    IsPlain (l.changeFirst fresh f) ∧ (l.changeFirst fresh f).entries ≠ [] := by
  obtain ⟨hlength, hfallback⟩ := hl
  rw [PolicyList.changeFirst]
  cases hentries : l.entries with
  | nil => exact ⟨⟨Nat.le_refl 1, by simp [hf, hfresh]⟩, by simp⟩
  | cons e es =>
      rw [hentries] at hlength hfallback
      refine ⟨⟨hlength, ?_⟩, by simp⟩
      intro e' he'
      rcases List.mem_cons.mp he' with rfl | he'
      · rw [hf]
        exact hfallback e List.mem_cons_self
      · exact hfallback e' (List.mem_cons_of_mem e he')

/-- Neither call on classes of service sets a fallback, and each leaves an entry
behind. -/
theorem isPlain_apply (c : Filling .slaClass) (hl : IsPlain l) :
    IsPlain (c.apply l) ∧ (c.apply l).entries ≠ [] := by
  cases c with
  | appProbeClass id =>
      rw [apply, PolicyList.assignAppProbeClass]
      exact isPlain_changeFirst hl rfl fun _ => rfl
  | thresholds latency loss jitter =>
      rw [apply, PolicyList.addThresholds]
      exact isPlain_changeFirst hl rfl fun _ => rfl

/-- So no list that was filled by calls has a fallback, and it has an entry as soon
as there was a call. -/
theorem isPlain_filled (name : String) (calls : List (Filling .slaClass)) :
    IsPlain (filled name calls) ∧ ((filled name calls).entries ≠ [] ↔ calls ≠ []) := by
  induction calls using List.reverseRecOn with
  | nil =>
      have hentries : (filled name ([] : List (Filling .slaClass))).entries = [] := rfl
      refine ⟨⟨?_, ?_⟩, ?_⟩
      · rw [hentries]
        exact Nat.zero_le 1
      · simp [hentries]
      · simp [hentries]
  | append_singleton calls c ih =>
      rw [filled_concat]
      obtain ⟨hplain, hentries⟩ := isPlain_apply c ih.1
      exact ⟨hplain, iff_of_true hentries (by simp)⟩

/-- The three demands are asked for together: one of them is enough. -/
theorem checkDemands_eq_none {e : SlaClassEntry} :
    e.checkDemands = none ↔ e.latency ≠ none ∨ e.loss ≠ none ∨ e.jitter ≠ none := by
  unfold SlaClassEntry.checkDemands
  cases e.latency <;> cases e.loss <;> cases e.jitter <;> simp

/-- An entry that holds thresholds and nothing else to check passes if they are in
range and there is one. -/
theorem check_thresholdsEntry {e : SlaClassEntry} {latency loss jitter : Option UInt32}
    (he : e.fallback = none) :
    check ({ e with
        latency := latency.map toString
        loss := loss.map toString
        jitter := jitter.map toString } : SlaClassEntry) = []
      ↔ (thresholds latency loss jitter).InRange ∧ (thresholds latency loss jitter).Demands := by
  have hmillis : ∀ (label : String) (n : UInt32),
      checkMillis label (toString n) = none ↔ 1 ≤ n.toNat ∧ n.toNat ≤ 1000 := by
    intro label n
    exact checkIntRange_toDigits 1 1000 (n.toNat_lt.trans (by decide))
  have hloss : ∀ n : UInt32, checkLoss (toString n) = none ↔ n.toNat ≤ 100 := by
    intro n
    exact (checkIntRange_toDigits 0 100 (n.toNat_lt.trans (by decide))).trans
      (and_iff_right (Nat.zero_le _))
  obtain ⟨_, _, _, _, fallback⟩ := e
  obtain rfl : fallback = none := he
  show thenWhole (_ ++ _ ++ _ ++ []) _ = [] ↔ _
  rw [thenWhole_eq_nil, checkDemands_eq_none]
  simp only [List.append_nil, List.append_eq_nil_iff, onTextIf_map_eq_nil, hmillis, hloss, ne_eq,
    Option.map_eq_none_iff, and_assoc, InRange, Demands]

/-- The demands of an earlier call are gone. -/
theorem check_apply_thresholds [Patterns] {latency loss jitter : Option UInt32} (hl : IsPlain l) :
    check ((thresholds latency loss jitter).apply l) = []
      ↔ (thresholds latency loss jitter).InRange ∧ (thresholds latency loss jitter).Demands := by
  obtain ⟨hlength, hfallback⟩ := hl
  show check (PolicyList.changeFirst _ _ _) = [] ↔ _
  rw [PolicyList.changeFirst]
  -- There is one entry at most, so the one that is changed is all there is.
  cases hentries : l.entries with
  | nil => exact check_only_eq_nil.trans (check_thresholdsEntry rfl)
  | cons e es =>
      rw [hentries] at hlength hfallback
      obtain rfl : es = [] := List.eq_nil_of_length_eq_zero (by simpa using hlength)
      exact check_only_eq_nil.trans (check_thresholdsEntry (hfallback e List.mem_cons_self))

/-- An entry that only has a class of probes makes no demand. -/
theorem check_apply_appProbeClass [Patterns] {id : String} :
    check ((appProbeClass id).apply l) = [] ↔ l.entries ≠ [] ∧ check l = [] := by
  rw [check_list_eq_nil, check_list_eq_nil]
  show (∀ e ∈ (PolicyList.changeFirst _ _ _).entries, _) ↔ _
  rw [PolicyList.changeFirst]
  cases hentries : l.entries with
  | nil =>
      refine iff_of_false ?_ fun h => h.1 rfl
      intro h
      exact nomatch h _ List.mem_cons_self
  | cons e es =>
      rw [List.forall_mem_cons, List.forall_mem_cons, and_iff_right (List.cons_ne_nil e es)]
      rfl

end Classes

-- ============================================== all calls

/-- What has to hold after one more call: the call is in range, and what it
leaves is. -/
theorem sound_concat : Sound (calls ++ [c])
    ↔ (c.InRange ∧ ∀ d, Stands calls d → ¬ c.Replaces d → d.InRange)
      ∧ (k = .slaClass →
          c.Demands ∨ ∃ d, (Stands calls d ∧ ¬ c.Replaces d) ∧ d.Demands) := by
  have hdemands : (∃ d, Stands (calls ++ [c]) d ∧ d.Demands)
      ↔ c.Demands ∨ ∃ d, (Stands calls d ∧ ¬ c.Replaces d) ∧ d.Demands := by
    simp only [stands_concat, or_and_right, exists_or, exists_eq_left]
  rw [← hdemands]
  constructor
  · intro ⟨hrange, hdemand⟩
    refine ⟨⟨hrange c (stands_concat.mpr (Or.inl rfl)), fun d hd hc => ?_⟩, fun hk => ?_⟩
    · exact hrange d (stands_concat.mpr (Or.inr ⟨hd, hc⟩))
    · exact hdemand hk (by simp)
  · intro ⟨⟨hc, hrange⟩, hdemand⟩
    refine ⟨fun d hd => ?_, fun hk _ => hdemand hk⟩
    rcases stands_concat.mp hd with rfl | ⟨hd, hreplaced⟩
    · exact hc
    · exact hrange d hd hreplaced

/-- Only classes of service ask for a demand. -/
theorem sound_iff_inRange (hk : k ≠ .slaClass) : Sound calls ↔ ∀ c, Stands calls c → c.InRange :=
  ⟨Sound.inRange, fun h => ⟨h, fun h' => absurd h' hk⟩⟩

/-- One step of the run: whether the call adds or sets, the list is sound after it
exactly when it passes. -/
theorem check_apply_iff_sound [Patterns] {l : PolicyList k} (hk : k ≠ .slaClass)
    (hl : check l = [] ↔ Sound calls) : check (c.apply l) = [] ↔ Sound (calls ++ [c]) := by
  have hconcat : Sound (calls ++ [c])
      ↔ c.InRange ∧ ∀ d, Stands calls d → ¬ c.Replaces d → d.InRange := by
    rw [sound_concat]
    exact and_iff_left fun h => absurd h hk
  rw [hconcat]
  rcases adds_or_sets c hk with hadds | hsets
  · rw [hadds.check_apply, hl, sound_iff_inRange hk, and_comm]
    refine and_congr_right fun _ => forall_congr' fun d => imp_congr_right fun _ => ?_
    constructor
    · intro hd _
      exact hd
    · intro hd
      by_cases hreplaces : c.Replaces d
      · exact hadds.replaced d hreplaces
      · exact hd hreplaces
  · rw [hsets.check_apply]
    exact (and_iff_left fun d _ hd => absurd (hsets.replaces d) hd).symm

/-- Of classes of probes there is nothing to observe. -/
theorem inRange_of_not_replaces {latency loss jitter : Option UInt32} {d : Filling .slaClass}
    (hd : ¬ (thresholds latency loss jitter).Replaces d) : d.InRange ∧ ¬ d.Demands := by
  cases d with
  | appProbeClass => exact ⟨trivial, not_false⟩
  | thresholds => exact absurd trivial hd

/-- Thresholds replace all thresholds before them, so nothing before them counts. -/
theorem sound_concat_thresholds {calls : List (Filling .slaClass)}
    {latency loss jitter : Option UInt32} :
    Sound (calls ++ [thresholds latency loss jitter])
      ↔ (thresholds latency loss jitter).InRange ∧ (thresholds latency loss jitter).Demands := by
  rw [sound_concat]
  constructor
  · intro ⟨⟨hc, _⟩, hdemand⟩
    rcases hdemand rfl with hdemand | ⟨d, ⟨_, hd⟩, hdemand⟩
    · exact ⟨hc, hdemand⟩
    · exact absurd hdemand (inRange_of_not_replaces hd).2
  · intro ⟨hc, hdemand⟩
    exact ⟨⟨hc, fun d _ hd => (inRange_of_not_replaces hd).1⟩, fun _ => Or.inl hdemand⟩

/-- A class of probes is no threshold: it is sound to add it where the thresholds
were sound, but not to begin with it. -/
theorem sound_concat_appProbeClass {calls : List (Filling .slaClass)} {id : String} :
    Sound (calls ++ [appProbeClass id]) ↔ calls ≠ [] ∧ Sound calls := by
  have hreplaces : ∀ d, (appProbeClass id).Replaces d → d.InRange ∧ ¬ d.Demands := by
    intro d hd
    cases d with
    | appProbeClass => exact ⟨trivial, not_false⟩
    | thresholds => exact hd.elim
  rw [sound_concat]
  constructor
  · intro ⟨⟨_, hrange⟩, hdemand⟩
    obtain ⟨d, ⟨hd, hkept⟩, hdemand⟩ := (hdemand rfl).resolve_left nofun
    refine ⟨?_, fun e he => ?_, fun _ _ => ⟨d, hd, hdemand⟩⟩
    · intro hnil
      rw [hnil] at hd
      exact not_stands_nil hd
    · by_cases h : (appProbeClass id).Replaces e
      · exact (hreplaces e h).1
      · exact hrange e he h
  · intro ⟨hne, hsound⟩
    refine ⟨⟨trivial, fun d hd _ => hsound.inRange d hd⟩, fun _ => Or.inr ?_⟩
    obtain ⟨d, hd, hdemand⟩ := hsound.demands rfl hne
    exact ⟨d, ⟨hd, fun h => (hreplaces d h).2 hdemand⟩, hdemand⟩

/-- The run: by induction over the calls, the last one first. -/
theorem check_filled_eq_nil [Patterns] (name : String) (calls : List (Filling k)) :
    check (filled name calls) = [] ↔ Sound calls := by
  induction calls using List.reverseRecOn with
  | nil => exact iff_of_true rfl ⟨fun _ h => absurd h not_stands_nil, fun _ h => absurd rfl h⟩
  | append_singleton calls c ih =>
      rw [filled_concat]
      -- The calls on classes of service neither add nor set: each is a case of its own.
      by_cases hk : k = .slaClass
      · subst hk
        obtain ⟨hplain, hentries⟩ := isPlain_filled name calls
        cases c with
        | thresholds latency loss jitter =>
            rw [check_apply_thresholds hplain, sound_concat_thresholds]
        | appProbeClass id =>
            rw [check_apply_appProbeClass, sound_concat_appProbeClass, hentries, ih]
      · exact check_apply_iff_sound hk ih

/-- Where all calls are in range, no list is refused. -/
theorem check_filled_of_inRange [Patterns] (hk : k ≠ .slaClass) (h : ∀ c : Filling k, c.InRange)
    (name : String) (calls : List (Filling k)) : check (filled name calls) = [] := by
  rw [check_filled_eq_nil, sound_iff_inRange hk]
  intro c _
  exact h c

/-- A list that was filled by calls passes exactly when all numbers that are
still in it are in range and a class of service makes a demand. Any number is
a port and any number a preference, so lists of these are never refused. -/
theorem filled_accepted [Patterns] :
    (∀ (k : ListKind) (name : String) (calls : List (Filling k)),
        check (filled name calls) = [] ↔ Sound calls)
      ∧ (∀ (name : String) (calls : List (Filling .port)), check (filled name calls) = [])
      ∧ ∀ (name : String) (calls : List (Filling .tloc)), check (filled name calls) = [] := by
  refine ⟨fun k name calls => check_filled_eq_nil name calls, ?_, ?_⟩
  · apply check_filled_of_inRange (by decide)
    intro c
    cases c
    exact trivial
  · apply check_filled_of_inRange (by decide)
    intro c
    cases c
    exact trivial

section Stock

attribute [local instance] Stock.patterns

/-- The second queue takes the place of the first. -/
example : check (filled "queues" [queue 9, queue 3]) = [] := by decide +kernel

end Stock

end Filling

end Sdwan.Policy
