/-
Settings of an interface that go together.

The rules for several settings are said here as what has to hold
(`Concordant`), where the module on requirements lists the ways in which they
fail (`Discordant`). The check makes them one after the other and stops at the
first that fails, but only when every setting is good by itself. So of such
settings it finds nothing exactly when all the rules hold, and one thing, on the
whole, when one of them does not (`check_iff_concordant`).
-/
import Sdwan.Proofs.Feature.Requirements

namespace Sdwan.Feature.Interface

open Validation

variable {i : Interface}

-- ============================================== the rules

/-- What the settings need of each other, but for the order of the ends of a
pool. -/
structure Settled (i : Interface) : Prop where
  /-- The address is given, or asked for, but not both. -/
  address : i.addressing.ipv4Address = none ∨ i.addressing.dhcpIpv4Client ≠ some ⟨true⟩
  /-- A pool has both its ends. -/
  ends : i.nat.choice = some .pool → i.nat.poolStart ≠ none ∧ i.nat.poolEnd ≠ none
  loopback : i.nat.choice = some .loopback → i.nat.loopback ≠ none
  downstream : ∀ least ∈ i.shaping.downMin, ∀ most ∈ i.shaping.downMax, least ≤ most
  upstream : ∀ least ∈ i.shaping.upMin, ∀ most ∈ i.shaping.upMax, least ≤ most

/-- The settings go together. -/
structure Concordant (i : Interface) : Prop extends i.Settled where
  order : i.nat.choice = some .pool →
    ∀ first ∈ i.nat.poolStart, ∀ last ∈ i.nat.poolEnd, first.toNat ≤ last.toNat

theorem not_reversed_iff {least most : Option UInt32} :
    ¬ Reversed least most ↔ ∀ a ∈ least, ∀ b ∈ most, a ≤ b := by
  simp only [Reversed, not_exists, not_and, UInt32.not_lt]

/-- The rules hold when none of them fails. -/
theorem concordant_iff_not_discordant : i.Concordant ↔ ¬ i.Discordant := by
  constructor
  · intro h hno
    cases hno with
    | address fixed requested => exact h.address.elim fixed (· requested)
    | nat nat =>
        cases nat with
        | noStart isPool unset => exact (h.ends isPool).1 unset
        | noEnd isPool unset => exact (h.ends isPool).2 unset
        | reversed isPool start stop below =>
            exact Nat.not_le.mpr below (h.order isPool _ start _ stop)
        | noLoopback isLoopback unset => exact h.loopback isLoopback unset
    | downstream rates => exact not_reversed_iff.mpr h.downstream rates
    | upstream rates => exact not_reversed_iff.mpr h.upstream rates
  · intro h
    refine ⟨⟨?_, fun isPool => ⟨?_, ?_⟩, ?_, ?_, ?_⟩, ?_⟩
    · by_contra hno
      rw [not_or, Ne, not_not] at hno
      exact h (.address hno.1 hno.2)
    · exact fun unset => h (.nat (.noStart isPool unset))
    · exact fun unset => h (.nat (.noEnd isPool unset))
    · exact fun isLoopback unset => h (.nat (.noLoopback isLoopback unset))
    · exact not_reversed_iff.mp fun rates => h (.downstream rates)
    · exact not_reversed_iff.mp fun rates => h (.upstream rates)
    · intro isPool first start last stop
      exact Nat.not_lt.mp fun below => h (.nat (.reversed isPool start stop below))

theorem checkWhole_eq_none : i.checkWhole = none ↔ i.Concordant := by
  rw [concordant_iff_not_discordant, ← checkWhole_ne_none, not_not]

-- ============================================== the check

/-- A tunnel that cannot be reported on breaks a requirement. -/
theorem Tunnel.breaks_of_overfull {t : Tunnel} (h : t.Overfull) :
    Breaks requirements t [.field "tloc_encapsulation"] := by
  obtain ⟨es, hes, hmany, -⟩ := h
  exact breaks_field.mpr (.inl ⟨⟨es, hes, .inr hmany⟩, rfl⟩)

/-- Where no requirement is broken, the check is that of the whole. -/
theorem check_of_not_broken (h : ∀ path, ¬ i.Broken path) :
    i.check = .ok (thenWhole [] i.checkWhole) := by
  simp only [Broken, not_or] at h
  have hname : onLength "if_name" (some 1) (some 32) i.name = [] :=
    eq_nil_iff_names.mpr fun p hp => (h p).1 (breaks_field.mpr (.inl (by simpa using hp)))
  have haddressing : Checked.check i.addressing = [] :=
    eq_nil_iff_names.mpr fun p hp => (h p).2.1 ((Addressing.names_check _ p).mp hp)
  have hnat : Checked.check i.nat = [] :=
    eq_nil_iff_names.mpr fun p hp => (h p).2.2.1 ((NatSettings.names_check _ p).mp hp)
  obtain ⟨tunnel, hok, htunnel⟩ :=
    Tunnel.names_check fun hfull => (h _).2.2.2.1 (Tunnel.breaks_of_overfull hfull)
  obtain rfl : tunnel = [] :=
    eq_nil_iff_names.mpr fun p hp => (h p).2.2.2.1 ((htunnel p).mp hp)
  have hlink : Checked.check i.link = [] :=
    eq_nil_iff_names.mpr fun p hp => (h p).2.2.2.2.1 ((Link.names_check _ p).mp hp)
  have hshaping : Checked.check i.shaping = [] :=
    eq_nil_iff_names.mpr fun p hp => (h p).2.2.2.2.2.1 ((Shaping.names_check _ p).mp hp)
  have hneighbourhood : Checked.check i.neighbourhood = [] :=
    eq_nil_iff_names.mpr fun p hp =>
      (h p).2.2.2.2.2.2.1 ((Neighbourhood.names_check _ p).mp hp)
  have htrust : Checked.check i.trustSec = [] :=
    eq_nil_iff_names.mpr fun p hp => (h p).2.2.2.2.2.2.2 ((TrustSec.names_check _ p).mp hp)
  rw [check, hok, hname, haddressing, hnat, hlink, hshaping, hneighbourhood, htrust]
  rfl

/-- Settings that are good by themselves are found good exactly when they go
together, and else one thing is found, on the whole. -/
theorem check_iff_concordant (h : ∀ path, ¬ i.Broken path) :
    (i.check = .ok [] ↔ i.Concordant)
      ∧ (¬ i.Concordant → ∃ issue, i.check = .ok [⟨whole, issue⟩]) := by
  rw [check_of_not_broken h, ← checkWhole_eq_none]
  cases i.checkWhole with
  | none => exact ⟨iff_of_true rfl rfl, fun hno => absurd rfl hno⟩
  | some issue => exact ⟨iff_of_false nofun nofun, fun _ => ⟨issue, rfl⟩⟩

/-- An interface with a pool, and with rates upstream. -/
def shared (first last : Net.Ipv4) (least most : UInt32) : Interface where
  name := "GigabitEthernet1"
  nat := { choice := some .pool, poolStart := some first, poolEnd := some last }
  shaping := { upMin := some least, upMax := some most }

theorem not_broken_shared (first last : Net.Ipv4) (least most : UInt32) :
    ∀ path, ¬ (shared first last least most).Broken path := by
  have hname : ¬ Outside "GigabitEthernet1".length 1 32 := by
    rw [Outside]
    decide
  intro path
  simp [Broken, requirements, Addressing.requirements, NatSettings.requirements,
    Tunnel.requirements, Link.requirements, Shaping.requirements, Neighbourhood.requirements,
    TrustSec.requirements, Requirement.Broken, shared, hname]

/-- Behind a pool in order, rates that are not are still found. -/
theorem check_iff_concordant_shared :
    (shared ⟨10, 0, 0, 9⟩ ⟨10, 0, 1, 2⟩ 100 5000).check = .ok []
      ∧ ∃ issue, (shared ⟨10, 0, 0, 9⟩ ⟨10, 0, 1, 2⟩ 9000 5000).check = .ok [⟨whole, issue⟩] := by
  constructor
  · have hwhole : (shared ⟨10, 0, 0, 9⟩ ⟨10, 0, 1, 2⟩ 100 5000).checkWhole.isNone = true := by
      decide
    exact (check_iff_concordant (not_broken_shared _ _ _ _)).1.mpr
      (checkWhole_eq_none.mp (Option.isNone_iff_eq_none.mp hwhole))
  · refine (check_iff_concordant (not_broken_shared _ _ _ _)).2 fun h => ?_
    exact absurd (h.upstream 9000 rfl 5000 rfl) (by decide)

end Sdwan.Feature.Interface
