/-
What the settings of an interface have to observe, and what their checks
report.

The requirements are said here without the checks, as one table for each
record. The check of a record names the places where the record breaks one
of them, and no others (`names_check`), however many there are.
-/
import Sdwan.Feature.Interface.Basic
import Sdwan.Proofs.Validation.Named

namespace Sdwan.Feature.Interface

open Validation

-- ============================================== entries

def DhcpHelperV6.requirements : List (Requirement DhcpHelperV6) :=
  [.field "vpn" fun h => ∃ n ∈ h.vpn, maxVpn < n.toNat]

/-- The first of the entries: its check names a path exactly when the value there
breaks what is required of it. All entries below have this statement, and the tables
of requirements are compared with the checks field by field. -/
theorem DhcpHelperV6.names_check (h : DhcpHelperV6) (path : List Step) :
    Names (Checked.check h) path ↔ Breaks requirements h path := by
  simp [Checked.check, requirements]

/-- The check of a hardware address complains exactly about texts that are none. -/
@[simp] theorem checkMac_ne_none {s : String} : ¬ checkMac s = none ↔ isMac s = false := by
  unfold checkMac
  split <;> simp [*]

def ArpEntry.requirements : List (Requirement ArpEntry) :=
  [.field "mac" fun e => isMac e.mac = false]

/-- An entry of the address table: the hardware address is the only field that is
looked at. -/
theorem ArpEntry.names_check (e : ArpEntry) (path : List Step) :
    Names (Checked.check e) path ↔ Breaks requirements e path := by
  simp [Checked.check, requirements]

def AccessList.requirements : List (Requirement AccessList) :=
  [.field "acl_name" fun a => Outside a.name.length 1 127]

/-- A list of rules for access: only the length of its name is looked at. -/
theorem AccessList.names_check (a : AccessList) (path : List Step) :
    Names (Checked.check a) path ↔ Breaks requirements a path := by
  simp [Checked.check, requirements]

def StaticNat66.requirements : List (Requirement StaticNat66) :=
  [.field "source_vpn_id" fun n => maxVpn < n.sourceVpn.toNat]

/-- A fixed translation of long addresses: only the network of the source has a
bound. -/
theorem StaticNat66.names_check (n : StaticNat66) (path : List Step) :
    Names (Checked.check n) path ↔ Breaks requirements n path := by
  simp [Checked.check, requirements]

def StaticNat.requirements : List (Requirement StaticNat) :=
  [.field "source_vpn" fun n => maxVpn < n.sourceVpn.toNat]

/-- The same for short addresses. -/
theorem StaticNat.names_check (n : StaticNat) (path : List Step) :
    Names (Checked.check n) path ↔ Breaks requirements n path := by
  simp [Checked.check, requirements]

def StaticPortForward.requirements : List (Requirement StaticPortForward) :=
  [.field "source_vpn" fun n => maxVpn < n.sourceVpn.toNat]

/-- The same for ports; that they have sixteen bits is a matter of their type. -/
theorem StaticPortForward.names_check (n : StaticPortForward) (path : List Step) :
    Names (Checked.check n) path ↔ Breaks requirements n path := by
  simp [Checked.check, requirements]

def Encapsulation.requirements : List (Requirement Encapsulation) :=
  [.field "weight" fun e => Outside e.weight.toNat 1 255]

/-- A wrapping of the tunnel: a byte has one value more than a weight may have. -/
theorem Encapsulation.names_check (e : Encapsulation) (path : List Step) :
    Names (Checked.check e) path ↔ Breaks requirements e path := by
  simp [Checked.check, requirements]

-- ============================================== groups of routers

def TrackingObject.requirements : List (Requirement TrackingObject) :=
  [.field "name" fun t => Outside t.name.toNat 1 1000,
    .field "decrement" fun t => Outside t.decrement.toNat 1 255]

/-- An object that a group watches. -/
theorem TrackingObject.names_check (t : TrackingObject) (path : List Step) :
    Names (Checked.check t) path ↔ Breaks requirements t path := by
  simp [Checked.check, requirements]

def Vrrp.requirements : List (Requirement Vrrp) :=
  [.field "grp_id" fun v => Outside v.groupId.toNat 1 255,
    .field "priority" fun v => Outside v.priority.toNat 1 254,
    .field "timer" fun v => Outside v.timer.toNat 100 40950,
    .field "value" fun v => v.value.toNat < 1,
    .items "tracking_object" Vrrp.tracked (Breaks TrackingObject.requirements)]

/-- A group of routers: its own fields, and the objects that it watches, each under
its position. -/
theorem Vrrp.names_check (v : Vrrp) (path : List Step) :
    Names (Checked.check v) path ↔ Breaks requirements v path := by
  change Names (_ ++ _) path ↔ _
  simp [checkGroup, requirements,
    names_insideEach TrackingObject.names_check Vrrp.tracked v]

def Ipv6Vrrp.requirements : List (Requirement Ipv6Vrrp) :=
  [.field "grp_id" fun v => Outside v.groupId.toNat 1 255,
    .field "priority" fun v => Outside v.priority.toNat 1 254,
    .field "timer" fun v => Outside v.timer.toNat 100 40950]

/-- A group for long addresses watches nothing. -/
theorem Ipv6Vrrp.names_check (v : Ipv6Vrrp) (path : List Step) :
    Names (Checked.check v) path ↔ Breaks requirements v path := by
  simp [Checked.check, checkGroup, requirements]

-- ============================================== settings

def Addressing.requirements : List (Requirement Addressing) :=
  [.field "secondary_ipv4_address" fun a => ∃ as ∈ a.secondaryIpv4, 4 < as.length,
    .field "dhcp_distance" fun a => ∃ n ∈ a.dhcpDistance, Outside n.toNat 1 255,
    .field "secondary_ipv6_address" fun a => ∃ as ∈ a.secondaryIpv6, 2 < as.length,
    .items "access_list_ipv4" Addressing.accessLists (Breaks AccessList.requirements),
    .field "dhcp_helper" fun a => ∃ as ∈ a.dhcpHelpers, 8 < as.length,
    .items "dhcp_helper_v6" Addressing.dhcpHelpersV6 (Breaks DhcpHelperV6.requirements)]

/-- The addresses of an interface: three lists are bounded in length, and two hold
entries with requirements of their own. -/
theorem Addressing.names_check (a : Addressing) (path : List Step) :
    Names (Checked.check a) path ↔ Breaks requirements a path := by
  change Names (_ ++ _) path ↔ _
  simp [requirements,
    names_insideEach AccessList.names_check Addressing.accessLists a,
    names_insideEach DhcpHelperV6.names_check Addressing.dhcpHelpersV6 a]

def NatSettings.requirements : List (Requirement NatSettings) :=
  [.field "udp_timeout" fun n => ∃ m ∈ n.udpTimeout, Outside m.toNat 1 8947,
    .field "tcp_timeout" fun n => ∃ m ∈ n.tcpTimeout, Outside m.toNat 1 8947,
    .field "prefix_length" fun n => ∃ m ∈ n.poolPrefixLength, Outside m.toNat 1 32,
    .items "static_nat66" NatSettings.static66 (Breaks StaticNat66.requirements),
    .items "static_nat" NatSettings.static4 (Breaks StaticNat.requirements),
    .items "static_port_forward" NatSettings.portForwards (Breaks StaticPortForward.requirements)]

/-- The settings of translation, with three lists of fixed entries. -/
theorem NatSettings.names_check (n : NatSettings) (path : List Step) :
    Names (Checked.check n) path ↔ Breaks requirements n path := by
  change Names (_ ++ _) path ↔ _
  simp [requirements,
    names_insideEach StaticNat66.names_check NatSettings.static66 n,
    names_insideEach StaticNat.names_check NatSettings.static4 n,
    names_insideEach StaticPortForward.names_check NatSettings.portForwards n]

def Tunnel.requirements : List (Requirement Tunnel) :=
  [.field "tloc_encapsulation" fun t => ∃ es ∈ t.encapsulations, Outside es.length 1 2,
    .items "tloc_encapsulation" Tunnel.encapsulations (Breaks Encapsulation.requirements),
    .field "tunnels_bandwidth" fun t => ∃ n ∈ t.bandwidth, Outside n.toNat 1 100,
    .field "max_control_connections" fun t => ∃ n ∈ t.maxControlConnections, 100 < n.toNat,
    .field "vmanage_connection_preference" fun t => ∃ n ∈ t.managerPreference, 8 < n.toNat,
    .field "nat_refresh_interval" fun t => ∃ n ∈ t.natRefreshInterval, Outside n.toNat 1 60,
    .field "hello_interval" fun t => ∃ n ∈ t.helloInterval, Outside n.toNat 100 600000,
    .field "hello_tolerance" fun t => ∃ n ∈ t.helloTolerance, Outside n.toNat 12 6000,
    .field "tunnel_tcp_mss_adjust" fun t => ∃ n ∈ t.tcpMss, Outside n.toNat 500 1460]

/-- There are too many wrappings, and one of them has no weight. -/
def Tunnel.Overfull (t : Tunnel) : Prop :=
  ∃ es ∈ t.encapsulations, 2 < es.length ∧ ∃ e ∈ es, e.weight = 0

/-- A wrapping is found good when it has a weight. -/
theorem Encapsulation.check_eq_nil {e : Encapsulation} : Checked.check e = [] ↔ e.weight ≠ 0 := by
  have hmax : e.weight.toNat < 256 := e.weight.toNat_lt
  have hzero : e.weight = 0 ↔ e.weight.toNat = 0 := UInt8.toNat_inj.symm
  change onRange _ _ _ _ = [] ↔ _
  rw [onRange_eq_nil, ne_eq, hzero]
  simp only [within, Option.all_some, Bool.and_eq_true, decide_eq_true_eq]
  omega

/-- This is when there are findings on the wrappings as a list and on one of
them. A list with a wrapping cannot have too few. -/
theorem Tunnel.overfull_iff {t : Tunnel} :
    t.Overfull ↔ onItemsIf "tloc_encapsulation" (some 1) (some 2) t.encapsulations ≠ []
      ∧ insideEach "tloc_encapsulation" Checked.check (t.encapsulations.getD []) ≠ [] := by
  cases h : t.encapsulations with
  | none => simp [Overfull, h, onItemsIf]
  | some es =>
      rw [Overfull, h]
      simp only [onItemsIf, Option.getD_some, ne_eq, insideEach_eq_nil, onCount_eq_nil,
        Encapsulation.check_eq_nil, Bool.not_eq_true, within_eq_false, Option.mem_some_iff,
        exists_eq_left', Classical.not_forall, Classical.not_not, exists_prop]
      refine and_congr_left fun hweightless => ?_
      obtain ⟨e, he, -⟩ := hweightless
      have hpos : 0 < es.length := List.length_pos_of_mem he
      rw [Outside]
      omega

/-- Findings on both clash. -/
theorem Tunnel.check_of_overfull {t : Tunnel} (h : t.Overfull) :
    t.check = .error ⟨"tloc_encapsulation"⟩ := by
  rw [check, ownAndInside_eq_error (overfull_iff.mp h)]
  rfl

/-- Else the report names the places where the tunnel breaks a requirement. -/
theorem Tunnel.names_check {t : Tunnel} (h : ¬ t.Overfull) :
    ∃ r, t.check = .ok r ∧ ∀ path, Names r path ↔ Breaks requirements t path := by
  rw [check, ownAndInside_eq_ok (mt overfull_iff.mpr h)]
  refine ⟨_, rfl, fun path => ?_⟩
  simp [requirements, names_insideEach Encapsulation.names_check Tunnel.encapsulations t]

def Link.requirements : List (Requirement Link) :=
  [.field "intrf_mtu" fun l => ∃ n ∈ l.interfaceMtu, Outside n.toNat 1500 9216,
    .field "mtu" fun l => ∃ n ∈ l.mtu, Outside n.toNat 576 9216,
    .field "tcp_mss_adjust" fun l => ∃ n ∈ l.tcpMss, Outside n.toNat 500 1460,
    .field "load_interval" fun l => ∃ n ∈ l.loadInterval, Outside n.toNat 30 600,
    .field "mac_address" fun l => ∃ s ∈ l.macAddress, isMac s = false,
    .field "arp_timeout" fun l => ∃ n ∈ l.arpTimeout, 2147483 < n.toNat]

/-- The link: all of its fields may be missing, and a missing field breaks nothing. -/
theorem Link.names_check (l : Link) (path : List Step) :
    Names (Checked.check l) path ↔ Breaks requirements l path := by
  simp [Checked.check, requirements]

def Shaping.requirements : List (Requirement Shaping) :=
  [.field "period" fun s => ∃ n ∈ s.period, Outside n.toNat 1 720]

/-- Of the rates only the period has a bound. Whether they are in order is a matter
of the whole. -/
theorem Shaping.names_check (s : Shaping) (path : List Step) :
    Names (Checked.check s) path ↔ Breaks requirements s path := by
  simp [Checked.check, requirements]

def Neighbourhood.requirements : List (Requirement Neighbourhood) :=
  [.items "access_list_ipv6" Neighbourhood.accessListsV6 (Breaks AccessList.requirements),
    .items "ip" Neighbourhood.neighbours (Breaks ArpEntry.requirements),
    .items "vrrp" Neighbourhood.groups4 (Breaks Vrrp.requirements),
    .items "ipv6_vrrp" Neighbourhood.groups6 (Breaks Ipv6Vrrp.requirements)]

/-- The neighbours have four lists of entries and no field of their own. -/
theorem Neighbourhood.names_check (n : Neighbourhood) (path : List Step) :
    Names (Checked.check n) path ↔ Breaks requirements n path := by
  change Names (_ ++ _) path ↔ _
  simp [requirements,
    names_insideEach AccessList.names_check Neighbourhood.accessListsV6 n,
    names_insideEach ArpEntry.names_check Neighbourhood.neighbours n,
    names_insideEach Vrrp.names_check Neighbourhood.groups4 n,
    names_insideEach Ipv6Vrrp.names_check Neighbourhood.groups6 n]

def TrustSec.requirements : List (Requirement TrustSec) :=
  [.field "sgt" fun t => ∃ n ∈ t.tag, Outside n.toNat 2 65519,
    .field "enforcement_sgt" fun t => ∃ n ∈ t.enforcedTag, Outside n.toNat 2 65519]

/-- Both tags have the same bounds. -/
theorem TrustSec.names_check (t : TrustSec) (path : List Step) :
    Names (Checked.check t) path ↔ Breaks requirements t path := by
  simp [Checked.check, requirements]

-- ============================================== templates

/-- What the settings outside the parts have to observe. -/
def requirements : List (Requirement Interface) :=
  [.field "if_name" fun i => Outside i.name.length 1 32]

/-- The places where the settings break a requirement. -/
def Broken (i : Interface) (path : List Step) : Prop :=
  Breaks requirements i path
    ∨ Breaks Addressing.requirements i.addressing path
    ∨ Breaks NatSettings.requirements i.nat path
    ∨ Breaks Tunnel.requirements i.tunnel path
    ∨ Breaks Link.requirements i.link path
    ∨ Breaks Shaping.requirements i.shaping path
    ∨ Breaks Neighbourhood.requirements i.neighbourhood path
    ∨ Breaks TrustSec.requirements i.trustSec path

-- ============================================== settings together

/-- The choice of addresses to share lacks what it needs. -/
inductive NatSettings.Discordant (n : NatSettings) : Prop where
  | noStart (isPool : n.choice = some .pool) (unset : n.poolStart = none)
  | noEnd (isPool : n.choice = some .pool) (unset : n.poolEnd = none)
  | reversed {first last : Net.Ipv4} (isPool : n.choice = some .pool)
      (start : n.poolStart = some first) (stop : n.poolEnd = some last)
      (below : last.toNat < first.toNat)
  | noLoopback (isLoopback : n.choice = some .loopback) (unset : n.loopback = none)

/-- A least rate is above the greatest. -/
def Reversed (least most : Option UInt32) : Prop := ∃ a ∈ least, ∃ b ∈ most, b < a

/-- The settings do not go together. -/
inductive Discordant (i : Interface) : Prop where
  /-- An address is both given and asked for. -/
  | address (fixed : i.addressing.ipv4Address ≠ none)
      (requested : i.addressing.dhcpIpv4Client = some ⟨true⟩)
  | nat (nat : i.nat.Discordant)
  | downstream (rates : Reversed i.shaping.downMin i.shaping.downMax)
  | upstream (rates : Reversed i.shaping.upMin i.shaping.upMax)

/-- The first rule of the whole speaks up when an address is both given and asked
for. -/
theorem checkAddressSource_ne_none {i : Interface} : i.checkAddressSource ≠ none
    ↔ i.addressing.ipv4Address ≠ none ∧ i.addressing.dhcpIpv4Client = some ⟨true⟩ := by
  unfold checkAddressSource
  split <;> simp_all [Option.isSome_iff_ne_none]

/-- The second follows the choice: a pool needs both ends in order, a loopback needs
its interface. -/
theorem checkNat_ne_none {i : Interface} : i.checkNat ≠ none ↔ i.nat.Discordant := by
  unfold checkNat
  constructor
  · intro h
    split at h
    · next pool =>
        cases hstart : i.nat.poolStart with
        | none => exact .noStart pool hstart
        | some first =>
            cases hstop : i.nat.poolEnd with
            | none => exact .noEnd pool hstop
            | some last =>
                simp only [hstart, hstop, ne_eq, ite_eq_right_iff, reduceCtorEq, imp_false,
                  Nat.not_lt, Nat.not_le] at h
                exact .reversed pool hstart hstop h
    · next loopback =>
        simp only [ne_eq, ite_eq_right_iff, reduceCtorEq, imp_false, Bool.not_eq_true] at h
        exact .noLoopback loopback (by simpa using h)
    · exact absurd rfl h
  · rintro (⟨choice, unset⟩ | ⟨choice, unset⟩ | ⟨choice, start, stop, below⟩ | ⟨choice, unset⟩)
    · simp [choice, unset]
    · cases i.nat.poolStart <;> simp [choice, unset]
    · simp [choice, start, stop, below]
    · simp [choice, unset]

/-- The last two compare rates, where both are given. -/
theorem checkOrder_ne_none {least most : Option UInt32} {label : String} :
    checkOrder least most label ≠ none ↔ Reversed least most := by
  cases least <;> cases most <;> simp [checkOrder, Reversed]

/-- The check of all settings finds whether they go together. -/
theorem checkWhole_ne_none {i : Interface} : i.checkWhole ≠ none ↔ i.Discordant := by
  rw [checkWhole, firstIssue_ne_none]
  simp only [List.mem_cons, List.not_mem_nil, or_false, exists_eq_or_imp, exists_eq_left,
    checkAddressSource_ne_none, checkNat_ne_none, checkOrder_ne_none]
  constructor
  · rintro (⟨fixed, requested⟩ | nat | rates | rates)
    · exact .address fixed requested
    · exact .nat nat
    · exact .downstream rates
    · exact .upstream rates
  · rintro (⟨fixed, requested⟩ | nat | rates | rates)
    · exact .inl ⟨fixed, requested⟩
    · exact .inr (.inl nat)
    · exact .inr (.inr (.inl rates))
    · exact .inr (.inr (.inr rates))

-- ============================================== reports

/-- The check of the settings finds all that is wrong, unless it cannot
report it.

When the tunnel has more than two wrappings and one of them has no weight,
there is no report. Else there is one, and it names every place where the
settings break a requirement, and no other. Where they break none it is
empty, or names the whole if they do not go together. -/
theorem check_reports (i : Interface) :
    (i.tunnel.Overfull → i.check = .error ⟨"tloc_encapsulation"⟩)
      ∧ (¬ i.tunnel.Overfull → ∃ r, i.check = .ok r ∧ ∀ path, Names r path
          ↔ i.Broken path ∨ (path = whole ∧ (∀ p, ¬ i.Broken p) ∧ i.Discordant)) := by
  constructor
  · intro h
    rw [check, Tunnel.check_of_overfull h]
    rfl
  · intro h
    obtain ⟨tunnel, hok, htunnel⟩ := Tunnel.names_check h
    rw [check, hok]
    refine ⟨_, rfl, fun path => ?_⟩
    have hparts : ∀ p, Names (onLength "if_name" (some 1) (some 32) i.name
        ++ Checked.check i.addressing ++ Checked.check i.nat ++ tunnel ++ Checked.check i.link
        ++ Checked.check i.shaping ++ Checked.check i.neighbourhood ++ Checked.check i.trustSec) p
          ↔ i.Broken p := by
      intro p
      simp only [names_append, names_onLength, within_eq_false, Addressing.names_check,
        NatSettings.names_check, htunnel, Link.names_check, Shaping.names_check,
        Neighbourhood.names_check, TrustSec.names_check, Broken, requirements, breaks_field,
        breaks_nil, or_false, or_assoc]
    rw [names_thenWhole, checkWhole_ne_none]
    simp only [hparts]

/-- An interface with packets below the least size, and with these wrappings
of its tunnel. -/
def wrapped (es : List Encapsulation) : Interface :=
  { name := "GigabitEthernet1", link := { mtu := some 100 }, tunnel := { encapsulations := some es } }

/-- A wrapping without weight is reported beside the size of packets when it
is one of two, and nothing is when it is one of three. -/
theorem check_reports_wrapped :
    (wrapped [{ encap := .gre, weight := 0 }, { encap := .gre }, { encap := .ipsec }]).check
        = .error ⟨"tloc_encapsulation"⟩
      ∧ ∃ r, (wrapped [{ encap := .gre, weight := 0 }, { encap := .ipsec }]).check = .ok r
        ∧ Names r [.field "tloc_encapsulation", .index 0, .field "weight"]
        ∧ Names r [.field "mtu"] := by
  constructor
  · refine (check_reports _).1 ⟨_, rfl, by decide, ?_⟩
    exact ⟨_, List.mem_cons_self, rfl⟩
  · have hfits : ¬ (wrapped [{ encap := .gre, weight := 0 }, { encap := .ipsec }]).tunnel.Overfull := by
      rintro ⟨es, hes, hmany, -⟩
      obtain rfl := Option.some.inj hes
      exact absurd hmany (by decide)
    obtain ⟨r, hr, hnames⟩ := (check_reports _).2 hfits
    refine ⟨r, hr, (hnames _).mpr (.inl ?_), (hnames _).mpr (.inl ?_)⟩
    · refine .inr (.inr (.inr (.inl ⟨_, List.mem_cons_of_mem _ List.mem_cons_self, ?_⟩)))
      exact ⟨_, rfl, 0, _, _, rfl, ⟨_, List.mem_cons_self, .inl (by decide), rfl⟩, rfl⟩
    · refine .inr (.inr (.inr (.inr (.inl ⟨_, List.mem_cons_of_mem _ List.mem_cons_self, ?_⟩))))
      exact ⟨⟨100, rfl, .inl (by decide)⟩, rfl⟩

end Sdwan.Feature.Interface
