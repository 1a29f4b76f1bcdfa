/-
The records that interface templates hold lists of.
-/
import Sdwan.Api.Wire
import Sdwan.Feature.Interface.Choice
import Sdwan.Net.Coded
import Sdwan.Text.Utf8
import Sdwan.Validation.Check

namespace Sdwan.Feature.Interface

open Json Validation

-- ============================================== shared checks

/-- The largest number of a VPN. -/
def maxVpn : Nat := 65530

/-- Whether a text is so many groups of hexadecimal digits, each of so many
bytes. -/
def isHexGroups (sep : Char) (groups size : Nat) (cs : List Char) : Bool :=
  let gs := Text.pieces (· == sep) cs
  gs.length == groups && gs.all fun g => (Text.utf8 g).length == size && g.all Text.isHexDigit

/-- A hardware address: six groups with colons, or three with points. -/
def isMac (s : String) : Bool :=
  isHexGroups ':' 6 2 s.toList || isHexGroups '.' 3 4 s.toList

/-- A text that has to be a hardware address. -/
def checkMac (s : String) : Option Issue :=
  if isMac s then none else some (.worded "mac_address" (s ++ " is not a MAC address"))

-- ============================================== addresses

/-- A further IPv4 address of an interface. -/
structure SecondaryIpv4 where
  address : Net.Ipv4Net
deriving DecidableEq, Repr

instance : Coded SecondaryIpv4 :=
  (SecondaryIpv4.mk <$> .required "address" SecondaryIpv4.address : Members _ _).coded
    "SecondaryIpv4Address"

/-- A further IPv6 address of an interface. -/
structure SecondaryIpv6 where
  address : Net.Ipv6Net
deriving DecidableEq, Repr

instance : Coded SecondaryIpv6 :=
  (SecondaryIpv6.mk <$> .required "address" SecondaryIpv6.address : Members _ _).coded
    "SecondaryIpv6Address"

/-- A server that requests for IPv6 addresses are passed on to. -/
structure DhcpHelperV6 where
  address : Net.Ipv6
  vpn : Option UInt16
deriving DecidableEq, Repr

instance : Coded DhcpHelperV6 :=
  (DhcpHelperV6.mk <$> .required "address" DhcpHelperV6.address
    <*> .optional "vpn" DhcpHelperV6.vpn : Members _ _).coded "DhcpHelperV6"

instance : Checked DhcpHelperV6 :=
  ⟨fun h => onRangeIf "vpn" none (some maxVpn) (h.vpn.map UInt16.toNat)⟩

/-- The hardware address of a neighbour. -/
structure ArpEntry where
  address : Net.Ipv4
  mac : String
deriving DecidableEq, Repr

instance : Coded ArpEntry :=
  (ArpEntry.mk <$> .required "addr" ArpEntry.address
    <*> .required "mac" ArpEntry.mac : Members _ _).coded "ArpEntry"

instance : Checked ArpEntry := ⟨fun e => onText "mac" e.mac checkMac⟩

-- ============================================== access

/-- A filter on an interface. -/
structure AccessList where
  direction : Direction
  name : String
deriving DecidableEq, Repr

instance : Coded AccessList :=
  (AccessList.mk <$> .required "direction" AccessList.direction
    <*> .required "acl-name" AccessList.name : Members _ _).coded "AccessList"

instance : Checked AccessList := ⟨fun a => onLength "acl_name" (some 1) (some 127) a.name⟩

-- ============================================== NAT rules

/-- A fixed rule for the prefixes of IPv6 addresses. -/
structure StaticNat66 where
  source : Net.Ipv6Net
  mapped : String
  sourceVpn : UInt16
deriving DecidableEq, Repr

instance : Coded StaticNat66 :=
  (StaticNat66.mk <$> .required "source-prefix" StaticNat66.source
    <*> .required "translated-source-prefix" StaticNat66.mapped
    <*> .defaulted "source-vpn-id" 0 StaticNat66.sourceVpn : Members _ _).coded "StaticNat66"

instance : Checked StaticNat66 :=
  ⟨fun n => onRange "source_vpn_id" none (some maxVpn) n.sourceVpn.toNat⟩

/-- A fixed rule for one address. -/
structure StaticNat where
  source : Net.Ipv4
  mapped : Net.Ipv4
  direction : NatDirection := .inside
  sourceVpn : UInt16 := 0
deriving DecidableEq, Repr

instance : Coded StaticNat :=
  (StaticNat.mk <$> .required "source-ip" StaticNat.source
    <*> .required "translate-ip" StaticNat.mapped
    <*> .defaulted "static-nat-direction" .inside StaticNat.direction
    <*> .defaulted "source-vpn" 0 StaticNat.sourceVpn : Members _ _).coded "StaticNat"

instance : Checked StaticNat :=
  ⟨fun n => onRange "source_vpn" none (some maxVpn) n.sourceVpn.toNat⟩

/-- A fixed rule for one port of an address. -/
structure StaticPortForward where
  source : Net.Ipv4
  mapped : Net.Ipv4
  direction : NatDirection
  sourcePort : UInt16
  mappedPort : UInt16
  transport : Transport
  sourceVpn : UInt16
deriving DecidableEq, Repr

instance : Coded StaticPortForward :=
  (StaticPortForward.mk <$> .required "source-ip" StaticPortForward.source
    <*> .required "translate-ip" StaticPortForward.mapped
    <*> .defaulted "static-nat-direction" .inside StaticPortForward.direction
    <*> .defaulted "source-port" 0 StaticPortForward.sourcePort
    <*> .defaulted "translate-port" 0 StaticPortForward.mappedPort
    <*> .required "proto" StaticPortForward.transport
    <*> .defaulted "source-vpn" 0 StaticPortForward.sourceVpn : Members _ _).coded
    "StaticPortForward"

instance : Checked StaticPortForward :=
  ⟨fun n => onRange "source_vpn" none (some maxVpn) n.sourceVpn.toNat⟩

-- ============================================== tunnels

/-- A wrapping of a tunnel, and how much it is preferred. -/
structure Encapsulation where
  encap : Encap
  preference : Option UInt32 := none
  weight : UInt8 := 1
deriving DecidableEq, Repr

instance : Coded Encapsulation :=
  (Encapsulation.mk <$> .required "encap" Encapsulation.encap
    <*> .optional "preference" Encapsulation.preference
    <*> .defaulted "weight" 1 Encapsulation.weight : Members _ _).coded "Encapsulation"

instance : Checked Encapsulation :=
  ⟨fun e => onRange "weight" (some 1) (some 255) e.weight.toNat⟩

-- ============================================== redundancy

/-- A further address of a group. -/
structure GroupAddress where
  address : Net.Ipv4
deriving DecidableEq, Repr

instance : Coded GroupAddress :=
  (GroupAddress.mk <$> .required "address" GroupAddress.address : Members _ _).coded
    "Ipv4Secondary"

/-- An object that a group tracks. -/
structure TrackingObject where
  name : UInt32
  action : TrackAction
  decrement : UInt8
deriving DecidableEq, Repr

instance : Coded TrackingObject :=
  (TrackingObject.mk <$> .required "name" TrackingObject.name
    <*> .defaulted "track-action" .decrement TrackingObject.action
    <*> .required "decrement" TrackingObject.decrement : Members _ _).coded "TrackingObject"

instance : Checked TrackingObject :=
  ⟨fun t =>
    onRange "name" (some 1) (some 1000) t.name.toNat
      ++ onRange "decrement" (some 1) (some 255) t.decrement.toNat⟩

/-- What every group has to observe. -/
def checkGroup (id priority : UInt8) (timer : UInt32) : Report :=
  onRange "grp_id" (some 1) (some 255) id.toNat
    ++ onRange "priority" (some 1) (some 254) priority.toNat
    ++ onRange "timer" (some 100) (some 40950) timer.toNat

/-- A group of routers that share an IPv4 address. -/
structure Vrrp where
  groupId : UInt8
  priority : UInt8 := 100
  /-- In milliseconds. -/
  timer : UInt32 := 1000
  trackOmp : TextBool := {}
  trackPrefixList : Option String := none
  address : Option Net.Ipv4 := none
  secondary : Option (List GroupAddress) := none
  changePreference : TextBool := {}
  value : UInt32
  tracked : Option (List TrackingObject) := none
deriving DecidableEq, Repr

instance : Coded Vrrp :=
  (Vrrp.mk <$> .required "grp-id" Vrrp.groupId
    <*> .defaulted "priority" 100 Vrrp.priority
    <*> .defaulted "timer" 1000 Vrrp.timer
    <*> .defaulted "track-omp" {} Vrrp.trackOmp
    <*> .optional "track-prefix-list" Vrrp.trackPrefixList
    <*> .optional "address" Vrrp.address
    <*> .optional "ipv4-secondary" Vrrp.secondary
    <*> .defaulted "tloc-change-pref" {} Vrrp.changePreference
    <*> .required "value" Vrrp.value
    <*> .optional "tracking-object" Vrrp.tracked : Members _ _).coded "Vrrp"

instance : Checked Vrrp :=
  ⟨fun v =>
    checkGroup v.groupId v.priority v.timer
      ++ onRange "value" (some 1) none v.value.toNat
      ++ insideEach "tracking_object" check (v.tracked.getD [])⟩

/-- The addresses that a group of IPv6 routers shares. -/
structure Ipv6VrrpAddress where
  linkLocal : Net.Ipv6
  network : Option Net.Ipv6Net
deriving DecidableEq, Repr

instance : Coded Ipv6VrrpAddress :=
  (Ipv6VrrpAddress.mk <$> .required "ipv6-link-local" Ipv6VrrpAddress.linkLocal
    <*> .optional "prefix" Ipv6VrrpAddress.network : Members _ _).coded "Ipv6VrrpAddress"

/-- A group of routers that share IPv6 addresses. -/
structure Ipv6Vrrp where
  groupId : UInt8
  priority : UInt8 := 100
  /-- In milliseconds. -/
  timer : UInt32 := 1000
  trackOmp : TextBool := {}
  trackPrefixList : Option String := none
  addresses : Option (List Ipv6VrrpAddress) := none
deriving DecidableEq, Repr

instance : Coded Ipv6Vrrp :=
  (Ipv6Vrrp.mk <$> .required "grp-id" Ipv6Vrrp.groupId
    <*> .defaulted "priority" 100 Ipv6Vrrp.priority
    <*> .defaulted "timer" 1000 Ipv6Vrrp.timer
    <*> .defaulted "track-omp" {} Ipv6Vrrp.trackOmp
    <*> .optional "track-prefix-list" Ipv6Vrrp.trackPrefixList
    <*> .optional "ipv6" Ipv6Vrrp.addresses : Members _ _).coded "Ipv6Vrrp"

instance : Checked Ipv6Vrrp := ⟨fun v => checkGroup v.groupId v.priority v.timer⟩

end Sdwan.Feature.Interface
