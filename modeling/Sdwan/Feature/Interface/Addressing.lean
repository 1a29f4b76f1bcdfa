/-
The addresses of an interface and how they are shared with the networks
behind it.
-/
import Sdwan.Feature.Definition
import Sdwan.Feature.Interface.Entry

namespace Sdwan.Feature.Interface

open Json Validation

/-- The addresses of an interface, and who hands them out. -/
structure Addressing where
  ipv4Address : Option Net.Ipv4Net := none
  secondaryIpv4 : Option (List SecondaryIpv4) := none
  dhcpIpv4Client : Option TextBool := none
  dhcpDistance : Option UInt8 := none
  ipv6Address : Option Net.Ipv6Net := none
  dhcpIpv6Client : Option TextBool := none
  secondaryIpv6 : Option (List SecondaryIpv6) := none
  accessLists : Option (List AccessList) := none
  dhcpHelpers : Option (List Net.Ipv4) := none
  dhcpHelpersV6 : Option (List DhcpHelperV6) := none
  trackers : Option (List String) := none
  detectBandwidth : Option TextBool := none
  iperfServer : Option Net.Ipv4 := none
deriving DecidableEq, Repr

namespace Addressing

/-- The members. -/
def members : Members Addressing Addressing :=
  Addressing.mk <$> .nullable "ipv4-address" Addressing.ipv4Address
    <*> .nullable "secondary-ipv4-address" Addressing.secondaryIpv4
    <*> .nullable "dhcp-ipv4-client" Addressing.dhcpIpv4Client
    <*> .nullable "dhcp-distance" Addressing.dhcpDistance
    <*> .nullable "ipv6-address" Addressing.ipv6Address
    <*> .nullable "dhcp-ipv6-client" Addressing.dhcpIpv6Client
    <*> .nullable "secondary-ipv6-address" Addressing.secondaryIpv6
    <*> .nullable "access-list-ipv4" Addressing.accessLists
    <*> .nullable "dhcp-helper" Addressing.dhcpHelpers
    <*> .nullable "dhcp-helper-v6" Addressing.dhcpHelpersV6
    <*> .nullable "tracker" Addressing.trackers
    <*> .nullable "auto-bandwidth-detect" Addressing.detectBandwidth
    <*> .nullable "iperf-server" Addressing.iperfServer

instance : Checked Addressing :=
  ⟨fun a =>
    onItemsIf "secondary_ipv4_address" none (some 4) a.secondaryIpv4
      ++ onRangeIf "dhcp_distance" (some 1) (some 255) (a.dhcpDistance.map UInt8.toNat)
      ++ onItemsIf "secondary_ipv6_address" none (some 2) a.secondaryIpv6
      ++ insideEach "access_list_ipv4" check (a.accessLists.getD [])
      ++ onItemsIf "dhcp_helper" none (some 8) a.dhcpHelpers
      ++ insideEach "dhcp_helper_v6" check (a.dhcpHelpersV6.getD [])⟩

/-- Where the members stand in a definition. -/
def places : List Placement :=
  [⟨"ipv4-address", ["ip"], some "address"⟩,
    ⟨"secondary-ipv4-address", ["ip"], some "secondary-address"⟩,
    ⟨"dhcp-ipv4-client", ["ip"], some "dhcp-client"⟩,
    ⟨"ipv6-address", ["ipv6"], some "address"⟩,
    ⟨"dhcp-ipv6-client", ["ipv6"], some "dhcp-client"⟩,
    ⟨"secondary-ipv6-address", ["ipv6"], some "secondary-address"⟩,
    ⟨"access-list-ipv4", [], some "access-list"⟩]
    ++ Placement.under ["ip"] ["dhcp-distance"]
    ++ Placement.under ["ipv6"] ["dhcp-helper-v6"]

end Addressing

/-- How addresses are shared. -/
structure NatSettings where
  enabled : Option Bool := none
  choice : Option NatChoice := none
  udpTimeout : Option UInt32 := none
  tcpTimeout : Option UInt32 := none
  poolStart : Option Net.Ipv4 := none
  poolEnd : Option Net.Ipv4 := none
  overload : Option TextBool := none
  loopback : Option String := none
  poolPrefixLength : Option UInt8 := none
  active : Option TextBool := none
  nat64 : Option TextBool := none
  nat66 : Option TextBool := none
  static66 : Option (List StaticNat66) := none
  static4 : Option (List StaticNat) := none
  portForwards : Option (List StaticPortForward) := none
deriving DecidableEq, Repr

namespace NatSettings

/-- The members. -/
def members : Members NatSettings NatSettings :=
  NatSettings.mk <$> .nullable "nat" NatSettings.enabled
    <*> .nullable "nat-choice" NatSettings.choice
    <*> .nullable "udp-timeout" NatSettings.udpTimeout
    <*> .nullable "tcp-timeout" NatSettings.tcpTimeout
    <*> .nullable "nat-range-start" NatSettings.poolStart
    <*> .nullable "nat-range-end" NatSettings.poolEnd
    <*> .nullable "overload" NatSettings.overload
    <*> .nullable "loopback-interface" NatSettings.loopback
    <*> .nullable "prefix-length" NatSettings.poolPrefixLength
    <*> .nullable "enable" NatSettings.active
    <*> .nullable "nat64" NatSettings.nat64
    <*> .nullable "nat66" NatSettings.nat66
    <*> .nullable "static-nat66" NatSettings.static66
    <*> .nullable "static" NatSettings.static4
    <*> .nullable "static-port-forward" NatSettings.portForwards

instance : Checked NatSettings :=
  ⟨fun n =>
    onRangeIf "udp_timeout" (some 1) (some 8947) (n.udpTimeout.map UInt32.toNat)
      ++ onRangeIf "tcp_timeout" (some 1) (some 8947) (n.tcpTimeout.map UInt32.toNat)
      ++ onRangeIf "prefix_length" (some 1) (some 32) (n.poolPrefixLength.map UInt8.toNat)
      ++ insideEach "static_nat66" check (n.static66.getD [])
      ++ insideEach "static_nat" check (n.static4.getD [])
      ++ insideEach "static_port_forward" check (n.portForwards.getD [])⟩

/-- Where the members stand in a definition. -/
def places : List Placement :=
  [⟨"nat-range-start", ["nat", "natpool"], some "range-start"⟩,
    ⟨"nat-range-end", ["nat", "natpool"], some "range-end"⟩]
    ++ Placement.under ["nat"] ["nat-choice", "udp-timeout", "tcp-timeout", "loopback-interface",
      "static", "static-port-forward"]
    ++ Placement.under ["nat", "natpool"] ["overload", "prefix-length"]
    ++ Placement.under ["nat66"] ["static-nat66"]

end NatSettings

end Sdwan.Feature.Interface
