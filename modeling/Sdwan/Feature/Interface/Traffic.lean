/-
What an interface does with traffic: the port, the rates, the neighbours
and the tags.
-/
import Sdwan.Feature.Definition
import Sdwan.Feature.Interface.Entry

namespace Sdwan.Feature.Interface

open Json Validation

/-- The port, and the frames on it. -/
structure Link where
  mediaType : Option MediaType := none
  interfaceMtu : Option UInt16 := none
  mtu : Option UInt16 := none
  tcpMss : Option UInt16 := none
  extension : Option String := none
  loadInterval : Option UInt16 := none
  extensionSource : Option Net.Ipv4 := none
  extensionSourceInterface : Option String := none
  macAddress : Option String := none
  speed : Option Speed := none
  duplex : Option Duplex := none
  shutdown : Option TextBool := none
  arpTimeout : Option UInt32 := none
  autonegotiate : Option TextBool := none
  ipDirectedBroadcast : Option TextBool := none
  icmpRedirectDisable : Option TextBool := none
deriving DecidableEq, Repr

namespace Link

/-- The members. -/
def members : Members Link Link :=
  Link.mk <$> .nullable "media-type" Link.mediaType
    <*> .nullable "intrf-mtu" Link.interfaceMtu
    <*> .nullable "mtu" Link.mtu
    <*> .nullable "tcp-mss-adjust" Link.tcpMss
    <*> .nullable "tloc-extension" Link.extension
    <*> .nullable "load-interval" Link.loadInterval
    <*> .nullable "src-ip" Link.extensionSource
    <*> .nullable "xconnect" Link.extensionSourceInterface
    <*> .nullable "mac-address" Link.macAddress
    <*> .nullable "speed" Link.speed
    <*> .nullable "duplex" Link.duplex
    <*> .nullable "shutdown" Link.shutdown
    <*> .nullable "arp-timeout" Link.arpTimeout
    <*> .nullable "autonegotiate" Link.autonegotiate
    <*> .nullable "ip-directed-broadcast" Link.ipDirectedBroadcast
    <*> .nullable "icmp-redirect-disable" Link.icmpRedirectDisable

instance : Checked Link :=
  ⟨fun l =>
    onRangeIf "intrf_mtu" (some 1500) (some 9216) (l.interfaceMtu.map UInt16.toNat)
      ++ onRangeIf "mtu" (some 576) (some 9216) (l.mtu.map UInt16.toNat)
      ++ onRangeIf "tcp_mss_adjust" (some 500) (some 1460) (l.tcpMss.map UInt16.toNat)
      ++ onRangeIf "load_interval" (some 30) (some 600) (l.loadInterval.map UInt16.toNat)
      ++ onTextIf "mac_address" l.macAddress checkMac
      ++ onRangeIf "arp_timeout" none (some 2147483) (l.arpTimeout.map UInt32.toNat)⟩

/-- Where the members stand in a definition. -/
def places : List Placement :=
  Placement.under ["tloc-extension-gre-from"] ["src-ip", "xconnect"]

end Link

/-- The rates of traffic, in kilobits a second. -/
structure Shaping where
  adaptive : Option TextBool := none
  period : Option UInt16 := none
  downDefault : Option UInt32 := none
  downMin : Option UInt32 := none
  downMax : Option UInt32 := none
  upDefault : Option UInt32 := none
  upMin : Option UInt32 := none
  upMax : Option UInt32 := none
  shapingRate : Option UInt32 := none
  qosMap : Option String := none
  qosMapVpn : Option String := none
  serviceProvider : Option String := none
  offeredUp : Option UInt32 := none
  offeredDown : Option UInt32 := none
deriving DecidableEq, Repr

namespace Shaping

/-- The members. -/
def members : Members Shaping Shaping :=
  Shaping.mk <$> .nullable "qos-adaptive" Shaping.adaptive
    <*> .nullable "period" Shaping.period
    <*> .nullable "bandwidth-down" Shaping.downDefault
    <*> .nullable "dmin" Shaping.downMin
    <*> .nullable "dmax" Shaping.downMax
    <*> .nullable "bandwidth-up" Shaping.upDefault
    <*> .nullable "umin" Shaping.upMin
    <*> .nullable "umax" Shaping.upMax
    <*> .nullable "shaping-rate" Shaping.shapingRate
    <*> .nullable "qos-map" Shaping.qosMap
    <*> .nullable "qos-map-vpn" Shaping.qosMapVpn
    <*> .nullable "service-provider" Shaping.serviceProvider
    <*> .nullable "bandwidth-upstream" Shaping.offeredUp
    <*> .nullable "bandwidth-downstream" Shaping.offeredDown

instance : Checked Shaping :=
  ⟨fun s =>
    onRangeIf "period" (some 1) (some 720) (s.period.map UInt16.toNat)⟩

/-- Where the members stand in a definition. -/
def places : List Placement :=
  Placement.under ["qos-adaptive"] ["period"]
    ++ Placement.under ["qos-adaptive", "downstream"] ["bandwidth-down"]
    ++ Placement.under ["qos-adaptive", "downstream", "range"] ["dmin", "dmax"]
    ++ Placement.under ["qos-adaptive", "upstream"] ["bandwidth-up"]
    ++ Placement.under ["qos-adaptive", "upstream", "range"] ["umin", "umax"]

end Shaping

/-- What an interface knows of the network around it. -/
structure Neighbourhood where
  blockForeignSources : Option TextBool := none
  markingRule : Option String := none
  accessListsV6 : Option (List AccessList) := none
  neighbours : Option (List ArpEntry) := none
  groups4 : Option (List Vrrp) := none
  groups6 : Option (List Ipv6Vrrp) := none
deriving DecidableEq, Repr

namespace Neighbourhood

/-- The members. -/
def members : Members Neighbourhood Neighbourhood :=
  Neighbourhood.mk <$> .nullable "block-non-source-ip" Neighbourhood.blockForeignSources
    <*> .nullable "rule-name" Neighbourhood.markingRule
    <*> .nullable "access-list-ipv6" Neighbourhood.accessListsV6
    <*> .nullable "ip" Neighbourhood.neighbours
    <*> .nullable "vrrp" Neighbourhood.groups4
    <*> .nullable "ipv6-vrrp" Neighbourhood.groups6

instance : Checked Neighbourhood :=
  ⟨fun n =>
    insideEach "access_list_ipv6" check (n.accessListsV6.getD [])
      ++ insideEach "ip" check (n.neighbours.getD [])
      ++ insideEach "vrrp" check (n.groups4.getD [])
      ++ insideEach "ipv6_vrrp" check (n.groups6.getD [])⟩

/-- Where the members stand in a definition. -/
def places : List Placement :=
  [⟨"access-list-ipv6", ["ipv6"], some "access-list"⟩]
    ++ Placement.under ["arp"] ["ip"]

end Neighbourhood

/-- The tags that traffic is trusted by. -/
structure TrustSec where
  propagate : Option TextBool := none
  tag : Option UInt32 := none
  trusted : Option TextBool := none
  authorize : Option TextBool := none
  enforce : Option TextBool := none
  enforcedTag : Option UInt32 := none
deriving DecidableEq, Repr

namespace TrustSec

/-- The members. -/
def members : Members TrustSec TrustSec :=
  TrustSec.mk <$> .nullable "enable-sgt-propagation" TrustSec.propagate
    <*> .nullable "sgt" TrustSec.tag
    <*> .nullable "trusted" TrustSec.trusted
    <*> .nullable "enable-sgt-authorization-and-forwarding" TrustSec.authorize
    <*> .nullable "enable-sgt-enforcement" TrustSec.enforce
    <*> .nullable "enforcement-sgt" TrustSec.enforcedTag

instance : Checked TrustSec :=
  ⟨fun t =>
    onRangeIf "sgt" (some 2) (some 65519) (t.tag.map UInt32.toNat)
      ++ onRangeIf "enforcement_sgt" (some 2) (some 65519) (t.enforcedTag.map UInt32.toNat)⟩

/-- Where the members stand in a definition. -/
def places : List Placement :=
  [⟨"enable-sgt-propagation", ["trustsec", "propagate"], some "sgt"⟩,
    ⟨"enable-sgt-authorization-and-forwarding", ["trustsec"], some "enable"⟩,
    ⟨"enable-sgt-enforcement", ["trustsec", "enforcement"], some "enable"⟩,
    ⟨"enforcement-sgt", ["trustsec", "enforcement"], some "sgt"⟩]
    ++ Placement.under ["trustsec", "static"] ["sgt", "trusted"]

end TrustSec

end Sdwan.Feature.Interface
