/-
The tunnel that begins at an interface, and the services that are let
through it.
-/
import Sdwan.Feature.Definition
import Sdwan.Feature.Interface.Entry

namespace Sdwan.Feature.Interface

open Json Validation

/-- The tunnel that begins at an interface. -/
structure Tunnel where
  enableCoreRegion : Option TextBool := none
  coreRegion : Option CoreRegion := none
  secondaryRegion : Option SecondaryRegion := none
  encapsulations : Option (List Encapsulation) := none
  border : Option TextBool := none
  perTunnelQos : Option TextBool := none
  perTunnelQosAggregator : Option TextBool := none
  mode : Option TunnelMode := none
  bandwidth : Option UInt8 := none
  groups : Option (List UInt32) := none
  color : Option Color := none
  maxControlConnections : Option UInt8 := none
  controlConnections : Option TextBool := none
  orchestratorAsStun : Option TextBool := none
  excludedGroups : Option (List UInt32) := none
  managerPreference : Option UInt8 := none
  portHop : Option TextBool := none
  restrict : Option TextBool := none
  extensionTarget : Option Net.Ipv4 := none
  carrier : Option Carrier := none
  natRefreshInterval : Option UInt8 := none
  helloInterval : Option UInt32 := none
  helloTolerance : Option UInt32 := none
  boundTo : Option String := none
  lastResortCircuit : Option TextBool := none
  lowBandwidthLink : Option TextBool := none
  tcpMss : Option UInt16 := none
  clearDontFragment : Option TextBool := none
  propagateTags : Option TextBool := none
  networkBroadcast : Option TextBool := none
deriving DecidableEq, Repr

namespace Tunnel

/-- The members. -/
def members : Members Tunnel Tunnel :=
  Tunnel.mk <$> .nullable "enable-core-region" Tunnel.enableCoreRegion
    <*> .nullable "core-region" Tunnel.coreRegion
    <*> .nullable "secondary-region" Tunnel.secondaryRegion
    <*> .nullable "tloc-encapsulation" Tunnel.encapsulations
    <*> .nullable "border" Tunnel.border
    <*> .nullable "per-tunnel-qos" Tunnel.perTunnelQos
    <*> .nullable "per-tunnel-qos-aggregator" Tunnel.perTunnelQosAggregator
    <*> .nullable "mode" Tunnel.mode
    <*> .nullable "tunnels-bandwidth" Tunnel.bandwidth
    <*> .nullable "group" Tunnel.groups
    <*> .nullable "value" Tunnel.color
    <*> .nullable "max-control-connections" Tunnel.maxControlConnections
    <*> .nullable "control-connections" Tunnel.controlConnections
    <*> .nullable "vbond-as-stun-server" Tunnel.orchestratorAsStun
    <*> .nullable "exclude-controller-group-list" Tunnel.excludedGroups
    <*> .nullable "vmanage-connection-preference" Tunnel.managerPreference
    <*> .nullable "port-hop" Tunnel.portHop
    <*> .nullable "restrict" Tunnel.restrict
    <*> .nullable "dst-ip" Tunnel.extensionTarget
    <*> .nullable "carrier" Tunnel.carrier
    <*> .nullable "nat-refresh-interval" Tunnel.natRefreshInterval
    <*> .nullable "hello-interval" Tunnel.helloInterval
    <*> .nullable "hello-tolerance" Tunnel.helloTolerance
    <*> .nullable "bind" Tunnel.boundTo
    <*> .nullable "last-resort-circuit" Tunnel.lastResortCircuit
    <*> .nullable "low-bandwidth-link" Tunnel.lowBandwidthLink
    <*> .nullable "tunnel-tcp-mss-adjust" Tunnel.tcpMss
    <*> .nullable "clear-dont-fragment" Tunnel.clearDontFragment
    <*> .nullable "propagate-sgt" Tunnel.propagateTags
    <*> .nullable "network-broadcast" Tunnel.networkBroadcast

/-- The checks. Too many wrappings of which one is wrong in itself are a
clash. -/
def check (t : Tunnel) : Except Clash Report := do
  let wrappings ← ownAndInside "tloc_encapsulation"
    (onItemsIf "tloc_encapsulation" (some 1) (some 2) t.encapsulations)
    (insideEach "tloc_encapsulation" Checked.check (t.encapsulations.getD []))
  .ok (wrappings
    ++ onRangeIf "tunnels_bandwidth" (some 1) (some 100) (t.bandwidth.map UInt8.toNat)
    ++ onRangeIf "max_control_connections" none (some 100) (t.maxControlConnections.map UInt8.toNat)
    ++ onRangeIf "vmanage_connection_preference" none (some 8) (t.managerPreference.map UInt8.toNat)
    ++ onRangeIf "nat_refresh_interval" (some 1) (some 60) (t.natRefreshInterval.map UInt8.toNat)
    ++ onRangeIf "hello_interval" (some 100) (some 600000) (t.helloInterval.map UInt32.toNat)
    ++ onRangeIf "hello_tolerance" (some 12) (some 6000) (t.helloTolerance.map UInt32.toNat)
    ++ onRangeIf "tunnel_tcp_mss_adjust" (some 500) (some 1460) (t.tcpMss.map UInt16.toNat))

/-- Where the members stand in a definition. -/
def places : List Placement :=
  [⟨"tloc-encapsulation", ["tunnel-interface"], some "encapsulation"⟩]
    ++ Placement.under ["tunnel-interface", "multi-region-fabric"] ["enable-core-region",
      "core-region", "secondary-region"]
    ++ Placement.under ["tunnel-interface"] ["border", "per-tunnel-qos",
      "per-tunnel-qos-aggregator", "mode", "tunnels-bandwidth", "group",
      "max-control-connections", "control-connections", "vbond-as-stun-server",
      "exclude-controller-group-list", "vmanage-connection-preference", "port-hop",
      "carrier", "nat-refresh-interval", "hello-interval", "hello-tolerance", "bind",
      "last-resort-circuit", "low-bandwidth-link", "tunnel-tcp-mss-adjust",
      "clear-dont-fragment", "propagate-sgt", "network-broadcast"]
    ++ Placement.under ["tunnel-interface", "color"] ["value", "restrict"]
    ++ Placement.under ["tunnel-interface", "tloc-extension-gre-to"] ["dst-ip"]

end Tunnel

/-- A service that may be let through a tunnel. -/
inductive Service where
  | all | bgp | dhcp | dns | icmp | ssh | netconf | ntp | ospf | stun | snmp | https
deriving DecidableEq, Repr

/-- The services with their names. -/
def Service.named : List (String × Service) :=
  [("all", .all), ("bgp", .bgp), ("dhcp", .dhcp), ("dns", .dns), ("icmp", .icmp), ("sshd", .ssh),
    ("netconf", .netconf), ("ntp", .ntp), ("ospf", .ospf), ("stun", .stun), ("snmp", .snmp),
    ("https", .https)]

/-- The services that are let through a tunnel. -/
structure Services where
  all : Option TextBool := none
  bgp : Option TextBool := none
  dhcp : Option TextBool := none
  dns : Option TextBool := none
  icmp : Option TextBool := none
  ssh : Option TextBool := none
  netconf : Option TextBool := none
  ntp : Option TextBool := none
  ospf : Option TextBool := none
  stun : Option TextBool := none
  snmp : Option TextBool := none
  https : Option TextBool := none
deriving DecidableEq, Repr

namespace Services

/-- The members. -/
def members : Members Services Services :=
  Services.mk <$> .nullable "all" Services.all
    <*> .nullable "bgp" Services.bgp
    <*> .nullable "dhcp" Services.dhcp
    <*> .nullable "dns" Services.dns
    <*> .nullable "icmp" Services.icmp
    <*> .nullable "sshd" Services.ssh
    <*> .nullable "netconf" Services.netconf
    <*> .nullable "ntp" Services.ntp
    <*> .nullable "ospf" Services.ospf
    <*> .nullable "stun" Services.stun
    <*> .nullable "snmp" Services.snmp
    <*> .nullable "https" Services.https

/-- Where the members stand in a definition. -/
def places : List Placement :=
  Placement.under ["tunnel-interface", "allow-service"] ["all", "bgp", "dhcp", "dns", "icmp",
      "sshd", "netconf", "ntp", "ospf", "stun", "snmp", "https"]

/-- Lets a service through. -/
def allow (s : Services) : Service → Services
  | .all => { s with all := some ⟨true⟩ }
  | .bgp => { s with bgp := some ⟨true⟩ }
  | .dhcp => { s with dhcp := some ⟨true⟩ }
  | .dns => { s with dns := some ⟨true⟩ }
  | .icmp => { s with icmp := some ⟨true⟩ }
  | .ssh => { s with ssh := some ⟨true⟩ }
  | .netconf => { s with netconf := some ⟨true⟩ }
  | .ntp => { s with ntp := some ⟨true⟩ }
  | .ospf => { s with ospf := some ⟨true⟩ }
  | .stun => { s with stun := some ⟨true⟩ }
  | .snmp => { s with snmp := some ⟨true⟩ }
  | .https => { s with https := some ⟨true⟩ }

end Services

end Sdwan.Feature.Interface
