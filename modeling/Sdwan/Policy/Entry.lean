/-
The entries of policy lists. Most numbers are written as text, so an
entry may hold any text, and checking it says whether the text is a
number within its bounds.
-/
import Sdwan.Api.Wire
import Sdwan.Net.Coded
import Sdwan.Platform
import Sdwan.Validation.Check

namespace Sdwan.Policy

open Json Validation

-- ============================================== numbers as text

/-- A jitter or a latency in milliseconds. -/
def checkMillis (label raw : String) : Option Issue := checkIntRange raw 1 1000 label

/-- A loss in percent. -/
def checkLoss (raw : String) : Option Issue := checkIntRange raw 0 100 "loss"

/-- The largest number of a VPN. -/
def maxVpn : Int := 65530

/-- The number of a VPN. -/
def checkVpn (raw : String) : Option Issue := checkIntRange raw 0 maxVpn "VPN"

/-- The number of a VPN, or two in ascending order with a hyphen between
them. -/
def checkVpnRange (raw : String) : Option Issue :=
  match Text.splitAt '-' raw with
  | [one] => checkVpn one
  | [first, last] =>
    firstIssue [checkVpn first, checkVpn last,
      match readInteger? first, readInteger? last with
      | some a, some b =>
        if a < b then none
        else some (.worded "vpn_range" "Second VPN in range should be greater than first")
      | _, _ => some (.worded "not_integer" "VPN must be an integer")]
  | _ =>
    some (.worded "vpn_range" "VPN range should consist two integers separated by hyphen")

/-- A network without host bits. -/
def checkNetwork (text : String) (isNetwork : Bool) : Option Issue :=
  if isNetwork then none else some (.worded "network" (text ++ " has host bits set"))

/-- The most bytes of a pattern for name servers. -/
def maxNameServerBytes : Nat := 240

/-- A pattern for names of domains, which does not begin with a repetition.
Whether it is a pattern at all is asked last. -/
def checkNameServer [Patterns] (raw : String) : Option Issue :=
  if raw.isEmpty || maxNameServerBytes < raw.utf8ByteSize then
    some (.worded "name_server" "nameServer must be 1-240 characters long")
  else if raw.toList.head?.any fun c => c == '*' || c == '+' then
    some (.worded "name_server" "nameServer cannot start with '*' or '+'")
  else
    match Patterns.error? raw with
    | none => none
    | some reason => some (.worded "name_server" ("nameServer is not a valid regex: " ++ reason))

-- ============================================== small types

/-- What happens to traffic above a rate. -/
inductive ExceedAction where
  | drop | remark
deriving DecidableEq, Repr

/-- The name of an action. -/
def ExceedAction.name : ExceedAction → String
  | drop => "drop"
  | remark => "remark"

instance : Coded ExceedAction :=
  codedByName [("drop", .drop), ("remark", .remark)] ExceedAction.name

/-- How a tunnel wraps its packets. -/
inductive Encap where
  | ipsec | gre
deriving DecidableEq, Repr

/-- The name of a wrapping. -/
def Encap.name : Encap → String
  | ipsec => "ipsec"
  | gre => "gre"

instance : Coded Encap := codedByName [("ipsec", .ipsec), ("gre", .gre)] Encap.name

/-- Which paths are preferred. -/
inductive PathPreference where
  | directPath | multiHopPath | allPaths
deriving DecidableEq, Repr

/-- The name of a preference. -/
def PathPreference.name : PathPreference → String
  | directPath => "direct-path"
  | multiHopPath => "multi-hop-path"
  | allPaths => "all-paths"

instance : Coded PathPreference :=
  codedByName [("direct-path", .directPath), ("multi-hop-path", .multiHopPath),
    ("all-paths", .allPaths)] PathPreference.name

-- ============================================== parts of entries

/-- The code point that packets of a colour get. -/
structure ColorDscp where
  color : String
  dscp : UInt8
deriving DecidableEq, Repr

namespace ColorDscp

/-- The members of a mapping. -/
def members : Members ColorDscp ColorDscp :=
  ColorDscp.mk <$> .required "color" ColorDscp.color
    <*> .required "dscp" ColorDscp.dscp

instance : Coded ColorDscp := members.coded "ColorDscpMap"
instance : Checked ColorDscp := ⟨fun m => onRange "dscp" (some 0) (some 63) m.dscp.toNat⟩

end ColorDscp

/-- The colours that are preferred, and on which paths. -/
structure ColorPreference where
  colors : String
  paths : PathPreference
deriving DecidableEq, Repr

namespace ColorPreference

/-- The members of a preference. -/
def members : Members ColorPreference ColorPreference :=
  ColorPreference.mk <$> .required "colorPreference" ColorPreference.colors
    <*> .required "pathPreference" ColorPreference.paths

instance : Coded ColorPreference := members.coded "ColorGroupPreference"

end ColorPreference

/-- Which tunnel is used when none meets its class: the criteria in
order, and how much a tunnel may differ from the best. -/
structure FallbackTunnel where
  criteria : String
  jitterVariance : Option String
  latencyVariance : Option String
  lossVariance : Option String
deriving DecidableEq, Repr

namespace FallbackTunnel

/-- The members of a fallback. -/
def members : Members FallbackTunnel FallbackTunnel :=
  FallbackTunnel.mk <$> .required "criteria" FallbackTunnel.criteria
    <*> .optional "jitterVariance" FallbackTunnel.jitterVariance
    <*> .optional "latencyVariance" FallbackTunnel.latencyVariance
    <*> .optional "lossVariance" FallbackTunnel.lossVariance

instance : Coded FallbackTunnel := members.coded "FallbackBestTunnel"

/-- The names of the variances that are set. -/
def criteriaNames (t : FallbackTunnel) : List String :=
  ([("jitter", t.jitterVariance.isSome), ("latency", t.latencyVariance.isSome),
      ("loss", t.lossVariance.isSome)].filter (·.2)).map (·.1)

/-- The criteria name the variances that are set, and at least one is. -/
def checkCriteria (t : FallbackTunnel) : Option Issue :=
  let expected := t.criteriaNames
  let observed := Text.splitAt '-' t.criteria
  if expected.isEmpty then
    some (.worded "criteria" "At least one variance type needs to be present")
  else if expected.all (observed.contains ·) && observed.all (expected.contains ·) then none
  else
    let names := ", ".intercalate expected
    some (.worded "criteria"
      (if expected.length == 1 then "Criteria must contain: " ++ names
        else "Criteria must contain: " ++ names ++ " separated by hyphen"))

instance : Checked FallbackTunnel where
  check t :=
    thenWhole
      (onTextIf "jitter_variance" t.jitterVariance (checkMillis "jitter")
        ++ onTextIf "latency_variance" t.latencyVariance (checkMillis "latency")
        ++ onTextIf "loss_variance" t.lossVariance checkLoss)
      t.checkCriteria

end FallbackTunnel

-- ============================================== applications

/-- An application or a family of applications. -/
structure AppEntry where
  appFamily : Option String
  app : Option String
deriving DecidableEq, Repr

namespace AppEntry

/-- The members of an entry. -/
def members : Members AppEntry AppEntry :=
  AppEntry.mk <$> .optional "appFamily" AppEntry.appFamily
    <*> .optional "app" AppEntry.app

instance : Coded AppEntry := members.coded "AppListEntry"
instance : Checked AppEntry where
  check e :=
    thenWhole []
      (checkExclusive [("app", e.app.isSome), ("appFamily", e.appFamily.isSome)] true)

end AppEntry

/-- The same, for applications that the router itself recognises. -/
structure LocalAppEntry where
  appFamily : Option String
  app : Option String
deriving DecidableEq, Repr

namespace LocalAppEntry

/-- The members of an entry. -/
def members : Members LocalAppEntry LocalAppEntry :=
  LocalAppEntry.mk <$> .optional "appFamily" LocalAppEntry.appFamily
    <*> .optional "app" LocalAppEntry.app

instance : Coded LocalAppEntry := members.coded "LocalAppListEntry"
instance : Checked LocalAppEntry where
  check e :=
    thenWhole []
      (checkExclusive [("app", e.app.isSome), ("appFamily", e.appFamily.isSome)] true)

end LocalAppEntry

/-- How applications are probed. -/
structure AppProbeClassEntry where
  map : List ColorDscp
  forwardingClass : String
deriving DecidableEq, Repr

namespace AppProbeClassEntry

/-- The members of an entry. -/
def members : Members AppProbeClassEntry AppProbeClassEntry :=
  AppProbeClassEntry.mk <$> .defaulted "map" [] AppProbeClassEntry.map
    <*> .required "forwardingClass" AppProbeClassEntry.forwardingClass

instance : Coded AppProbeClassEntry := members.coded "AppProbeClassListEntry"
instance : Checked AppProbeClassEntry := ⟨fun e => insideEach "map" check e.map⟩

end AppProbeClassEntry

-- ============================================== single texts

/-- A pattern for paths of autonomous systems. -/
structure AsPathEntry where
  asPath : String
deriving DecidableEq, Repr

instance : Coded AsPathEntry :=
  (AsPathEntry.mk <$> .required "asPath" AsPathEntry.asPath : Members _ _).coded "AsPathListEntry"
instance : Checked AsPathEntry := ⟨fun _ => []⟩

/-- A queue. -/
structure ClassMapEntry where
  queue : String
deriving DecidableEq, Repr

instance : Coded ClassMapEntry :=
  (ClassMapEntry.mk <$> .required "queue" ClassMapEntry.queue : Members _ _).coded
    "ClassMapListEntry"
instance : Checked ClassMapEntry := ⟨fun e => onText "queue" e.queue (checkIntRange · 0 7 "queue")⟩

/-- A colour of tunnels. -/
structure ColorEntry where
  color : String
deriving DecidableEq, Repr

instance : Coded ColorEntry :=
  (ColorEntry.mk <$> .required "color" ColorEntry.color : Members _ _).coded "ColorListEntry"
instance : Checked ColorEntry := ⟨fun _ => []⟩

/-- A community of routes. -/
structure CommunityEntry where
  community : String
deriving DecidableEq, Repr

instance : Coded CommunityEntry :=
  (CommunityEntry.mk <$> .required "community" CommunityEntry.community : Members _ _).coded
    "CommunityListEntry"
instance : Checked CommunityEntry := ⟨fun _ => []⟩

/-- A pattern for names of hosts. -/
structure FqdnEntry where
  pattern : String
deriving DecidableEq, Repr

instance : Coded FqdnEntry :=
  (FqdnEntry.mk <$> .required "pattern" FqdnEntry.pattern : Members _ _).coded "FqdnListEntry"
instance : Checked FqdnEntry := ⟨fun _ => []⟩

/-- A pattern for domains. -/
structure LocalDomainEntry where
  nameServer : String
deriving DecidableEq, Repr

instance : Coded LocalDomainEntry :=
  (LocalDomainEntry.mk <$> .required "nameServer" LocalDomainEntry.nameServer : Members _ _).coded
    "LocalDomainListEntry"

instance [Patterns] : Checked LocalDomainEntry :=
  ⟨fun e => onText "name_server" e.nameServer checkNameServer⟩

/-- A port. -/
structure PortEntry where
  port : String
deriving DecidableEq, Repr

instance : Coded PortEntry :=
  (PortEntry.mk <$> .required "port" PortEntry.port : Members _ _).coded "PortListEntry"
instance : Checked PortEntry := ⟨fun e => onText "port" e.port (checkIntRange · 0 65535 "Port")⟩

/-- A protocol. -/
structure ProtocolNameEntry where
  protocolName : String
deriving DecidableEq, Repr

instance : Coded ProtocolNameEntry :=
  (ProtocolNameEntry.mk <$> .required "protocolName" ProtocolNameEntry.protocolName
    : Members _ _).coded "ProtocolNameListEntry"
instance : Checked ProtocolNameEntry := ⟨fun _ => []⟩

/-- A site, or a range of sites. -/
structure SiteEntry where
  siteId : String
deriving DecidableEq, Repr

instance : Coded SiteEntry :=
  (SiteEntry.mk <$> .required "siteId" SiteEntry.siteId : Members _ _).coded "SiteListEntry"
instance : Checked SiteEntry := ⟨fun _ => []⟩

/-- A pattern for URLs. -/
structure UrlEntry where
  pattern : String
deriving DecidableEq, Repr

instance : Coded UrlEntry :=
  (UrlEntry.mk <$> .required "pattern" UrlEntry.pattern : Members _ _).coded "UrlListEntry"
instance : Checked UrlEntry := ⟨fun _ => []⟩

/-- A VPN, or a range of VPNs. -/
structure VpnEntry where
  vpn : String
deriving DecidableEq, Repr

instance : Coded VpnEntry :=
  (VpnEntry.mk <$> .required "vpn" VpnEntry.vpn : Members _ _).coded "VpnListEntry"
instance : Checked VpnEntry := ⟨fun e => onText "vpn" e.vpn checkVpnRange⟩

-- ============================================== networks

/-- A network of data traffic. -/
structure DataPrefixEntry where
  ipPrefix : Net.Ipv4Net
deriving DecidableEq, Repr

/-- A field that holds an IPv4 network. -/
def onIpv4Network (name : String) (n : Net.Ipv4Net) : Report :=
  onText name n.text (checkNetwork · n.isNetwork)

/-- A field that holds an IPv6 network. -/
def onIpv6Network (name : String) (n : Net.Ipv6Net) : Report :=
  onText name n.text (checkNetwork · n.isNetwork)

instance : Coded DataPrefixEntry :=
  (DataPrefixEntry.mk <$> .required "ipPrefix" DataPrefixEntry.ipPrefix : Members _ _).coded
    "DataPrefixListEntry"
instance : Checked DataPrefixEntry := ⟨fun e => onIpv4Network "ip_prefix" e.ipPrefix⟩

/-- A network of data traffic, IPv6. -/
structure DataIpv6PrefixEntry where
  ipv6Prefix : Net.Ipv6Net
deriving DecidableEq, Repr

instance : Coded DataIpv6PrefixEntry :=
  (DataIpv6PrefixEntry.mk <$> .required "ipv6Prefix" DataIpv6PrefixEntry.ipv6Prefix
    : Members _ _).coded "DataIpv6PrefixListEntry"
instance : Checked DataIpv6PrefixEntry := ⟨fun e => onIpv6Network "ipv6_prefix" e.ipv6Prefix⟩

/-- A network and the bounds for the lengths of routes in it. -/
structure PrefixEntry where
  ipPrefix : Net.Ipv4Net
  ge : Option String
  le : Option String
deriving DecidableEq, Repr

namespace PrefixEntry

/-- The members of an entry. -/
def members : Members PrefixEntry PrefixEntry :=
  PrefixEntry.mk <$> .required "ipPrefix" PrefixEntry.ipPrefix
    <*> .optional "ge" PrefixEntry.ge
    <*> .optional "le" PrefixEntry.le

instance : Coded PrefixEntry := members.coded "PrefixListEntry"
instance : Checked PrefixEntry where
  check e :=
    onIpv4Network "ip_prefix" e.ipPrefix
      ++ onTextIf "ge" e.ge (checkIntRange · 0 32 "ge,le")
      ++ onTextIf "le" e.le (checkIntRange · 0 32 "ge,le")

end PrefixEntry

/-- The same for IPv6. -/
structure Ipv6PrefixEntry where
  ipv6Prefix : Net.Ipv6Net
  ge : Option String
  le : Option String
deriving DecidableEq, Repr

namespace Ipv6PrefixEntry

/-- The members of an entry. -/
def members : Members Ipv6PrefixEntry Ipv6PrefixEntry :=
  Ipv6PrefixEntry.mk <$> .required "ipv6Prefix" Ipv6PrefixEntry.ipv6Prefix
    <*> .optional "ge" Ipv6PrefixEntry.ge
    <*> .optional "le" Ipv6PrefixEntry.le

instance : Coded Ipv6PrefixEntry := members.coded "Ipv6PrefixListEntry"
instance : Checked Ipv6PrefixEntry where
  check e :=
    onIpv6Network "ipv6_prefix" e.ipv6Prefix
      ++ onTextIf "ge" e.ge (checkIntRange · 0 128 "ge,le")
      ++ onTextIf "le" e.le (checkIntRange · 0 128 "ge,le")

end Ipv6PrefixEntry

-- ============================================== records

/-- A country or a continent. -/
structure GeoLocationEntry where
  country : Option String
  continent : Option String
deriving DecidableEq, Repr

namespace GeoLocationEntry

/-- The members of an entry. -/
def members : Members GeoLocationEntry GeoLocationEntry :=
  GeoLocationEntry.mk <$> .optional "country" GeoLocationEntry.country
    <*> .optional "continent" GeoLocationEntry.continent

instance : Coded GeoLocationEntry := members.coded "GeoLocationListEntry"
instance : Checked GeoLocationEntry where
  check e :=
    thenWhole []
      (checkExclusive [("country", e.country.isSome), ("continent", e.continent.isSome)] true)

end GeoLocationEntry

/-- A signature of attacks. -/
structure IpsSignatureEntry where
  generatorId : String
  signatureId : String
deriving DecidableEq, Repr

namespace IpsSignatureEntry

/-- The members of an entry. -/
def members : Members IpsSignatureEntry IpsSignatureEntry :=
  IpsSignatureEntry.mk <$> .required "generatorId" IpsSignatureEntry.generatorId
    <*> .required "signatureId" IpsSignatureEntry.signatureId

instance : Coded IpsSignatureEntry := members.coded "IpsSignatureListEntry"
instance : Checked IpsSignatureEntry := ⟨fun _ => []⟩

end IpsSignatureEntry

/-- Where mirrored traffic goes, and where it comes from. -/
structure MirrorEntry where
  remoteDest : Net.Ip
  source : Net.Ip
deriving DecidableEq, Repr

namespace MirrorEntry

/-- The members of an entry. -/
def members : Members MirrorEntry MirrorEntry :=
  MirrorEntry.mk <$> .required "remoteDest" MirrorEntry.remoteDest
    <*> .required "source" MirrorEntry.source

instance : Coded MirrorEntry := members.coded "MirrorListEntry"
instance : Checked MirrorEntry := ⟨fun _ => []⟩

end MirrorEntry

/-- A rate, and what happens above it. -/
structure PolicerEntry where
  burst : String
  exceed : ExceedAction
  rate : String
deriving DecidableEq, Repr

namespace PolicerEntry

/-- The members of an entry. -/
def members : Members PolicerEntry PolicerEntry :=
  PolicerEntry.mk <$> .required "burst" PolicerEntry.burst
    <*> .defaulted "exceed" .drop PolicerEntry.exceed
    <*> .required "rate" PolicerEntry.rate

instance : Coded PolicerEntry := members.coded "PolicerListEntry"
instance : Checked PolicerEntry where
  check e :=
    onText "burst" e.burst (checkIntRange · 15000 10000000 "burst")
      ++ onText "rate" e.rate (checkIntRange · 8 100000000000 "rate")

end PolicerEntry

/-- Colours in order of preference. -/
structure ColorGroupEntry where
  primary : ColorPreference
  secondary : Option ColorPreference
  tertiary : Option ColorPreference
deriving DecidableEq, Repr

namespace ColorGroupEntry

/-- The members of an entry. -/
def members : Members ColorGroupEntry ColorGroupEntry :=
  ColorGroupEntry.mk <$> .required "primaryPreference" ColorGroupEntry.primary
    <*> .optional "secondaryPreference" ColorGroupEntry.secondary
    <*> .optional "tertiaryPreference" ColorGroupEntry.tertiary

instance : Coded ColorGroupEntry := members.coded "PreferredColorGroupListEntry"
instance : Checked ColorGroupEntry where
  check e :=
    thenWhole []
      (if e.secondary.isNone && e.tertiary.isSome then
        some (.worded "preference_order"
          "tertiaryPreference cannot be set without secondaryPreference")
      else none)

end ColorGroupEntry

/-- What a class of service demands of a tunnel. -/
structure SlaClassEntry where
  latency : Option String := none
  loss : Option String := none
  jitter : Option String := none
  appProbeClass : Option String := none
  fallback : Option FallbackTunnel := none
deriving DecidableEq, Repr

namespace SlaClassEntry

/-- The members of an entry. -/
def members : Members SlaClassEntry SlaClassEntry :=
  SlaClassEntry.mk <$> .optional "latency" SlaClassEntry.latency
    <*> .optional "loss" SlaClassEntry.loss
    <*> .optional "jitter" SlaClassEntry.jitter
    <*> .optional "appProbeClass" SlaClassEntry.appProbeClass
    <*> .optional "fallbackBestTunnel" SlaClassEntry.fallback

instance : Coded SlaClassEntry := members.coded "SlaClassListEntry"

/-- At least one demand is made. -/
def checkDemands (e : SlaClassEntry) : Option Issue :=
  if e.latency.isNone && e.loss.isNone && e.jitter.isNone then
    some (.worded "sla_thresholds" "At least one of jitter, loss or latency entries must be set")
  else none

instance : Checked SlaClassEntry where
  check e :=
    thenWhole
      (onTextIf "latency" e.latency (checkMillis "latency")
        ++ onTextIf "loss" e.loss checkLoss
        ++ onTextIf "jitter" e.jitter (checkMillis "jitter")
        ++ (match e.fallback with
          | none => []
          | some t => inside "fallback_best_tunnel" (check t)))
      e.checkDemands

end SlaClassEntry

/-- The end of a tunnel. -/
structure TlocEntry where
  tloc : Net.Ipv4
  color : String
  encap : Encap
  preference : String
deriving DecidableEq, Repr

namespace TlocEntry

/-- The members of an entry. -/
def members : Members TlocEntry TlocEntry :=
  TlocEntry.mk <$> .required "tloc" TlocEntry.tloc
    <*> .required "color" TlocEntry.color
    <*> .required "encap" TlocEntry.encap
    <*> .required "preference" TlocEntry.preference

instance : Coded TlocEntry := members.coded "TlocListEntry"
instance : Checked TlocEntry where
  check e := onText "preference" e.preference (checkIntRange · 0 4294967295 "preference")

end TlocEntry

/-- A member of a zone: a VPN or a family of interfaces. -/
structure ZoneEntry where
  vpn : Option String
  interface : Option InterfaceType
deriving DecidableEq, Repr

namespace ZoneEntry

/-- The members of an entry. -/
def members : Members ZoneEntry ZoneEntry :=
  ZoneEntry.mk <$> .optional "vpn" ZoneEntry.vpn
    <*> .optional "interface" ZoneEntry.interface

instance : Coded ZoneEntry := members.coded "ZoneListEntry"
instance : Checked ZoneEntry where
  check e :=
    thenWhole (onTextIf "vpn" e.vpn checkVpn)
      (checkExclusive [("vpn", e.vpn.isSome), ("interface", e.interface.isSome)] true)

end ZoneEntry

end Sdwan.Policy
