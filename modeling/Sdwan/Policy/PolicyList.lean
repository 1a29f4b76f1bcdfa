/-
Policy lists. A list has a name, a description and entries; its kind says
what the entries are, which tag it is written with, and where on the
controller lists of this kind are.
-/
import Sdwan.Policy.Entry

namespace Sdwan.Policy

open Json Validation

-- ============================================== kinds

/-- The kinds of lists. -/
inductive ListKind where
  | app | appProbe | asPath | classMap | color | community | dataIpv6Prefix | dataPrefix | fqdn
  | geoLocation | ipsSignature | ipv6Prefix | localApp | localDomain | mirror | policer | port
  | colorGroup | ipv4Prefix | protocolName | site | slaClass | tloc | urlAllow | urlBlock | vpn
  | zone
deriving DecidableEq, Repr

namespace ListKind

/-- All kinds. -/
def all : List ListKind :=
  [app, appProbe, asPath, classMap, color, community, dataIpv6Prefix, dataPrefix, fqdn,
    geoLocation, ipsSignature, ipv6Prefix, localApp, localDomain, mirror, policer, port,
    colorGroup, ipv4Prefix, protocolName, site, slaClass, tloc, urlAllow, urlBlock, vpn, zone]

/-- The tag in the JSON form of a list. -/
def tag : ListKind → String
  | app => "app"
  | appProbe => "appProbe"
  | asPath => "asPath"
  | classMap => "class"
  | color => "color"
  | community => "community"
  | dataIpv6Prefix => "dataIpv6Prefix"
  | dataPrefix => "dataPrefix"
  | fqdn => "fqdn"
  | geoLocation => "geoLocation"
  | ipsSignature => "ipsSignature"
  | ipv6Prefix => "ipv6prefix"
  | localApp => "localApp"
  | localDomain => "localDomain"
  | mirror => "mirror"
  | policer => "policer"
  | port => "port"
  | colorGroup => "preferredColorGroup"
  | ipv4Prefix => "prefix"
  | protocolName => "protocolName"
  | site => "site"
  | slaClass => "sla"
  | tloc => "tloc"
  | urlAllow => "urlWhiteList"
  | urlBlock => "urlBlackList"
  | vpn => "vpn"
  | zone => "zone"

/-- The part of a path that lists of a kind are under. -/
def segment : ListKind → String
  | app => "app"
  | appProbe => "appprobe"
  | asPath => "aspath"
  | classMap => "class"
  | color => "color"
  | community => "community"
  | dataIpv6Prefix => "dataipv6prefix"
  | dataPrefix => "dataprefix"
  | fqdn => "fqdn"
  | geoLocation => "geolocation"
  | ipsSignature => "ipssignature"
  | ipv6Prefix => "ipv6prefix"
  | localApp => "localapp"
  | localDomain => "localdomain"
  | mirror => "mirror"
  | policer => "policer"
  | port => "port"
  | colorGroup => "preferredcolorgroup"
  | ipv4Prefix => "prefix"
  | protocolName => "protocolname"
  | site => "site"
  | slaClass => "sla"
  | tloc => "tloc"
  | urlAllow => "urlwhitelist"
  | urlBlock => "urlblacklist"
  | vpn => "vpn"
  | zone => "zone"

/-- The name of the list type in messages. -/
def modelName : ListKind → String
  | app => "AppList"
  | appProbe => "AppProbeClassList"
  | asPath => "AsPathList"
  | classMap => "ClassMapList"
  | color => "ColorList"
  | community => "CommunityList"
  | dataIpv6Prefix => "DataIpv6PrefixList"
  | dataPrefix => "DataPrefixList"
  | fqdn => "FqdnList"
  | geoLocation => "GeoLocationList"
  | ipsSignature => "IpsSignatureList"
  | ipv6Prefix => "Ipv6PrefixList"
  | localApp => "LocalAppList"
  | localDomain => "LocalDomainList"
  | mirror => "MirrorList"
  | policer => "PolicerList"
  | port => "PortList"
  | colorGroup => "PreferredColorGroupList"
  | ipv4Prefix => "PrefixList"
  | protocolName => "ProtocolNameList"
  | site => "SiteList"
  | slaClass => "SlaClassList"
  | tloc => "TlocList"
  | urlAllow => "UrlAllowList"
  | urlBlock => "UrlBlockList"
  | vpn => "VpnList"
  | zone => "ZoneList"

/-- What the lists of a kind hold. -/
@[reducible] def Entry : ListKind → Type
  | app => AppEntry
  | appProbe => AppProbeClassEntry
  | asPath => AsPathEntry
  | classMap => ClassMapEntry
  | color => ColorEntry
  | community => CommunityEntry
  | dataIpv6Prefix => DataIpv6PrefixEntry
  | dataPrefix => DataPrefixEntry
  | fqdn => FqdnEntry
  | geoLocation => GeoLocationEntry
  | ipsSignature => IpsSignatureEntry
  | ipv6Prefix => Ipv6PrefixEntry
  | localApp => LocalAppEntry
  | localDomain => LocalDomainEntry
  | mirror => MirrorEntry
  | policer => PolicerEntry
  | port => PortEntry
  | colorGroup => ColorGroupEntry
  | ipv4Prefix => PrefixEntry
  | protocolName => ProtocolNameEntry
  | site => SiteEntry
  | slaClass => SlaClassEntry
  | tloc => TlocEntry
  | urlAllow => UrlEntry
  | urlBlock => UrlEntry
  | vpn => VpnEntry
  | zone => ZoneEntry

/-- The JSON form of entries. -/
@[reducible] def codedEntry : (k : ListKind) → Coded k.Entry
  | app => inferInstanceAs (Coded AppEntry)
  | appProbe => inferInstanceAs (Coded AppProbeClassEntry)
  | asPath => inferInstanceAs (Coded AsPathEntry)
  | classMap => inferInstanceAs (Coded ClassMapEntry)
  | color => inferInstanceAs (Coded ColorEntry)
  | community => inferInstanceAs (Coded CommunityEntry)
  | dataIpv6Prefix => inferInstanceAs (Coded DataIpv6PrefixEntry)
  | dataPrefix => inferInstanceAs (Coded DataPrefixEntry)
  | fqdn => inferInstanceAs (Coded FqdnEntry)
  | geoLocation => inferInstanceAs (Coded GeoLocationEntry)
  | ipsSignature => inferInstanceAs (Coded IpsSignatureEntry)
  | ipv6Prefix => inferInstanceAs (Coded Ipv6PrefixEntry)
  | localApp => inferInstanceAs (Coded LocalAppEntry)
  | localDomain => inferInstanceAs (Coded LocalDomainEntry)
  | mirror => inferInstanceAs (Coded MirrorEntry)
  | policer => inferInstanceAs (Coded PolicerEntry)
  | port => inferInstanceAs (Coded PortEntry)
  | colorGroup => inferInstanceAs (Coded ColorGroupEntry)
  | ipv4Prefix => inferInstanceAs (Coded PrefixEntry)
  | protocolName => inferInstanceAs (Coded ProtocolNameEntry)
  | site => inferInstanceAs (Coded SiteEntry)
  | slaClass => inferInstanceAs (Coded SlaClassEntry)
  | tloc => inferInstanceAs (Coded TlocEntry)
  | urlAllow => inferInstanceAs (Coded UrlEntry)
  | urlBlock => inferInstanceAs (Coded UrlEntry)
  | vpn => inferInstanceAs (Coded VpnEntry)
  | zone => inferInstanceAs (Coded ZoneEntry)

/-- The checks of entries. -/
@[reducible] def checkedEntry [Patterns] : (k : ListKind) → Checked k.Entry
  | app => inferInstanceAs (Checked AppEntry)
  | appProbe => inferInstanceAs (Checked AppProbeClassEntry)
  | asPath => inferInstanceAs (Checked AsPathEntry)
  | classMap => inferInstanceAs (Checked ClassMapEntry)
  | color => inferInstanceAs (Checked ColorEntry)
  | community => inferInstanceAs (Checked CommunityEntry)
  | dataIpv6Prefix => inferInstanceAs (Checked DataIpv6PrefixEntry)
  | dataPrefix => inferInstanceAs (Checked DataPrefixEntry)
  | fqdn => inferInstanceAs (Checked FqdnEntry)
  | geoLocation => inferInstanceAs (Checked GeoLocationEntry)
  | ipsSignature => inferInstanceAs (Checked IpsSignatureEntry)
  | ipv6Prefix => inferInstanceAs (Checked Ipv6PrefixEntry)
  | localApp => inferInstanceAs (Checked LocalAppEntry)
  | localDomain => inferInstanceAs (Checked LocalDomainEntry)
  | mirror => inferInstanceAs (Checked MirrorEntry)
  | policer => inferInstanceAs (Checked PolicerEntry)
  | port => inferInstanceAs (Checked PortEntry)
  | colorGroup => inferInstanceAs (Checked ColorGroupEntry)
  | ipv4Prefix => inferInstanceAs (Checked PrefixEntry)
  | protocolName => inferInstanceAs (Checked ProtocolNameEntry)
  | site => inferInstanceAs (Checked SiteEntry)
  | slaClass => inferInstanceAs (Checked SlaClassEntry)
  | tloc => inferInstanceAs (Checked TlocEntry)
  | urlAllow => inferInstanceAs (Checked UrlEntry)
  | urlBlock => inferInstanceAs (Checked UrlEntry)
  | vpn => inferInstanceAs (Checked VpnEntry)
  | zone => inferInstanceAs (Checked ZoneEntry)

instance (k : ListKind) : Coded k.Entry := codedEntry k
instance [Patterns] (k : ListKind) : Checked k.Entry := checkedEntry k

/-- The kind of a tag. -/
def ofTag? (s : String) : Option ListKind := all.find? (·.tag == s)

end ListKind

-- ============================================== lists

/-- The description of a list that is given none. -/
def defaultDescription : String := "Desc Not Required"

/-- A list of one kind. -/
structure PolicyList (k : ListKind) where
  name : String
  description : String := defaultDescription
  entries : List k.Entry := []

namespace PolicyList

variable {k : ListKind}

/-- A list without entries. -/
def new (k : ListKind) (name : String) : PolicyList k := { name }

/-- The same list with another description. -/
def withDescription (l : PolicyList k) (description : String) : PolicyList k :=
  { l with description }

/-- Adds an entry. -/
def push (l : PolicyList k) (e : k.Entry) : PolicyList k := { l with entries := l.entries ++ [e] }

/-- Replaces all entries by one. -/
def only (l : PolicyList k) (e : k.Entry) : PolicyList k := { l with entries := [e] }

/-- Changes the first entry, or adds one that `f` makes of `fresh`. -/
def changeFirst (l : PolicyList k) (fresh : k.Entry) (f : k.Entry → k.Entry) : PolicyList k :=
  match l.entries with
  | [] => { l with entries := [f fresh] }
  | e :: es => { l with entries := f e :: es }

-- ============================================== JSON form and checks

/-- The tag of a list, which is the same for all lists of a kind. -/
structure Tag (k : ListKind) where

instance : Coded (Tag k) := codedByName [(k.tag, ⟨⟩)] fun _ => k.tag

/-- The members of a list. -/
def members (k : ListKind) : Members (PolicyList k) (PolicyList k) :=
  (fun name description _ entries => PolicyList.mk name description entries)
    <$> .required "name" PolicyList.name
    <*> .defaulted "description" defaultDescription PolicyList.description
    <*> .defaulted "type" (Tag.mk : Tag k) (fun _ => ⟨⟩)
    <*> .defaulted "entries" [] PolicyList.entries

instance : Coded (PolicyList k) := (members k).coded k.modelName

instance [Patterns] : Checked (PolicyList k) where
  check l := insideEach "entries" check l.entries

end PolicyList

end Sdwan.Policy
