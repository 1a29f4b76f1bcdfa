/-
How lists of the several kinds are filled by hand: entries made of
numbers, addresses and names instead of texts.
-/
import Sdwan.Policy.PolicyList

namespace Sdwan.Policy.PolicyList

-- ============================================== applications

/-- Adds an application. -/
def addApp (l : PolicyList .app) (app : String) : PolicyList .app := l.push ⟨none, some app⟩

/-- Adds a family of applications. -/
def addAppFamily (l : PolicyList .app) (family : String) : PolicyList .app :=
  l.push ⟨some family, none⟩

/-- Adds an application. -/
def addLocalApp (l : PolicyList .localApp) (app : String) : PolicyList .localApp :=
  l.push ⟨none, some app⟩

/-- Adds a family of applications. -/
def addLocalAppFamily (l : PolicyList .localApp) (family : String) : PolicyList .localApp :=
  l.push ⟨some family, none⟩

/-- Sets the forwarding class of the first entry. -/
def assignForwardingClass (l : PolicyList .appProbe) (name : String) : PolicyList .appProbe :=
  l.changeFirst ⟨[], ""⟩ fun (e : AppProbeClassEntry) => { e with forwardingClass := name }

/-- Adds a mapping to the first entry. -/
def addColorMapping (l : PolicyList .appProbe) (color : String) (dscp : UInt8) :
    PolicyList .appProbe :=
  l.changeFirst ⟨[], ""⟩ fun (e : AppProbeClassEntry) => { e with map := e.map ++ [⟨color, dscp⟩] }

-- ============================================== single texts

/-- Adds a pattern for paths. -/
def addAsPath (l : PolicyList .asPath) (path : String) : PolicyList .asPath := l.push ⟨path⟩

/-- Sets the queue. -/
def setQueue (l : PolicyList .classMap) (queue : UInt8) : PolicyList .classMap :=
  l.only ⟨toString queue⟩

/-- Adds a colour. -/
def addColor (l : PolicyList .color) (color : String) : PolicyList .color := l.push ⟨color⟩

/-- Adds a community. -/
def addCommunity (l : PolicyList .community) (name : String) : PolicyList .community :=
  l.push ⟨name⟩

/-- Adds a pattern for names of hosts. -/
def addFqdn (l : PolicyList .fqdn) (pattern : String) : PolicyList .fqdn := l.push ⟨pattern⟩

/-- Adds a pattern for domains. -/
def addDomain (l : PolicyList .localDomain) (pattern : String) : PolicyList .localDomain :=
  l.push ⟨pattern⟩

/-- Adds a port. -/
def addPort (l : PolicyList .port) (port : UInt16) : PolicyList .port := l.push ⟨toString port⟩

/-- Adds a protocol. -/
def addProtocolName (l : PolicyList .protocolName) (name : String) : PolicyList .protocolName :=
  l.push ⟨name⟩

/-- Adds a site. -/
def addSite (l : PolicyList .site) (id : UInt32) : PolicyList .site := l.push ⟨toString id⟩

/-- Adds a range of sites. -/
def addSiteRange (l : PolicyList .site) (first last : UInt32) : PolicyList .site :=
  l.push ⟨toString first ++ "-" ++ toString last⟩

/-- Adds a pattern for URLs that are let through. -/
def addAllowedUrl (l : PolicyList .urlAllow) (pattern : String) : PolicyList .urlAllow :=
  l.push ⟨pattern⟩

/-- Adds a pattern for URLs that are blocked. -/
def addBlockedUrl (l : PolicyList .urlBlock) (pattern : String) : PolicyList .urlBlock :=
  l.push ⟨pattern⟩

/-- Adds a VPN. -/
def addVpn (l : PolicyList .vpn) (vpn : UInt16) : PolicyList .vpn := l.push ⟨toString vpn⟩

/-- Adds a range of VPNs. -/
def addVpnRange (l : PolicyList .vpn) (first last : UInt16) : PolicyList .vpn :=
  l.push ⟨toString first ++ "-" ++ toString last⟩

-- ============================================== networks

/-- Adds a network. -/
def addDataPrefix (l : PolicyList .dataPrefix) (n : Net.Ipv4Net) : PolicyList .dataPrefix :=
  l.push ⟨n⟩

/-- Adds a network. -/
def addDataIpv6Prefix (l : PolicyList .dataIpv6Prefix) (n : Net.Ipv6Net) :
    PolicyList .dataIpv6Prefix :=
  l.push ⟨n⟩

/-- Adds a network and bounds for the lengths of routes. -/
def addIpv4Prefix (l : PolicyList .ipv4Prefix) (n : Net.Ipv4Net) (ge le : Option UInt8) :
    PolicyList .ipv4Prefix :=
  l.push ⟨n, ge.map toString, le.map toString⟩

/-- Adds a network and bounds for the lengths of routes. -/
def addIpv6Prefix (l : PolicyList .ipv6Prefix) (n : Net.Ipv6Net) (ge le : Option UInt8) :
    PolicyList .ipv6Prefix :=
  l.push ⟨n, ge.map toString, le.map toString⟩

-- ============================================== records

/-- Adds a country. -/
def addCountry (l : PolicyList .geoLocation) (country : String) : PolicyList .geoLocation :=
  l.push ⟨some country, none⟩

/-- Adds a continent. -/
def addContinent (l : PolicyList .geoLocation) (continent : String) : PolicyList .geoLocation :=
  l.push ⟨none, some continent⟩

/-- Adds a signature. -/
def addSignature (l : PolicyList .ipsSignature) (generator signature : UInt32) :
    PolicyList .ipsSignature :=
  l.push ⟨toString generator, toString signature⟩

/-- Adds a mirror. -/
def addMirror (l : PolicyList .mirror) (remoteDest source : Net.Ip) : PolicyList .mirror :=
  l.push ⟨remoteDest, source⟩

/-- Sets the policer. -/
def setPolicer (l : PolicyList .policer) (burst : UInt64) (exceed : ExceedAction) (rate : UInt64) :
    PolicyList .policer :=
  l.only ⟨toString burst, exceed, toString rate⟩

/-- Sets the preferences. -/
def assignColorGroups (l : PolicyList .colorGroup) (primary : ColorPreference)
    (secondary tertiary : Option ColorPreference) : PolicyList .colorGroup :=
  l.only ⟨primary, secondary, tertiary⟩

/-- Sets the class of probes of the first entry. -/
def assignAppProbeClass (l : PolicyList .slaClass) (id : String) : PolicyList .slaClass :=
  l.changeFirst (SlaClassEntry.mk none none none none none)
    fun (e : SlaClassEntry) => { e with appProbeClass := some id }

/-- Sets the demands of the first entry; one that is not given is
dropped. -/
def addThresholds (l : PolicyList .slaClass) (latency loss jitter : Option UInt32) :
    PolicyList .slaClass :=
  l.changeFirst (SlaClassEntry.mk none none none none none)
    fun (e : SlaClassEntry) =>
      { e with
        latency := latency.map toString
        loss := loss.map toString
        jitter := jitter.map toString }

/-- Sets the fallback of the first entry. -/
def setFallback (l : PolicyList .slaClass) (t : FallbackTunnel) : PolicyList .slaClass :=
  l.changeFirst (SlaClassEntry.mk none none none none none)
    fun (e : SlaClassEntry) => { e with fallback := some t }

/-- Adds the end of a tunnel. -/
def addTloc (l : PolicyList .tloc) (tloc : Net.Ipv4) (color : String) (encap : Encap)
    (preference : Option UInt32) : PolicyList .tloc :=
  l.push ⟨tloc, color, encap, toString (preference.getD 0)⟩

/-- Adds a VPN. -/
def addZoneVpn (l : PolicyList .zone) (vpn : UInt16) : PolicyList .zone :=
  l.push ⟨some (toString vpn), none⟩

/-- Adds a family of interfaces. -/
def addZoneInterface (l : PolicyList .zone) (t : InterfaceType) : PolicyList .zone :=
  l.push ⟨none, some t⟩

end Sdwan.Policy.PolicyList
