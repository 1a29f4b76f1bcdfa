/-
Templates for the interfaces of a VPN: a header, which says what the
template is called and what it applies to, and the settings of the
interface. Only the settings have a JSON form.
-/
import Sdwan.Feature.Interface.Addressing
import Sdwan.Feature.Interface.Traffic
import Sdwan.Feature.Interface.Tunnel
import Sdwan.Feature.Template

namespace Sdwan.Feature

open Json Validation

/-- A template for an interface. -/
structure Interface where
  templateName : String := ""
  templateDescription : String := ""
  devices : List DeviceModel := []
  /-- Such as `GigabitEthernet1`. -/
  name : String
  description : Option String := none
  poe : Option TextBool := none
  addressing : Interface.Addressing := {}
  nat : Interface.NatSettings := {}
  tunnel : Interface.Tunnel := {}
  services : Interface.Services := {}
  link : Interface.Link := {}
  shaping : Interface.Shaping := {}
  neighbourhood : Interface.Neighbourhood := {}
  trustSec : Interface.TrustSec := {}
deriving DecidableEq, Repr

namespace Interface

-- ============================================== JSON form

/-- The members of the settings. -/
def members : Members Interface Interface :=
  Interface.mk "" "" [] <$> .required "if-name" Interface.name
    <*> .nullable "description" Interface.description
    <*> .nullable "poe" Interface.poe
    <*> Addressing.members.within Interface.addressing
    <*> NatSettings.members.within Interface.nat
    <*> Tunnel.members.within Interface.tunnel
    <*> Services.members.within Interface.services
    <*> Link.members.within Interface.link
    <*> Shaping.members.within Interface.shaping
    <*> Neighbourhood.members.within Interface.neighbourhood
    <*> TrustSec.members.within Interface.trustSec

instance : Coded Interface := members.coded "CiscoVpnInterfaceModel"

-- ============================================== checks

/-- A fixed address and one that is asked for do not go together. -/
def checkAddressSource (i : Interface) : Option Issue :=
  if i.addressing.ipv4Address.isSome && i.addressing.dhcpIpv4Client == some ⟨true⟩ then
    some (.worded "address_source" "ipv4-address cannot be combined with dhcp-client")
  else none

/-- What the choice of addresses needs: two ends of a pool in order, or a
loopback interface. -/
def checkNat (i : Interface) : Option Issue :=
  match i.nat.choice with
  | some .pool =>
    match i.nat.poolStart, i.nat.poolEnd with
    | some start, some last =>
      if last.toNat < start.toNat then
        some (.worded "nat_pool"
          ("NAT pool start " ++ start.text ++ " is after end " ++ last.text))
      else none
    | _, _ => some (.worded "nat_pool" "Pool NAT requires range-start and range-end")
  | some .loopback =>
    if i.nat.loopback.isNone then
      some (.worded "nat_loopback" "Loopback NAT requires loopback-interface")
    else none
  | _ => none

/-- The least rate is not above the greatest. -/
def checkOrder (min max : Option UInt32) (label : String) : Option Issue :=
  match min, max with
  | some min, some max =>
    if max < min then
      some (.worded "range_order"
        (label ++ " minimum " ++ toString min.toNat ++ " exceeds maximum " ++ toString max.toNat))
    else none
  | _, _ => none

/-- The checks of several settings together. -/
def checkWhole (i : Interface) : Option Issue :=
  firstIssue [
    i.checkAddressSource,
    i.checkNat,
    checkOrder i.shaping.downMin i.shaping.downMax "Downstream bandwidth",
    checkOrder i.shaping.upMin i.shaping.upMax "Upstream bandwidth"]

/-- All checks of the settings. -/
def check (i : Interface) : Except Clash Report := do
  let tunnel ← i.tunnel.check
  .ok (thenWhole
    (onLength "if_name" (some 1) (some 32) i.name
      ++ Checked.check i.addressing
      ++ Checked.check i.nat
      ++ tunnel
      ++ Checked.check i.link
      ++ Checked.check i.shaping
      ++ Checked.check i.neighbourhood
      ++ Checked.check i.trustSec)
    i.checkWhole)

-- ============================================== definition

/-- Where the settings stand in a definition. -/
def places : List Placement :=
  Addressing.places ++ NatSettings.places ++ Tunnel.places ++ Services.places ++ Link.places
    ++ Shaping.places ++ Neighbourhood.places ++ TrustSec.places

/-- The template with these settings. -/
def template (i : Interface) : Template where
  kind := "cisco_vpn_interface"
  placements := places
  name := i.templateName
  description := i.templateDescription
  devices := i.devices
  fields := encode i

-- ============================================== making templates

/-- An interface that is up. -/
def new (templateName templateDescription name : String) : Interface :=
  { templateName, templateDescription, name, link := { shutdown := some ⟨false⟩ } }

/-- Applies the template to devices. -/
def withDevices (i : Interface) (devices : List DeviceModel) : Interface := { i with devices }

/-- Gives the interface a fixed address. -/
def withIpv4Address (i : Interface) (address : Net.Ipv4Net) : Interface :=
  { i with
    addressing := { i.addressing with ipv4Address := some address, dhcpIpv4Client := none } }

/-- Lets the interface ask for its address. -/
def withDhcpClient (i : Interface) : Interface :=
  { i with
    addressing := { i.addressing with ipv4Address := none, dhcpIpv4Client := some ⟨true⟩ } }

/-- Begins a tunnel at the interface. -/
def withTunnel (i : Interface) (color : Color) (encap : Encap) : Interface :=
  { i with
    tunnel := { i.tunnel with color := some color, encapsulations := some [{ encap }] } }

/-- Lets a service through the tunnel. -/
def allow (i : Interface) (s : Service) : Interface := { i with services := i.services.allow s }

/-- Shares the address of the interface. -/
def withInterfaceNat (i : Interface) : Interface :=
  { i with nat := { i.nat with enabled := some true, choice := some .interface } }

/-- Shares the addresses of a pool. -/
def withNatPool (i : Interface) (first last : Net.Ipv4) (prefixLength : UInt8) : Interface :=
  { i with
    nat := { i.nat with
      enabled := some true
      choice := some .pool
      poolStart := some first
      poolEnd := some last
      poolPrefixLength := some prefixLength } }

/-- One more item in a list that may be unset. -/
def added {α : Type} (items : Option (List α)) (a : α) : Option (List α) :=
  some (items.getD [] ++ [a])

/-- Adds a fixed rule for an address. -/
def addStaticNat (i : Interface) (rule : StaticNat) : Interface :=
  { i with nat := { i.nat with static4 := added i.nat.static4 rule } }

/-- Adds a filter. -/
def addAccessList (i : Interface) (direction : Direction) (name : String) : Interface :=
  { i with
    addressing := { i.addressing with
      accessLists := added i.addressing.accessLists ⟨direction, name⟩ } }

/-- Adds a group. -/
def addVrrp (i : Interface) (group : Vrrp) : Interface :=
  { i with
    neighbourhood := { i.neighbourhood with groups4 := added i.neighbourhood.groups4 group } }

/-- Adds a group of IPv6 routers. -/
def addIpv6Vrrp (i : Interface) (group : Ipv6Vrrp) : Interface :=
  { i with
    neighbourhood := { i.neighbourhood with groups6 := added i.neighbourhood.groups6 group } }

/-- Sets the size of packets. -/
def withMtu (i : Interface) (mtu : UInt16) : Interface :=
  { i with link := { i.link with mtu := some mtu } }

end Interface

end Sdwan.Feature
