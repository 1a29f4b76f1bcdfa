/-
Tenants of an overlay that several of them share.
-/
import Sdwan.Validation.Check

namespace Sdwan

open Json Validation

/-- A tenant. The controller adds what is optional here. -/
structure Tenant where
  orgName : String
  subDomain : String
  description : String
  name : String
  tenantId : Option String := none
  flakeId : Option UInt64 := none
  orchestrator : Option String := none
  controllers : Option (List String) := none
  connectorEnabled : Bool := false
  connectorAddress : Option String := none
  connectorInterface : Option String := none
  edgeForecast : Option UInt32 := none
  edgesPresent : Option UInt32 := none
  state : Option String := none
  mode : Option String := none
  /-- Whether the overlay it moves to has several tenants. -/
  sharedDestination : Option Bool := none
  migrationKey : Option String := none
deriving DecidableEq, Repr

namespace Tenant

-- ============================================== JSON form

/-- The members of a tenant. -/
def members : Members Tenant Tenant :=
  Tenant.mk <$> .required "orgName" Tenant.orgName
    <*> .required "subDomain" Tenant.subDomain
    <*> .required "desc" Tenant.description
    <*> .required "name" Tenant.name
    <*> .optional "tenantId" Tenant.tenantId
    <*> .optional "flakeId" Tenant.flakeId
    <*> .optional "vBondAddress" Tenant.orchestrator
    <*> .optional "vSmarts" Tenant.controllers
    <*> .defaulted "edgeConnectorEnable" false Tenant.connectorEnabled
    <*> .optional "edgeConnectorSystemIp" Tenant.connectorAddress
    <*> .optional "edgeConnectorTunnelInterfaceName" Tenant.connectorInterface
    <*> .optional "wanEdgeForecast" Tenant.edgeForecast
    <*> .optional "wanEdgePresent" Tenant.edgesPresent
    <*> .optional "state" Tenant.state
    <*> .optional "mode" Tenant.mode
    <*> .optional "isDestinationOverlayMT" Tenant.sharedDestination
    <*> .optional "migrationKey" Tenant.migrationKey

instance : Coded Tenant := members.coded "Tenant"

instance : Checked Tenant :=
  ⟨fun t =>
    onLength "org_name" (some 1) none t.orgName
      ++ onLength "sub_domain" (some 1) none t.subDomain
      ++ onLength "name" (some 1) (some 128) t.name⟩

-- ============================================== making tenants

/-- Says whether the overlay it moves to has several tenants. -/
def toShared (t : Tenant) (shared : Bool) : Tenant := { t with sharedDestination := some shared }

/-- Protects the archive with a key. -/
def withMigrationKey (t : Tenant) (key : String) : Tenant := { t with migrationKey := some key }

/-- Says how many edges are to come. -/
def withEdgeForecast (t : Tenant) (count : UInt32) : Tenant := { t with edgeForecast := some count }

/-- Turns the connector on, which needs an address and an interface. -/
def withConnector (t : Tenant) (address interface : String) : Tenant :=
  { t with
    connectorEnabled := true
    connectorAddress := some address
    connectorInterface := some interface }

end Tenant

end Sdwan
