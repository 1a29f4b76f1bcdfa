/-
The operations that move tenants. From one release on, an archive can be
uploaded only with the key that protects it.
-/
import Sdwan.Api.Client
import Sdwan.Api.Valid
import Sdwan.Tenant.Basic
import Sdwan.Tenant.Migration

namespace Sdwan

open Json

/-- The operations that move tenants. -/
structure MigrationClient where
  client : Client

variable [Platform]

namespace MigrationClient

open Migration

-- ============================================== endpoints

def downloadEndpoint : Endpoint :=
  { verb := .get, path := "/tenantmigration/download/\x7bpath\x7d" }
def exportEndpoint : Endpoint := { verb := .post, path := "/tenantmigration/export" }
def tokenEndpoint : Endpoint := { verb := .get, path := "/tenantmigration/migrationToken" }
def importEndpoint : Endpoint :=
  { verb := .post, path := "/tenantmigration/import", versions := some "<20.13" }
def importWithKeyEndpoint : Endpoint :=
  { verb := .post, path := "/tenantmigration/import/\x7bmigration_key\x7d"
    versions := some ">=20.13" }
def moveEndpoint : Endpoint := { verb := .post, path := "/tenantmigration/networkMigration" }
def moveAgainEndpoint : Endpoint := { verb := .get, path := "/tenantmigration/networkMigration" }

-- ============================================== operations

/-- Fetches an archive. -/
def download (c : MigrationClient) (path : Option String) : Action (List UInt8) :=
  c.client.callBytes downloadEndpoint [("path", path.getD Archive.defaultName)] []

/-- Begins to pack a tenant. -/
def exportTenant (c : MigrationClient) (t : Tenant) : Action Export := do
  requireValid t
  c.client.callJson exportEndpoint Export [] [] (some (encode t))

/-- Fetches a token. -/
def fetchToken (c : MigrationClient) (q : TokenQuery) : Action String :=
  c.client.callText tokenEndpoint [] q.query.pairs

/-- Uploads an archive. -/
def upload (c : MigrationClient) (e : Endpoint) (args : List (String × String)) (a : Archive) :
    Action Import := do
  let reply ← c.client.call e args [] { body := a.form }
  let bytes ← reply.readBody
  e.decode Import bytes

/-- Begins to unpack an archive. -/
def importArchive (c : MigrationClient) (a : Archive) : Action Import :=
  c.upload importEndpoint [] a

/-- Begins to unpack an archive that is protected by a key. -/
def importWithKey (c : MigrationClient) (a : Archive) (key : String) : Action Import :=
  c.upload importWithKeyEndpoint [("migration_key", key)] a

/-- Begins to move the network. -/
def moveNetwork (c : MigrationClient) (token : String) : Action Move := do
  let reply ← c.client.call moveEndpoint [] [] { body := .text token }
  let bytes ← reply.readBody
  moveEndpoint.decode Move bytes

/-- Begins again after a failure. -/
def moveAgain (c : MigrationClient) : Action Move :=
  c.client.callJson moveAgainEndpoint Move [] [] none

end MigrationClient

end Sdwan
