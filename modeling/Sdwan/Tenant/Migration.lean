/-
Moving a tenant to another overlay: the jobs that do it, the archive that
is carried over, and the token that allows the move.
-/
import Sdwan.Api.Query
import Sdwan.Files
import Sdwan.Http.Message
import Sdwan.Url.Parse

namespace Sdwan.Migration

open Json

-- ============================================== jobs

/-- The job that packs a tenant into an archive. -/
structure Export where
  processId : String
deriving DecidableEq, Repr

instance : Coded Export :=
  (Export.mk <$> .required "processId" Export.processId : Members _ _).coded "ExportInfo"

/-- The job that moves the network. -/
structure Move where
  processId : String
deriving DecidableEq, Repr

instance : Coded Move :=
  (Move.mk <$> .required "processId" Move.processId : Members _ _).coded "MigrationInfo"

/-- The job that unpacks an archive, and where its token is. -/
structure Import where
  processId : String
  tokenUrl : String
deriving DecidableEq, Repr

instance : Coded Import :=
  (Import.mk <$> .required "processId" Import.processId
    <*> .required "migrationTokenURL" Import.tokenUrl : Members _ _).coded "ImportInfo"

-- ============================================== tokens

/-- What a token is asked for with. -/
structure TokenQuery where
  migrationId : String
deriving DecidableEq, Repr

namespace TokenQuery

/-- The name of the only parameter. -/
def parameter : String := "migrationId"

instance : Coded TokenQuery :=
  (TokenQuery.mk <$> .required parameter TokenQuery.migrationId
    : Members _ _).coded "MigrationTokenQueryParams"

/-- The parameters of the query. -/
def query (q : TokenQuery) : Query := ⟨[(parameter, q.migrationId)]⟩

end TokenQuery

namespace Import

/-- A URL of a controller is absolute or relative to an address that does
not matter. -/
def placeholder : Url :=
  { scheme := "http".toList, host := some (.domain "localhost".toList), path := .segments [[]] }

/-- The URL of the token. -/
def url [Url.Idna] (i : Import) : Result Url :=
  (placeholder.join i.tokenUrl).mapError fun e =>
    .parse ("Invalid migration token URL " ++ Text.backquoted i.tokenUrl ++ ": " ++ e.message)

/-- The query of the URL, empty when there is none. -/
def queryText [Url.Idna] (i : Import) : Result String := do
  let u ← i.url
  .ok (String.ofList (u.query.getD []))

/-- What to ask for the token with: the first parameter of the right
name. -/
def tokenQuery [Url.Idna] (i : Import) : Result TokenQuery := do
  let u ← i.url
  match (Url.Form.decodePairs (u.query.getD [])).lookup TokenQuery.parameter with
  | some value => .ok ⟨value⟩
  | none =>
    .error (.parse (TokenQuery.parameter ++ " missing from " ++ Text.backquoted i.tokenUrl))

end Import

-- ============================================== archives

/-- The archive of a tenant. -/
structure Archive where
  fileName : String
  content : List UInt8
deriving DecidableEq, Repr

namespace Archive

/-- The name of an archive that has none of its own. -/
def defaultName : String := "default.tar.gz"

/-- The field of the form that carries it. -/
def field : String := "file"

/-- The last part of a path, unless it leads to a directory above. -/
def lastPart? (path : String) : Option String :=
  ((Files.parts path).getLast?.filter (· != ['.', '.'])).map String.ofList

/-- Reads an archive from a file. -/
def ofFile (files : Files) (path : String) : Result Archive :=
  match files path with
  | .error fault => .error (.invalidRequest ("Failed to read " ++ path ++ ": " ++ fault.message))
  | .ok content => .ok ⟨(lastPart? path).getD defaultName, content⟩

/-- The form that uploads it. -/
def form (a : Archive) : Http.Body := .multipart [⟨field, a.fileName, a.content⟩]

end Archive

end Sdwan.Migration
