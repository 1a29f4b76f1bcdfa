/-
How a program is told which controller to use: the address, the login,
and the settings of the connection. The password is part of it but never
of its JSON form.
-/
import Sdwan.Url.Parse
import Sdwan.Validation.Check
import Sdwan.Version

namespace Sdwan

open Json Validation

/-- What is needed to reach a controller. -/
structure Config where
  url : String
  username : String
  password : Option String := none
  tlsVerify : Bool := true
  /-- The path of a file with a certificate. -/
  caCert : Option String := none
  timeoutSeconds : UInt64 := 30
  maxRetries : UInt32 := 3
  apiVersion : Option Version := none
  vsessionId : Option String := none
deriving DecidableEq, Repr

namespace Config

-- ============================================== JSON form

/-- The path of a file. -/
def readPath : Reader (Option String) := readNullable (readStringAs "path string")

/-- The members of a configuration. -/
def members : Members Config Config :=
  Config.mk <$> .required "url" Config.url
    <*> .required "username" Config.username
    <*> pure none
    <*> .defaulted "tls_verify" true Config.tlsVerify
    <*> .member "tls_ca_cert" readPath (some none) none (fun c => c.caCert.map Json.string)
    <*> .defaulted "request_timeout_secs" 30 Config.timeoutSeconds
    <*> .defaulted "max_retries" 3 Config.maxRetries
    <*> .optional "api_version" Config.apiVersion
    <*> .optional "vsession_id" Config.vsessionId

instance : Coded Config := members.coded "VmanageClientConfig"

-- ============================================== checks

/-- A text that has to be an absolute URL. -/
def onUrl [Url.Idna] (name value : String) : Report :=
  match Url.parse value with
  | .ok _ => []
  | .error _ => atField name [⟨"url", none, [("value", .string value)]⟩]

/-- What is wrong with a configuration. -/
def validate [Url.Idna] (c : Config) : Report :=
  onUrl "url" c.url
    ++ onLength "username" (some 1) none c.username
    ++ onRange "request_timeout_secs" (some 1) (some 300) c.timeoutSeconds.toNat
    ++ onRange "max_retries" (some 0) (some 10) c.maxRetries.toNat

/-- The configuration of a URL and a login, if it passes its checks. -/
def new [Url.Idna] (url username password : String) : Result Config :=
  let c : Config := { url, username, password := some password }
  match validate c with
  | [] => .ok c
  | report => .error (.config ("Invalid configuration: " ++ report.text))

-- ============================================== changes

/-- The same configuration with a password. -/
def withPassword (c : Config) (password : String) : Config := { c with password := some password }

/-- The same configuration with or without a check of the controller's
certificate. -/
def withTlsVerify (c : Config) (verify : Bool) : Config := { c with tlsVerify := verify }

/-- The same configuration with a file with a certificate. -/
def withCaCert (c : Config) (path : String) : Config := { c with caCert := some path }

/-- The same configuration with a timeout. -/
def withTimeout (c : Config) (seconds : UInt64) : Config := { c with timeoutSeconds := seconds }

/-- The same configuration with a number of retries. -/
def withMaxRetries (c : Config) (count : UInt32) : Config := { c with maxRetries := count }

/-- The same configuration with a pinned release. -/
def withApiVersion (c : Config) (v : Version) : Config := { c with apiVersion := some v }

/-- The same configuration with the session of a tenant. -/
def withVsessionId (c : Config) (id : String) : Config := { c with vsessionId := some id }

-- ============================================== access

/-- The password, which has to be set. -/
def requirePassword (c : Config) : Result String :=
  match c.password with
  | some p => .ok p
  | none => .error (.config "password is not set")

/-- The time a request may take, in milliseconds. -/
def timeoutMillis (c : Config) : Nat := 1000 * c.timeoutSeconds.toNat

/-- The address. -/
def parseUrl [Url.Idna] (c : Config) : Result Url :=
  (Url.parse c.url).mapError fun e => .config ("Invalid vManage URL: " ++ e.message)

end Config

end Sdwan
