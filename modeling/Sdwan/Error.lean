/-
What can go wrong between a program and its controller: the causes, their
codes and texts, and which of them are worth a second attempt or a line
in the log.
-/
import Sdwan.Json.Codec

namespace Sdwan

/-- Why an operation failed. -/
inductive Error where
  /-- The controller cannot be reached or is too busy. -/
  | serviceUnavailable (text : String)
  /-- A login or an authorisation was refused. -/
  | authentication (text : String)
  /-- An answer, or a text of the caller, could not be read. -/
  | parse (text : String)
  | invalidUuid (text : String)
  | config (text : String)
  /-- The exchange failed, or ended with an unexpected status. -/
  | http (text : String)
  | timeout (text : String)
  | notFound (text : String)
  | invalidRequest (text : String)
  | badRequest (text : String)
  /-- A model does not pass its checks. -/
  | validation (text : String)
  | conflict (text : String)
  /-- The controller's version does not meet an endpoint's constraint. -/
  | unsupportedVersion (endpoint required actual : String)
  | invalidEndpoint (text : String)
  | internal (text : String)
deriving DecidableEq, Repr

/-- The result of an operation. -/
abbrev Result (α : Type) := Except Error α

namespace Error

/-- The code for programs. -/
def code : Error → String
  | serviceUnavailable _ => "SERVICE_UNAVAILABLE"
  | authentication _ => "AUTHENTICATION_FAILED"
  | parse _ => "PARSE_ERROR"
  | invalidUuid _ => "INVALID_UUID"
  | config _ => "CONFIG_ERROR"
  | http _ => "HTTP_ERROR"
  | timeout _ => "TIMEOUT"
  | notFound _ => "NOT_FOUND"
  | invalidRequest _ => "INVALID_REQUEST"
  | badRequest _ => "BAD_REQUEST"
  | validation _ => "VALIDATION_ERROR"
  | conflict _ => "CONFLICT"
  | unsupportedVersion _ _ _ => "UNSUPPORTED_VERSION"
  | invalidEndpoint _ => "INVALID_ENDPOINT"
  | internal _ => "INTERNAL_ERROR"

/-- The text for people. -/
def message : Error → String
  | serviceUnavailable t => "Service unavailable: " ++ t
  | authentication t => "Authentication failed: " ++ t
  | parse t => "Failed to parse response: " ++ t
  | invalidUuid t => "Invalid UUID: " ++ t
  | config t => "Configuration error: " ++ t
  | http t => "HTTP request failed: " ++ t
  | timeout t => "Timeout waiting for vManage: " ++ t
  | notFound t => "Not found: " ++ t
  | invalidRequest t => "Invalid request: " ++ t
  | badRequest t => "Bad request: " ++ t
  | validation t => "Validation error: " ++ t
  | conflict t => "Conflict: " ++ t
  | unsupportedVersion endpoint required actual =>
    "Endpoint " ++ endpoint ++ " requires version " ++ required ++ ", server runs " ++ actual
  | invalidEndpoint t => "Invalid endpoint: " ++ t
  | internal t => "Internal error: " ++ t

/-- Whether the error belongs in the log as a serious one. -/
def shouldLog : Error → Bool
  | internal _ | config _ | authentication _ => true
  | _ => false

/-- Whether the request that led to the error may be sent again. -/
def isTransient : Error → Bool
  | timeout _ | serviceUnavailable _ | http _ => true
  | _ => false

/-- The error as a response body, with the id of the request if there is
one. -/
def response (e : Error) (requestId : Option String) : Json :=
  .object ([("error", .object [("code", .string e.code), ("message", .string e.message)])]
    ++ Json.memberIf "request_id" Json.string requestId)

end Error

end Sdwan
