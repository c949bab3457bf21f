/-
**Failures at the administrative boundary.**

A request may lack a parameter, may not parse, or may fail as the configuration change that it is.
Every failure is answered by a status and a body that says whether to try again.  The command line
tells failures of the configuration from failures of the start.

Main definitions:

* `AdminError`, `AdminError.status`, `AdminError.toJson` — failures of requests;
* `CommandError`, `CommandError.ofError` — failures of commands.
-/

import HubReplication.Error
import HubReplication.Json.Basic

set_option relaxedAutoImplicit false
set_option autoImplicit false

namespace HubReplication

/-! ### Requests -/

/-- Why a request failed. -/
inductive AdminError where
  /-- A parameter is missing. -/
  | missingParam (name : String)
  /-- The body or the query does not parse. -/
  | invalidRequest (detail : String)
  /-- The operation failed. -/
  | failed (error : ReplicationError)
deriving DecidableEq

/-- The status that answers a kind of failure. -/
def ErrorKind.httpStatus : ErrorKind → Nat
  | .invalidConfiguration | .protocolMismatch => 400
  | .authorization => 403
  | .notFound | .unknownHub | .databaseMissing => 404
  | .duplicateGrant => 409
  | .consensusCommit | .databaseIdle | .transient | .topologyExhausted | .cancelled => 503
  | .storage => 500

namespace AdminError

/-- The status that answers a failure. -/
def status : AdminError → Nat
  | .missingParam _ | .invalidRequest _ => 400
  | .failed e => e.kind.httpStatus

/-- The stable code of a failure. -/
def code : AdminError → String
  | .missingParam _ => "AEROHUB_MISSING_PARAMETER"
  | .invalidRequest _ => "AEROHUB_INVALID_REQUEST"
  | .failed e => e.kind.code

/-- Whether the request may be repeated under its request id. -/
def isRetriable : AdminError → Bool
  | .failed e => e.isRetriable
  | _ => false

/-- The failure as one line. -/
def display : AdminError → String
  | .missingParam name => "Missing required parameter: " ++ name
  | .invalidRequest detail => "Invalid request: " ++ detail
  | .failed e => e.display

/-- The text in the body of the answer. -/
def message : AdminError → String
  | .failed e => e.message
  | other => other.display

/-- The body of the answer. -/
def toJson (e : AdminError) : Json :=
  .object [
    ("error", .string e.message),
    ("code", .string e.code),
    ("status", Json.nat e.status),
    ("retriable", .bool e.isRetriable)]

instance : Json.Writable AdminError := ⟨toJson⟩

end AdminError

/-! ### Commands -/

/-- What failed of a command. -/
inductive CommandErrorCode where
  | config
  | io
  | bootFailed
  | certificate
deriving DecidableEq, Repr

/-- The text of a code. -/
def CommandErrorCode.text : CommandErrorCode → String
  | .config => "AEROHUB_CLI_CONFIG_ERROR"
  | .io => "AEROHUB_CLI_IO_ERROR"
  | .bootFailed => "AEROHUB_CLI_BOOT_FAILED"
  | .certificate => "AEROHUB_CLI_CERTIFICATE_ERROR"

/-- Why a command failed. -/
structure CommandError where
  code : CommandErrorCode
  message : String
deriving DecidableEq

namespace CommandError

/-- The failure as one line. -/
def display (e : CommandError) : String := e.code.text ++ ": " ++ e.message

/-- The failure of a start: of the configuration if trying again is of no use. -/
def ofError (e : ReplicationError) : CommandError :=
  if e.isFatal then ⟨.config, e.message⟩ else ⟨.bootFailed, e.message⟩

end CommandError

end HubReplication
