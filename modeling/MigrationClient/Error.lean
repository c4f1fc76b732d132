import MigrationClient.Http.Fault
import MigrationClient.Json.Fault
import MigrationClient.Storage.Fault
import MigrationClient.Toml.Fault
import MigrationClient.Url.Host

/-!
# Errors

Everything that can go wrong in a run, each with its cause. An error carries a response exactly
when the server answered and refused the request, and only then it has a status.
-/

namespace MigrationClient

/-- How a task ended without a result. -/
inductive Abort where
  | cancelled
  | panicked
  deriving DecidableEq, Repr

/-- Why a configured value is not accepted. -/
inductive Reason where
  | emptyUrl
  | unsupportedScheme (scheme : String)
  | malformedUrl (cause : Url.ParseError)
  | blank
  | stated (text : String)
  deriving DecidableEq, Repr

def Reason.message : Reason → String
  | emptyUrl => "URL cannot be empty"
  | unsupportedScheme scheme => s!"Unsupported URL scheme: {scheme}"
  | malformedUrl cause => s!"Invalid URL format: {cause.message}"
  | blank => "Value cannot be empty or whitespace-only"
  | stated text => text

/-- What is wrong with a configuration. -/
inductive ConfigFault where
  | document (report : Toml.Report)
  | stated (text : String)
  deriving DecidableEq, Repr

def ConfigFault.message : ConfigFault → String
  | document report => s!"TOML parsing error: {report.message}"
  | stated text => text

inductive Error where
  | http (fault : Http.Fault)
  | refused (refusal : Http.Refusal) (response : Http.Response)
  | io (fault : Storage.Fault)
  | serialization (report : Json.Report)
  | aborted (how : Abort)
  | incomplete
  | config (fault : ConfigFault)
  | invalidValue (field value : String) (reason : Reason)
  deriving DecidableEq, Repr

namespace Error

/-- The text of an error. -/
def message : Error → String
  | http fault => s!"HTTP request failed: {fault.message}"
  | refused refusal _ => s!"HTTP request failed: {refusal.message}"
  | io fault => s!"IO error: {fault.message}"
  | serialization report => s!"Serialization error: {report.message}"
  | aborted .cancelled => "Request task aborted: task was cancelled"
  | aborted .panicked => "Request task aborted: task panicked"
  | incomplete => "Request finished without reporting an outcome"
  | config fault => s!"Configuration error: {fault.message}"
  | invalidValue field value reason =>
    s!"Invalid value for {field}: '{value}' ({reason.message})"

/-- The response that refused the request. -/
def response? : Error → Option Http.Response
  | refused _ response => some response
  | _ => none

/-- The status of that response. -/
def status? (e : Error) : Option Http.Status := e.response?.map (·.status)

end Error

end MigrationClient
