import MigrationClient.Http.Exchange
import MigrationClient.Log.Event
import MigrationClient.Operation
import MigrationClient.Outcome

/-!
# Performing operations

An operation is performed at an endpoint by one request, to the endpoint and the path of the
operation put together as they are. What is sent, what is logged and what comes of it are told
together.
-/

namespace MigrationClient

open Http

namespace Client

/-- The URL for a path at an endpoint. -/
def urlFor (endpoint path : String) : String := endpoint ++ path

/-- A request that can be sent: its URL, and the login that was written in it. -/
structure Prepared where
  url : Url
  login : Option Login
  deriving DecidableEq, Repr

/-- Makes a text the URL of a request. -/
def prepare (text : String) : Except Http.Fault Prepared :=
  match Url.parse text with
  | .error _ => .error .malformedUrl
  | .ok u =>
    let login := u.clearCredentials?
    let url := if login.isSome then u.withoutCredentials else u
    if url.isRequestable then .ok ⟨url, login⟩ else .error (.unsupportedUrl url)

/-- What can be sent is the URL that was spelled, less its credentials if they were a login. -/
theorem prepare_eq_ok {text : String} {p : Prepared} (h : prepare text = .ok p) :
    ∃ u, Url.parse text = .ok u ∧ p.login = u.clearCredentials? ∧
      p.url = (if p.login.isSome then u.withoutCredentials else u) ∧
      p.url.isRequestable = true := by
  unfold prepare at h
  split at h
  · cases h
  · next u hu =>
    simp only at h
    generalize hurl : (if u.clearCredentials?.isSome then u.withoutCredentials else u) = url at h
    by_cases hr : url.isRequestable = true
    · rw [if_pos hr] at h
      cases h
      exact ⟨u, hu, rfl, hurl.symm, hr⟩
    · rw [if_neg hr] at h
      cases h

/-- What performing an operation sent and what it came to. The status is that of the final head,
if one was received. -/
structure Performance where
  requests : List Request
  status : Option Status
  result : Except Error Response

/-- The performance that an exchange is. -/
def Performance.ofExchange (x : Exchange) : Performance :=
  match x.ending with
  | .failed fault => ⟨x.requests, none, .error (.http fault)⟩
  | .truncated status => ⟨x.requests, some status, .error (.http .incompleteBody)⟩
  | .complete url response reason =>
    ⟨x.requests, some response.status,
      if response.status.isError then
        .error (.refused ⟨response.status, reason, url⟩ response)
      else .ok response⟩

/-- Performs an operation. -/
def perform (peer : Peer) (endpoint : String) (op : Operation) : Performance :=
  match prepare (urlFor endpoint op.path) with
  | .error fault => ⟨[], none, .error (.http fault)⟩
  | .ok p => .ofExchange (exchange peer op.method p.url p.login)

/-! ## What is logged -/

/-- The part of the program that the events of a request come from. -/
def requestTarget : String := "pumphouse_api::core::request"

/-- The verb and the URL of an operation. -/
def label (endpoint : String) (op : Operation) : String :=
  s!"{op.method.name} {urlFor endpoint op.path}"

/-- The event of an operation that begins. -/
def dispatched (endpoint : String) (op : Operation) : Log.Event :=
  ⟨.debug, requestTarget, s!"Dispatching {label endpoint op}"⟩

/-- The event of a head that was received. -/
def answered (status : Status) : Log.Event :=
  ⟨.debug, requestTarget, s!"Response status: {String.ofList status.line}"⟩

/-- The event of an error that nobody is told about. -/
def unobserved (endpoint : String) (op : Operation) (e : Error) : Log.Event :=
  ⟨.warn, requestTarget, s!"{label endpoint op} failed with no callback attached: {e.message}"⟩

/-- The events of the request itself. -/
def Performance.events (p : Performance) : List Log.Event := (p.status.map answered).toList

/-- The events of handing on an outcome, with or without somebody to receive it. -/
def endEvents (endpoint : String) (op : Operation) (observed : Bool) (o : Outcome) :
    List Log.Event :=
  if observed then [] else (o.error.map (unobserved endpoint op)).toList

end Client

end MigrationClient
