import MigrationClient.Http.Fault
import MigrationClient.Http.Request
import MigrationClient.Url.Join

/-!
# Peers

The other side of the connections: for which URLs one comes about, and what comes back on it for
the last of the requests that were sent.
-/

namespace MigrationClient.Http

open Text

/-- The head of a reply, and its body unless that breaks off before its end. The reason may be left
to the standard. -/
structure Answer where
  status : Status
  reason : Option (List UInt8)
  headers : List Header
  body : Option (List UInt8)
  deriving DecidableEq, Repr

/-- What comes back for a request. Interim heads are no replies: behind them comes the one that
counts, or the connection ends. -/
inductive Reply where
  | answer (a : Answer)
  /-- The connection ends before there is a complete head, or what comes is no head. -/
  | broken
  deriving DecidableEq, Repr

/-- All that can be met on the way of a request. Every request is replied to in the end, or its
connection ends: somebody who keeps a connection and stays silent for good is no peer. -/
structure Peer where
  /-- Whether a connection for a URL comes about. -/
  accepts : Url → Bool
  /-- What comes back for the last of the requests that were sent. -/
  reply : List Request → Reply

/-- The most headers that a reply may have. -/
def maxHeaders : Nat := 100

namespace Answer

/-- Whether the head can be read as that of a reply. -/
def isReadable (a : Answer) : Bool :=
  !a.status.isInterim && a.headers.length ≤ maxHeaders &&
    a.headers.all fun h => Header.isName h.name && Header.isValue h.value

/-- The reason as it was received, if it is not the standard one. -/
def unusualReason (a : Answer) : Option String :=
  match a.reason with
  | none => if a.status.reason?.isSome then none else some ""
  | some r =>
    if a.status.reason?.map Utf8.ofString = some r then none
    else if r.all (· < 128) then
      some (String.ofList ((Utf8.decodeLossy r).flatMap fun c =>
        match c with
        | '\t' => ['\\', 't']
        | '"' => ['\\', '"']
        | '\\' => ['\\', '\\']
        | c => [c]))
    else some ""

/-- Whether replies of this status have a body. -/
def hasBody (a : Answer) : Bool := !([101, 204, 304].contains a.status.code)

/-- The response that the answer is, if all of its body was received. -/
def response? (a : Answer) : Option Response :=
  (if a.hasBody then a.body else some []).map fun body =>
    ⟨a.status, Header.sort (a.headers.map Header.lower), body⟩

/-- The status of a response is that of the head. -/
theorem status_of_response? {a : Answer} {r : Response} (h : a.response? = some r) :
    r.status = a.status := by
  obtain ⟨body, -, rfl⟩ := Option.map_eq_some_iff.1 h
  rfl

/-- Where the answer sends the client on to, if it says so in a way that can be followed. -/
def location? (a : Answer) (base : Url) : Option Url :=
  if [301, 302, 303, 307, 308].contains a.status.code then do
    let value ← Header.find? (a.headers.map Header.lower) "location"
    let text ← Utf8.toString? value
    let url ← (Url.join base text).toOption
    url.named?
  else none

end Answer

end MigrationClient.Http
