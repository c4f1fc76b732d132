import MigrationClient.Client.Performance

/-!
# Calls

The life of an operation that has been started. Its request is on the way in a task of its own,
whether or not the caller keeps hold of it. The caller may await the request, let it go, or end
the call with a receiver: then a second task waits for the request, hands the outcome to the
receiver and resolves the handle of the call, which the caller may await or let go in turn. Either
task may be cancelled before it ran.
-/

namespace MigrationClient.Client

open Http

/-- Who is told the outcome: nobody, or a callback, which may panic. -/
inductive Receiver where
  | nobody
  | callback (panics : Bool)
  deriving DecidableEq, Repr

def Receiver.isCallback : Receiver → Bool
  | nobody => false
  | callback _ => true

/-- How a task ended: with a result or without. -/
abbrev Joined (α : Type) := Except Abort α

/-- What has become of the caller's hold on the request. -/
inductive Stage where
  | held
  | released
  | ending (who : Receiver)
  | ended (who : Receiver) (how : Joined Unit)

/-- What has become of the caller's hold on the handle. -/
inductive Hold where
  | held
  | dropped
  | joined
  deriving DecidableEq, Repr

structure Call where
  endpoint : String
  operation : Operation
  request : Option (Joined Performance)
  stage : Stage
  hold : Hold
  delivered : List Outcome
  log : List Log.Event

inductive Action where
  /-- The task of the request runs to its end. -/
  | finish
  /-- The task of the request is cancelled before it ran. -/
  | cancel
  /-- The caller lets go of the request. -/
  | release
  /-- The caller ends the call. -/
  | hand (who : Receiver)
  /-- The second task resumes once the request has ended, and tells the receiver. -/
  | deliver
  /-- The second task is cancelled before it ran. -/
  | abandon
  /-- The caller lets go of the handle. -/
  | drop
  /-- The caller awaits the handle, which has resolved. -/
  | join
  deriving DecidableEq, Repr

/-- The result of awaiting a request. -/
def awaited : Joined Performance → Except Error Response
  | .ok p => p.result
  | .error how => .error (.aborted how)

namespace Call

/-- The call of an operation that has just been started. -/
def start (endpoint : String) (op : Operation) : Call :=
  ⟨endpoint, op, none, .held, .held, [], [dispatched endpoint op]⟩

/-- Starts an operation where tasks can be run, or where they cannot: there it panics. Either way
the start is logged. -/
def startWhere (canRun : Bool) (endpoint : String) (op : Operation) : List Log.Event × Joined Call :=
  ([dispatched endpoint op], if canRun then .ok (start endpoint op) else .error .panicked)

/-- The call after its receiver was told an outcome. -/
def tell (c : Call) (who : Receiver) (o : Outcome) : Call :=
  { c with
    stage := .ended who (if who = .callback true then .error .panicked else .ok ())
    delivered := if who.isCallback then c.delivered ++ [o] else c.delivered
    log := c.log ++ endEvents c.endpoint c.operation who.isCallback o }

/-- The call after an action, if the action is possible; `p` is what its request comes to. -/
def step? (p : Performance) (c : Call) : Action → Option Call
  | .finish =>
    match c.request with
    | none => some { c with request := some (.ok p), log := c.log ++ p.events }
    | some _ => none
  | .cancel =>
    match c.request with
    | none => some { c with request := some (.error .cancelled) }
    | some _ => none
  | .release =>
    match c.stage with
    | .held => some { c with stage := .released }
    | _ => none
  | .hand who =>
    match c.stage with
    | .held => some { c with stage := .ending who }
    | _ => none
  | .deliver =>
    match c.stage, c.request with
    | .ending who, some j => some (c.tell who (.ofResult (awaited j)))
    | _, _ => none
  | .abandon =>
    match c.stage with
    | .ending who => some { c with stage := .ended who (.error .cancelled) }
    | _ => none
  | .drop =>
    match c.stage, c.hold with
    | .ending _, .held | .ended _ _, .held => some { c with hold := .dropped }
    | _, _ => none
  | .join =>
    match c.stage, c.hold with
    | .ended _ _, .held => some { c with hold := .joined }
    | _, _ => none

/-- The call after some actions, each of which has to be possible. -/
def run? (p : Performance) (c : Call) (as : List Action) : Option Call := as.foldlM (step? p) c

/-! ## What can be observed -/

/-- The result of awaiting the request, once there is one. -/
def awaited? (c : Call) : Option (Except Error Response) := c.request.map awaited

/-- How the handle of the call resolved, once it has; nobody sees it of a dropped one. -/
def handle? (c : Call) : Option (Joined Unit) :=
  match c.stage, c.hold with
  | .ended _ how, .held | .ended _ how, .joined => some how
  | _, _ => none

/-- What a command learns from a call: the outcome that its callback was told, or why there is
none. -/
def collected? (c : Call) : Option (Except Error Outcome) :=
  c.handle?.map fun how =>
    match how, c.delivered with
    | .error how, _ => .error (.aborted how)
    | .ok (), [] => .error .incomplete
    | .ok (), o :: _ => .ok o

/-- The requests that were sent. -/
def requests (c : Call) : List Request :=
  match c.request with
  | some (.ok p) => p.requests
  | _ => []

end Call

/-! ## The usual course -/

/-- The actions of a call whose tasks run to their ends. -/
def Action.usual (who : Receiver) : List Action := [.hand who, .finish, .deliver, .join]

/-- Performs an operation to its end, with a receiver. -/
def complete (peer : Peer) (endpoint : String) (op : Operation) (who : Receiver) : Option Call :=
  (Call.start endpoint op).run? (perform peer endpoint op) (Action.usual who)

/-- What a command comes to: its operation is performed, and a callback is waited for. -/
def command (peer : Peer) (endpoint : String) (op : Operation) : Except Error Outcome :=
  ((complete peer endpoint op (.callback false)).bind Call.collected?).getD (.error .incomplete)

/-- **A command hands on what the request came to.** -/
theorem command_eq (peer : Peer) (endpoint : String) (op : Operation) :
    command peer endpoint op = .ok (.ofResult (perform peer endpoint op).result) := rfl

end MigrationClient.Client
