import MigrationClient.Client.Call
import MigrationClient.CommandLine.Parser
import MigrationClient.Log.Filter
import MigrationClient.Log.Line
import MigrationClient.Text.Quoted

/-!
# Runs of the program

A run reads its command line, fills in the settings from the file they name, validates them, and
performs the one operation that was asked for. It is told as what was written, what was sent, and
the exit code.
-/

namespace MigrationClient

open Text

/-! ## Descriptions -/

/-- The operation as it is logged. -/
def Operation.describe : Operation → String
  | resources => "Resources"
  | reset => "Reset"
  | migrateTenant t => s!"MigrateTenant \x7b tenant_id: {Quoted.quote t} \x7d"
  | evacuateHost h => s!"EvacuateHost \x7b host_name: {Quoted.quote h} \x7d"

/-- A value that may be absent, as it is logged. -/
def describeOption (f : α → String) : Option α → String
  | none => "None"
  | some a => s!"Some({f a})"

/-- The settings as they are logged. -/
def Settings.describe (s : Settings) : String :=
  let endpoint := describeOption Quoted.quote s.endpoint
  let config := describeOption Quoted.quoteBytes s.config
  let fields :=
    s!"endpoint: {endpoint}, config: {config}, verbose: {s.verbose}, json_logs: {s.jsonLogs}"
  s!"CliConfig \x7b {fields}, command: {s.operation.describe} \x7d"

/-! ## What a run writes -/

/-- Something on the standard output: an event, or a text of its own. -/
inductive Line where
  | event (e : Log.Event)
  | text (s : String)
  deriving DecidableEq, Repr

/-- A line as it is written; every event is written with a time. -/
def Line.write (json : Bool) (time : String) : Line → String
  | event e => if json then e.jsonLine time else e.line time
  | text s => s

/-- What a run leaves behind, and the error that kept it from a response, if any. -/
structure Report where
  exitCode : Nat
  jsonLogs : Bool
  output : List Line
  errorOutput : String
  requests : List Http.Request
  cause : Option Error

namespace Run

/-- What is written below the fault of a command line. -/
def hint : String := "\n\nFor more information, try '--help'.\n"

/-- The report of a run that ended before it had settings. -/
def stopped (stop : CommandLine.Stop) : Report :=
  match stop with
  | .help page => ⟨stop.exitCode, false, [.text page.text], "", [], none⟩
  | .nothingGiven page => ⟨stop.exitCode, false, [], page.text, [], none⟩
  | .fault _ => ⟨stop.exitCode, false, [], stop.message ++ hint, [], none⟩

/-- The part of the program that a run logs for. -/
def target : String := "pumphouse_api"

def event (level : Log.Level) (message : String) : Log.Event := ⟨level, target, message⟩

/-- A fault as it is shown to the user. -/
def complaint (e : Error) : String := s!"❌ {e.message}\n"

/-- The exit code of a run that could not begin. -/
def failure : Nat := 2

/-- The exit code of a run without an outcome. -/
def noOutcome : Nat := 1

/-- The events about an outcome after its response has been shown, and what is shown of its
error. -/
def verdict (o : Outcome) : List Log.Event × String :=
  match o.error, o.response with
  | some e, some _ => ([event .warn s!"Request completed with error status: {e.message}"], "")
  | some e, none => ([event .error s!"Request failed: {e.message}"], complaint e)
  | none, _ => ([], "")

/-- The lines of the events that a filter admits. -/
def logged (filter : Log.Filter) (es : List Log.Event) : List Line :=
  (es.filter filter.admits).map .event

/-- What a run does with valid settings. -/
def perform (peer : Http.Peer) (filter : Log.Filter) (s : Settings) : Report :=
  let endpoint := s.effectiveEndpoint
  let p := Client.perform peer endpoint s.operation
  let before := logged filter <|
    event .info s!"Using endpoint {endpoint}" ::
      Client.dispatched endpoint s.operation :: p.events
  match Client.command peer endpoint s.operation with
  | .error e => ⟨noOutcome, s.jsonLogs, before, s!"Error: {e.message}\n", p.requests, some e⟩
  | .ok o =>
    let shown := (o.render.map fun r => Line.text (r ++ "\n")).toList
    let (es, complaint) := verdict o
    ⟨o.exitCode, s.jsonLogs, before ++ shown ++ logged filter es, complaint, p.requests,
      if o.response.isSome then none else o.error⟩

/-- The report of a run that failed before its operation began. -/
def rejected (filter : Log.Filter) (s : Settings) (what : String) (e : Error) : Report :=
  ⟨failure, s.jsonLogs, logged filter [event .error s!"{what}: {e.message}"], complaint e, [],
    some e⟩

/-- The filter of a run. -/
def filter (w : World) (s : Settings) : Log.Filter :=
  .choose (w.env.text? "RUST_LOG") (s.afterMerge w).verbose

/-- What a run does with the settings of its command line. -/
def proceed (w : World) (peer : Http.Peer) (s : Settings) : Report :=
  let filter := filter w s
  match s.merge w with
  | .error e => rejected filter s "Failed to load config file" e
  | .ok t =>
    let first := logged filter [event .debug s!"CLI config: {t.describe}"]
    let rest :=
      match t.validate with
      | .error e => rejected filter t "Configuration validation failed" e
      | .ok () => perform peer filter t
    { rest with output := first ++ rest.output }

end Run

/-- A whole run, with the arguments after the program's name. -/
def run (w : World) (peer : Http.Peer) (args : List (List UInt8)) : Report :=
  match CommandLine.parse w.env (Utf8.ofString CommandLine.defaultProgram :: args) with
  | .error stop => Run.stopped stop
  | .ok s => Run.proceed w peer s

end MigrationClient
