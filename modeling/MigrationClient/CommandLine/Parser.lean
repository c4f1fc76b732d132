import MigrationClient.CommandLine.Stop
import MigrationClient.Config.Settings

/-!
# Parsing the command line

The arguments are taken one after the other. Options come before the subcommand, and what stands
behind its name belongs to it. The value of an option is looked at only when the next option
begins or the arguments end, so an unknown argument after it is noticed first. The endpoint may
also come from the environment.
-/

namespace MigrationClient.CommandLine

open Text

/-- How the program was started: the path by which, and the environment. -/
structure Start where
  path : List UInt8
  env : Environment

namespace Start

/-- The name of the program as it is shown, if it has a readable one. -/
def program? (s : Start) : Option String :=
  ((fileName? s.path).bind Utf8.decode).map fun n => String.ofList (Terminal.strip n)

def program (s : Start) : String := s.program?.getD defaultProgram

/-- The variable that names the endpoint. -/
def endpoint? (s : Start) : Option (List UInt8) := s.env.find? (Utf8.ofString "PUMPHOUSE_ENDPOINT")

def page (s : Start) : Page := mainPage s.program (shownText (s.endpoint?.getD []))

end Start

/-! ## What has been given -/

/-- The options given so far. -/
structure Draft where
  endpoint : Option String
  config : Option (List UInt8)
  verbose : Bool
  jsonLogs : Bool
  deriving DecidableEq, Repr

/-- An option whose value is expected next, or has come and is yet to be looked at. -/
inductive Pending where
  | nothing
  | awaiting (o : LongOption)
  | holding (o : LongOption) (value : List UInt8)
  deriving DecidableEq, Repr

namespace Draft

def empty : Draft := ⟨none, none, false, false⟩

/-- Whether an option has been given. -/
def has (d : Draft) : LongOption → Bool
  | .endpoint => d.endpoint.isSome
  | .config => d.config.isSome
  | .verbose => d.verbose
  | .jsonLogs => d.jsonLogs
  | .help => false

/-- The text in some bytes. -/
def text (value : List UInt8) : Except Stop String :=
  match Utf8.toString? value with
  | some s => .ok s
  | none => .error (.fault .notText)

/-- An option with its value; it may be given once. -/
def give (d : Draft) (o : LongOption) (value : List UInt8) : Except Stop Draft :=
  if d.has o then .error (.fault (.repeated o))
  else
    match o with
    | .endpoint => (text value).map fun s => { d with endpoint := some s }
    | .config =>
      if value.isEmpty then .error (.fault (.missingValue o))
      else .ok { d with config := some value }
    | .verbose => .ok { d with verbose := true }
    | .jsonLogs => .ok { d with jsonLogs := true }
    | .help => .ok d

/-- Looks at the value that is pending. -/
def settle (d : Draft) : Pending → Except Stop Draft
  | .nothing => .ok d
  | .awaiting o => .error (.fault (.missingValue o))
  | .holding o value => d.give o value

end Draft

/-! ## After a subcommand -/

/-- The identifier among the arguments of a subcommand; `held` is the one found so far, and after
an escape dashes mean nothing. -/
def operand (s : Start) (c : Subcommand) (escaped : Bool) (held : Option (List UInt8)) :
    List (List UInt8) → Except Stop (Option String)
  | [] => held.elim (.ok none) fun v => (Draft.text v).map some
  | a :: r =>
    let here (page : Page) : Except Stop (Option String) := do
      let _ ← held.elim (.ok "") Draft.text
      .error (.help page)
    match escaped, Argument.ofBytes a with
    | false, .escape => operand s c true held r
    | false, .long name value =>
      match LongOption.ofName? name, value with
      | some .help, none => here (subcommandPage s.program? c)
      | some .help, some v => .error (.fault (.unexpectedValue .help (shownText v)))
      | _, _ => .error (.fault (.unexpectedArgument s!"--{shownText name}"))
    | false, .short letter =>
      if letter = "h" then here (subcommandPage s.program? c)
      else .error (.fault (.unexpectedArgument s!"-{letter}"))
    | _, _ =>
      if held.isNone ∧ c.operandName?.isSome then operand s c escaped (some a) r
      else .error (.fault (.unexpectedArgument (shownText a)))

/-- The operation of a subcommand with its arguments. -/
def operation (s : Start) (c : Subcommand) (args : List (List UInt8)) : Except Stop Operation := do
  match c.operation? (← operand s c false none args) with
  | some op => .ok op
  | none => .error (.fault (.missingOperand (c.operandName?.getD "")))

/-- The page that help was asked for, by the names of subcommands. -/
def helpOn (s : Start) (names : List (List UInt8)) : Stop :=
  match names with
  | [] => .help s.page
  | a :: r =>
    match Choice.ofName? a, r with
    | some (.run c), [] => .help (subcommandPage s.program? c)
    | some .help, [] => .help (helpPage s.program?)
    | some _, b :: _ => .fault (.unknownSubcommand (shownText b))
    | none, _ => .fault (.unknownSubcommand (shownText a))

/-! ## The whole -/

/-- The settings of all that has been given. -/
def finish (s : Start) (d : Draft) (op : Option Operation) : Except Stop Settings := do
  let endpoint ←
    match d.endpoint, s.endpoint? with
    | none, some v => (Draft.text v).map some
    | e, _ => .ok e
  match op with
  | some op => .ok ⟨endpoint, d.config, d.verbose, d.jsonLogs, op⟩
  | none =>
    if { d with endpoint } = Draft.empty then .error (.nothingGiven s.page)
    else .error (.fault (.missingSubcommand s.program))

/-- After an escape no argument can follow. -/
def escaped (s : Start) (d : Draft) (pending : Pending) : List (List UInt8) → Except Stop Settings
  | [] => do finish s (← d.settle pending) none
  | a :: _ =>
    if (Choice.ofName? a).isSome then .error (.fault (.unexpectedArgument (shownText a)))
    else .error (.fault (.unknownSubcommand (shownText a)))

/-- Options, and a subcommand after them. -/
def options (s : Start) (d : Draft) (pending : Pending) :
    List (List UInt8) → Except Stop Settings
  | [] => do finish s (← d.settle pending) none
  | a :: r =>
    match pending, Choice.ofName? a, Argument.ofBytes a with
    | .awaiting o, _, .plain => options s d (.holding o a) r
    | .nothing, some (.run c), _ | .holding _ _, some (.run c), _ => do
      let op ← operation s c r
      finish s (← d.settle pending) (some op)
    | .nothing, some .help, _ | .holding _ _, some .help, _ => .error (helpOn s r)
    | _, _, .escape => escaped s d pending r
    | _, _, .long name value =>
      match LongOption.ofName? name, value with
      | none, _ => .error (.fault (.unexpectedArgument s!"--{shownText name}"))
      | some .help, none => do
        let _ ← d.settle pending
        .error (.help s.page)
      | some o, none => do
        let d ← d.settle pending
        if o.takesValue then options s d (.awaiting o) r
        else options s (← d.give o []) .nothing r
      | some o, some v =>
        if o.takesValue then do
          options s (← (← d.settle pending).give o v) .nothing r
        else .error (.fault (.unexpectedValue o (shownText v)))
    | _, _, .short letter =>
      if letter = "h" then do
        let _ ← d.settle pending
        .error (.help s.page)
      else .error (.fault (.unexpectedArgument s!"-{letter}"))
    | _, _, .plain => .error (.fault (.unknownSubcommand (shownText a)))

/-- The settings that a command line asks for. The first argument is the path of the program. -/
def parse (env : Environment) (args : List (List UInt8)) : Except Stop Settings :=
  options ⟨args.headD [], env⟩ .empty .nothing args.tail

end MigrationClient.CommandLine
