import MigrationClient.Operation
import MigrationClient.Text.Split
import MigrationClient.Text.Terminal
import MigrationClient.Text.Utf8

/-!
# The words of the command line

The options, the subcommands, and what kind of argument some bytes are by the dashes in front.
-/

namespace MigrationClient.CommandLine

open Text

/-! ## Options -/

inductive LongOption where
  | endpoint | config | verbose | jsonLogs | help
  deriving DecidableEq, Repr

namespace LongOption

def all : List LongOption := [endpoint, config, verbose, jsonLogs, help]

def name : LongOption → String
  | endpoint => "endpoint"
  | config => "config"
  | verbose => "verbose"
  | jsonLogs => "json-logs"
  | help => "help"

/-- The name of the value of an option that takes one. -/
def valueName? : LongOption → Option String
  | endpoint => some "ENDPOINT"
  | config => some "CONFIG"
  | _ => none

def takesValue (o : LongOption) : Bool := o.valueName?.isSome

/-- The option as it is shown. -/
def shown (o : LongOption) : String :=
  match o.valueName? with
  | some v => s!"--{o.name} <{v}>"
  | none => s!"--{o.name}"

def ofName? (name : List UInt8) : Option LongOption :=
  all.find? fun o => Utf8.ofString o.name = name

end LongOption

/-! ## Subcommands -/

inductive Subcommand where
  | resources | reset | migrateTenant | evacuateHost
  deriving DecidableEq, Repr

namespace Subcommand

def all : List Subcommand := [resources, reset, migrateTenant, evacuateHost]

def name : Subcommand → String
  | resources => "resources"
  | reset => "reset"
  | migrateTenant => "migrate-tenant"
  | evacuateHost => "evacuate-host"

/-- The name of the identifier that a subcommand takes. -/
def operandName? : Subcommand → Option String
  | migrateTenant => some "TENANT_ID"
  | evacuateHost => some "HOST_NAME"
  | _ => none

def about : Subcommand → String
  | resources => "GET /resources"
  | reset => "POST /reset"
  | migrateTenant => "POST /tenants/<TENANT_ID>"
  | evacuateHost => "POST /hosts/<HOST_NAME>"

def ofName? (name : List UInt8) : Option Subcommand :=
  all.find? fun c => Utf8.ofString c.name = name

/-- The operation of a subcommand with its identifier; it has none if the identifier is
missing. -/
def operation? : Subcommand → Option String → Option Operation
  | resources, _ => some .resources
  | reset, _ => some .reset
  | migrateTenant, id => id.map .migrateTenant
  | evacuateHost, id => id.map .evacuateHost

end Subcommand

/-- The name that asks for help where a subcommand is expected. -/
def helpName : String := "help"

/-- What may stand where a subcommand is expected. -/
inductive Choice where
  | run (c : Subcommand)
  | help
  deriving DecidableEq, Repr

def Choice.ofName? (name : List UInt8) : Option Choice :=
  match Subcommand.ofName? name with
  | some c => some (.run c)
  | none => if Utf8.ofString helpName = name then some .help else none

/-! ## Arguments -/

/-- An argument by the dashes in front of it. Of an argument with one dash only the first letter
counts; a lone dash is an argument like any other. -/
inductive Argument where
  | escape
  | long (name : List UInt8) (value : Option (List UInt8))
  | short (letter : String)
  | plain
  deriving DecidableEq, Repr

/-- The text of bytes as it is shown. -/
def shownText (b : List UInt8) : String := String.ofList (Terminal.strip (Utf8.decodeLossy b))

/-- The first letter of some bytes as it is shown, or all of them if none can be told. -/
def firstLetter (a : UInt8) (r : List UInt8) : String :=
  match (Utf8.next a r).1 with
  | some c => String.ofList (Terminal.strip [c])
  | none => shownText (a :: r)

/-- The name and the value of a long option. -/
def splitLong (b : List UInt8) : List UInt8 × Option (List UInt8) :=
  let name := b.takeWhile (· ≠ 61)
  (name, (b.drop name.length).head?.map fun _ => b.drop (name.length + 1))

def Argument.ofBytes : List UInt8 → Argument
  | [45, 45] => .escape
  | 45 :: 45 :: r => .long (splitLong r).1 (splitLong r).2
  | 45 :: a :: r => .short (firstLetter a r)
  | _ => .plain

/-! ## Programs -/

/-- The last name of the path that a program was started by. -/
def fileName? (path : List UInt8) : Option (List UInt8) :=
  ((splitBy (· == 47) path).filter fun n => n ≠ [] ∧ n ≠ [46]).getLast?.filter (· ≠ [46, 46])

/-- The name of the program when it was started by no usable one. -/
def defaultProgram : String := "pumphouse-api"

end MigrationClient.CommandLine
