import MigrationClient.CommandLine.Page

/-!
# Where parsing stops

A command line that names no run: it asks for help, or something is wrong with it.
-/

namespace MigrationClient.CommandLine

/-- What is wrong with a command line. -/
inductive Fault where
  | unexpectedArgument (shown : String)
  | unknownSubcommand (shown : String)
  | missingValue (o : LongOption)
  | unexpectedValue (o : LongOption) (shown : String)
  | repeated (o : LongOption)
  | notText
  | missingOperand (name : String)
  | missingSubcommand (program : String)
  deriving DecidableEq, Repr

def Fault.message : Fault → String
  | unexpectedArgument a => s!"unexpected argument '{a}' found"
  | unknownSubcommand a => s!"unrecognized subcommand '{a}'"
  | missingValue o => s!"a value is required for '{o.shown}' but none was supplied"
  | unexpectedValue o v => s!"unexpected value '{v}' for '{o.shown}' found; no more were expected"
  | repeated o => s!"the argument '{o.shown}' cannot be used multiple times"
  | notText => "invalid UTF-8 was detected in one or more arguments"
  | missingOperand n => s!"the following required arguments were not provided:\n  <{n}>"
  | missingSubcommand program =>
    let names := ", ".intercalate (Subcommand.all.map (·.name) ++ [helpName])
    s!"'{program}' requires a subcommand but one was not provided\n  [subcommands: {names}]"

/-- Why there is no run: help was asked for, nothing at all was given, or there is a fault. -/
inductive Stop where
  | help (page : Page)
  | nothingGiven (page : Page)
  | fault (f : Fault)
  deriving DecidableEq, Repr

/-- The text that is shown. -/
def Stop.message : Stop → String
  | help page => page.text
  | nothingGiven page => page.text
  | fault f => s!"error: {f.message}"

def Stop.exitCode : Stop → Nat
  | help _ => 0
  | nothingGiven _ => 2
  | fault _ => 2

end MigrationClient.CommandLine
