import MigrationClient.CommandLine.Grammar
import MigrationClient.Config.Settings

/-!
# Writing command lines

The arguments that ask for some settings: the options in any order, then the subcommand, and its
identifier after an escape.
-/

namespace MigrationClient.CommandLine

open Text

/-- An option as one argument, with its value if it has one. -/
def LongOption.argument (o : LongOption) (value : Option (List UInt8)) : List UInt8 :=
  Utf8.ofString s!"--{o.name}" ++ (value.map fun v => 61 :: v).getD []

/-- The options that are present in some settings. -/
def optionArguments (s : Settings) : List (List UInt8) :=
  (s.endpoint.map fun e => LongOption.endpoint.argument (some (Utf8.ofString e))).toList ++
    (s.config.map fun p => LongOption.config.argument (some p)).toList ++
    (if s.verbose then [LongOption.verbose.argument none] else []) ++
    (if s.jsonLogs then [LongOption.jsonLogs.argument none] else [])

/-- An operation as a subcommand with its identifier. -/
def operationArguments : Operation → List (List UInt8)
  | .resources => [Utf8.ofString Subcommand.resources.name]
  | .reset => [Utf8.ofString Subcommand.reset.name]
  | .migrateTenant t =>
    [Utf8.ofString Subcommand.migrateTenant.name, Utf8.ofString "--", Utf8.ofString t]
  | .evacuateHost h =>
    [Utf8.ofString Subcommand.evacuateHost.name, Utf8.ofString "--", Utf8.ofString h]

end MigrationClient.CommandLine
