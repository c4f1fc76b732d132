import MigrationClient.CommandLine.Grammar

/-!
# Help pages

A page says what the program or a subcommand is for and lists its words, each with a
description. Descriptions stand in a column of their own.
-/

namespace MigrationClient.CommandLine

open Text

/-- A section of a page: a title, and words with their descriptions. -/
structure Section where
  title : String
  rows : List (String × String)
  deriving DecidableEq, Repr

structure Page where
  about : String
  usage : String
  sections : List Section
  deriving DecidableEq, Repr

/-- A text with all lines but the first moved to the right. -/
def indented (width : Nat) (s : List Char) : List Char :=
  s.flatMap fun c => if c = '\n' then c :: List.replicate width ' ' else [c]

/-- The width of the longest word. -/
def Section.width (s : Section) : Nat := (s.rows.map fun r => r.1.length).foldl max 0

def Section.lines (s : Section) : List Char :=
  s.title.toList ++ ":\n".toList ++ s.rows.flatMap fun (word, text) =>
    let left := "  ".toList ++ word.toList ++ List.replicate (s.width - word.length + 2) ' '
    left ++ indented left.length text.toList ++ ['\n']

def Page.text (p : Page) : String :=
  String.ofList (p.about.toList ++ "\n\nUsage: ".toList ++ p.usage.toList ++ ['\n'] ++
    p.sections.flatMap fun s => '\n' :: s.lines)

/-! ## The pages of this program -/

def helpText : String := "Print this message or the help of the given subcommand(s)"

/-- The page of the program; it shows the endpoint that the environment gives. -/
def mainPage (program endpoint : String) : Page where
  about := "Drive the REST endpoints of a pumphouse migration service"
  usage := s!"{program} [OPTIONS] <COMMAND>"
  sections :=
    [⟨"Commands", Subcommand.all.map (fun c => (c.name, c.about)) ++ [(helpName, helpText)]⟩,
      ⟨"Options",
        [("    --endpoint <ENDPOINT>",
            s!"Base URL of the service; overrides the config file [env: PUMPHOUSE_ENDPOINT={endpoint}]"),
          ("    --config <CONFIG>", "TOML file with an [api] section"),
          ("    --verbose", "Enable verbose output"),
          ("    --json-logs", "Emit logs as JSON lines"),
          ("-h, --help", "Print help")]⟩]

/-- The page of a subcommand, named after the program if that has a name. -/
def subcommandPage (program : Option String) (c : Subcommand) : Page where
  about := c.about
  usage := " ".intercalate
    (program.toList ++ [c.name] ++ (c.operandName?.map fun n => s!"<{n}>").toList)
  sections :=
    (c.operandName?.map fun n => Section.mk "Arguments" [(s!"<{n}>", "")]).toList ++
      [⟨"Options", [("-h, --help", "Print help")]⟩]

/-- The page of the subcommand that asks for help. -/
def helpPage (program : Option String) : Page where
  about := helpText
  usage := " ".intercalate (program.toList ++ ["help [COMMAND]..."])
  sections := [⟨"Arguments", [("[COMMAND]...", "Print help for the subcommand(s)")]⟩]

end MigrationClient.CommandLine
