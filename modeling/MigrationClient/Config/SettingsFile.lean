import MigrationClient.Config.Placeholder
import MigrationClient.Environment
import MigrationClient.Error
import MigrationClient.Toml.Decoding
import MigrationClient.Toml.Document

/-!
# Settings files

A settings file is a TOML document that names the endpoint of the service and may say how much
is logged. Placeholders in its text stand for values of the environment and are filled in before
the document is read.
-/

namespace MigrationClient

open Toml

structure LoggingSection where
  verbose : Option Bool
  deriving DecidableEq, Repr

structure SettingsFile where
  endpoint : String
  logging : Option LoggingSection
  deriving DecidableEq, Repr

namespace SettingsFile

def verbose (f : SettingsFile) : Bool := (f.logging.bind (·.verbose)).getD false

/-! ## Reading -/

/-- The endpoint in the section `api`. -/
def readApi : Value → Except Fault String :=
  Value.single "struct ApiSection" "endpoint" Value.string? (missing "endpoint")

def readLogging (v : Value) : Except Fault LoggingSection :=
  (v.single "struct LoggingSection" "verbose" (fun v => v.boolean?.map some) fun _ => .ok none).map
    LoggingSection.mk

/-- What the entries of a document so far say. -/
structure Draft where
  endpoint : Option String
  logging : Option LoggingSection
  deriving DecidableEq, Repr

/-- The settings in the entries of a document that begins at a given place. -/
def ofEntries (start : Span) (es : Entries) : Except Fault SettingsFile := do
  let draft ← es.readFields
    [("api", fun d v => (readApi v).map fun e => { d with endpoint := some e }),
      ("logging", fun d v => (readLogging v).map fun l => { d with logging := some l })]
    (⟨none, none⟩ : Draft)
  match draft.endpoint with
  | some e => .ok ⟨e, draft.logging⟩
  | none => missing "api" start

/-- The settings in a document. -/
def ofDocument (document : List Char) : Except Fault SettingsFile := do
  ofEntries ⟨document.length, document.length⟩ (← Toml.parse document)

/-- The settings in a text with placeholders. -/
def ofText (env : Environment) (text : String) : Except Error SettingsFile :=
  let document := Placeholder.fill env.text? text.toList
  (ofDocument document).mapError fun f => .config (.document (f.report document))

end SettingsFile

end MigrationClient
