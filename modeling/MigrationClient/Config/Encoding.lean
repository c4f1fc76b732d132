import MigrationClient.Config.Settings
import MigrationClient.Json.Variant

/-!
# Settings as JSON

How operations, settings and the contents of settings files are written as JSON and read back.
Records are objects with a member for each field, in the order of the fields; they can also be
read as arrays of the fields. A field that may be empty can be left out of an object.
-/

namespace MigrationClient

open Json

/-! ## Operations -/

namespace Operation

/-- How an operation is written: by its name alone, or with its identifier in a field. -/
inductive Form where
  | plain (op : Operation)
  | identified (field : String) (make : String → Operation)

/-- The forms by the names of the operations. -/
def forms : List (String × Form) :=
  [("Resources", .plain .resources), ("Reset", .plain .reset),
    ("MigrateTenant", .identified "tenant_id" .migrateTenant),
    ("EvacuateHost", .identified "host_name" .evacuateHost)]

def Form.variant (name : String) : Form → Variant Operation
  | plain op => .unit op
  | identified field make =>
    let d := Decoder.single s!"struct variant Command::{name}" field .string (required field)
    .content (d.reader.map make)

def variants : Variants Operation := forms.map fun (name, form) => (name, form.variant name)

def decoder : Decoder Operation := variants.decoder

def toJson : Operation → Json.Value
  | .resources => .string "Resources"
  | .reset => .string "Reset"
  | .migrateTenant t => .object [("MigrateTenant", .object [("tenant_id", .string t)])]
  | .evacuateHost h => .object [("EvacuateHost", .object [("host_name", .string h)])]

end Operation

/-! ## Settings -/

/-- A path that is text. -/
def pathDecoder : Decoder (List UInt8) :=
  .scalar "path string" fun t => (acceptString "path string" t).map Text.Utf8.ofString

namespace Settings

/-- The fields of the settings read so far. -/
structure Fields where
  endpoint : Option (Option String)
  config : Option (Option (List UInt8))
  verbose : Option Bool
  jsonLogs : Option Bool
  operation : Option Operation

def readField (d : Fields) (key : String) : Except Cause (Json.Reader Fields) :=
  match key with
  | "endpoint" =>
    readInto Decoder.string.nullable.reader key d.endpoint fun a => { d with endpoint := some a }
  | "config" =>
    readInto pathDecoder.nullable.reader key d.config fun a => { d with config := some a }
  | "verbose" => readInto Decoder.boolean.reader key d.verbose fun a => { d with verbose := some a }
  | "json_logs" =>
    readInto Decoder.boolean.reader key d.jsonLogs fun a => { d with jsonLogs := some a }
  | "command" =>
    readInto Operation.decoder.reader key d.operation fun a => { d with operation := some a }
  | _ => passOver d

def ofFields (d : Fields) : Except Cause Settings := do
  let verbose ← required "verbose" d.verbose
  let jsonLogs ← required "json_logs" d.jsonLogs
  let operation ← required "command" d.operation
  return ⟨d.endpoint.join, d.config.join, verbose, jsonLogs, operation⟩

def decoder : Decoder Settings :=
  let expected := "struct CliConfig"
  let all := s!"{expected} with 5 elements"
  let items := (Body.item Decoder.string.nullable.reader 0 all).andThen <|
    (Body.item pathDecoder.nullable.reader 1 all).andThen <|
    (Body.item Decoder.boolean.reader 2 all).andThen <|
    (Body.item Decoder.boolean.reader 3 all).andThen (Body.item Operation.decoder.reader 4 all)
  .ofShape expected
    (some (items.map fun (e, c, v, j, o) => ⟨e, c, v, j, o⟩))
    (some (.members readField ⟨none, none, none, none, none⟩ ofFields))

/-- The settings as JSON. There is no JSON for a path that is not text. -/
def toJson (s : Settings) : Option Json.Value := do
  let config ←
    match s.config with
    | none => some .null
    | some path => (Text.Utf8.toString? path).map .string
  return .object [("endpoint", .ofOption .string s.endpoint), ("config", config),
    ("verbose", .boolean s.verbose), ("json_logs", .boolean s.jsonLogs),
    ("command", s.operation.toJson)]

end Settings

/-! ## Settings files -/

namespace SettingsFile

def loggingDecoder : Decoder LoggingSection :=
  let d := Decoder.single "struct LoggingSection" "verbose" Decoder.boolean.nullable fun v =>
    .ok v.join
  ⟨d.reader.map LoggingSection.mk, d.ofNull.map LoggingSection.mk⟩

def apiDecoder : Decoder String :=
  .single "struct ApiSection" "endpoint" .string (required "endpoint")

/-- The sections read so far. -/
structure Sections where
  api : Option String
  logging : Option (Option LoggingSection)

def readSection (d : Sections) (key : String) : Except Cause (Json.Reader Sections) :=
  match key with
  | "api" => readInto apiDecoder.reader key d.api fun a => { d with api := some a }
  | "logging" =>
    readInto loggingDecoder.nullable.reader key d.logging fun a => { d with logging := some a }
  | _ => passOver d

def decoder : Decoder SettingsFile :=
  let expected := "struct TomlConfig"
  let all := s!"{expected} with 2 elements"
  let items :=
    (Body.item apiDecoder.reader 0 all).andThen (.item loggingDecoder.nullable.reader 1 all)
  .ofShape expected
    (some (items.map fun (e, l) => ⟨e, l⟩))
    (some (.members readSection ⟨none, none⟩ fun d =>
      (required "api" d.api).map fun e => ⟨e, d.logging.join⟩))

def toJson (f : SettingsFile) : Json.Value :=
  .object [("api", .object [("endpoint", .string f.endpoint)]),
    ("logging", .ofOption
      (fun l => .object [("verbose", .ofOption .boolean l.verbose)]) f.logging)]

end SettingsFile

end MigrationClient
