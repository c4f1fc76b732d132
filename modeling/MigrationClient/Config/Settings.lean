import MigrationClient.Config.SettingsFile
import MigrationClient.Config.Validation
import MigrationClient.Log.Event
import MigrationClient.Operation

/-!
# Settings

What one run is to do: the operation, the endpoint it is sent to, and how much is logged. A
settings file fills in what the command line and the environment left open.
-/

namespace MigrationClient

structure Settings where
  endpoint : Option String
  config : Option (List UInt8)
  verbose : Bool
  jsonLogs : Bool
  operation : Operation
  deriving DecidableEq, Repr

/-- What a run finds around it: the environment, and what reading a file gives. -/
structure World where
  env : Environment
  read : List UInt8 → Except Storage.Fault (List UInt8)

/-- The settings in the file at a path. -/
def SettingsFile.ofPath (w : World) (path : List UInt8) : Except Error SettingsFile := do
  let text ← ((w.read path).bind Storage.toText).mapError .io
  SettingsFile.ofText w.env text

namespace Settings

/-- The endpoint that counts when nothing names one. -/
def defaultEndpoint : String := "http://localhost:5000"

def effectiveEndpoint (s : Settings) : String := s.endpoint.getD defaultEndpoint

/-! ## Merging -/

/-- The settings with what a file says about everything left open. -/
def fillIn (s : Settings) (f : SettingsFile) : Settings :=
  { s with endpoint := some (s.endpoint.getD f.endpoint), verbose := s.verbose || f.verbose }

/-- The settings together with those of the file they name, if they name one. -/
def merge (w : World) (s : Settings) : Except Error Settings :=
  match s.config with
  | none => .ok s
  | some path => (SettingsFile.ofPath w path).map s.fillIn

/-- The settings after an attempt to merge; a failed one changes nothing. -/
def afterMerge (w : World) (s : Settings) : Settings :=
  match s.merge w with
  | .ok t => t
  | .error _ => s

/-- What merging logs. -/
def mergeEvents (s : Settings) : List Log.Event :=
  match s.config with
  | none => []
  | some path =>
    [⟨.debug, "pumphouse_api::config::cli",
      s!"Loading config file: {Text.Utf8.toStringLossy path}"⟩]

/-! ## Validation -/

/-- Accepts settings with a usable endpoint and, where one is needed, an identifier. -/
def validate (s : Settings) : Except Error Unit := do
  Validation.url "endpoint" s.effectiveEndpoint
  match s.operation with
  | .migrateTenant tenant => Validation.notBlank "tenant_id" tenant
  | .evacuateHost host => Validation.notBlank "host_name" host
  | .resources | .reset => .ok ()

/-- **What valid settings are**: the endpoint is valid, and an identifier is not blank. -/
theorem validate_eq_ok_iff {s : Settings} :
    s.validate = .ok () ↔ Validation.url "endpoint" s.effectiveEndpoint = .ok () ∧
      ∀ id, s.operation = .migrateTenant id ∨ s.operation = .evacuateHost id →
        ∃ c ∈ id.toList, Text.isBlank c = false := by
  unfold validate
  cases Validation.url "endpoint" s.effectiveEndpoint with
  | error e =>
    refine ⟨fun h => ?_, fun h => ?_⟩
    · cases h
    · cases h.1
  | ok =>
    change (match s.operation with
      | .migrateTenant tenant => Validation.notBlank "tenant_id" tenant
      | .evacuateHost host => Validation.notBlank "host_name" host
      | .resources | .reset => .ok ()) = .ok () ↔ _
    cases s.operation <;> simp [Validation.notBlank_eq_ok_iff]

end Settings

end MigrationClient
