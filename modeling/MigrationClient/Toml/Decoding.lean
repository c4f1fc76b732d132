import MigrationClient.Toml.Value

/-!
# Decoding TOML values

How values are read as strings, booleans and records of one field. Whatever is passed over has to
be sound all the same: a number that no type holds is a fault wherever it stands.
-/

namespace MigrationClient.Toml

/-! ## Values passed over -/

mutual

/-- The first number in a value that no type holds. -/
def Value.tooLarge? : Value → Option Span
  | .array _ _ items => tooLargeInItems items
  | .table _ _ entries => tooLargeInEntries entries
  | v => if v.isTooLarge then some v.span else none

def tooLargeInItems : List Value → Option Span
  | [] => none
  | v :: r => v.tooLarge?.or (tooLargeInItems r)

def tooLargeInEntries : List (String × Value) → Option Span
  | [] => none
  | (_, v) :: r => v.tooLarge?.or (tooLargeInEntries r)

end

/-- Passes over a value. -/
def Value.ignore (v : Value) : Except Fault Unit :=
  match v.tooLarge? with
  | some span => .error ⟨.numberTooLarge, span⟩
  | none => .ok ()

/-! ## Expected values -/

/-- The fault of a value of the wrong kind. -/
def Value.mismatch (expected : String) (v : Value) : Except Fault α :=
  if v.isTooLarge then .error ⟨.numberTooLarge, v.span⟩
  else .error ⟨.invalidType v.found expected, v.span⟩

def Value.string? : Value → Except Fault String
  | .string _ s => .ok s
  | v => v.mismatch "a string"

def Value.boolean? : Value → Except Fault Bool
  | .boolean _ b => .ok b
  | v => v.mismatch "a boolean"

/-- Reads entries by key into the fields of a record under construction, in the order of the
keys. A key without a reader is passed over. -/
def Entries.readFields (readers : List (String × (α → Value → Except Fault α))) (start : α)
    (es : Entries) : Except Fault α :=
  es.foldlM (fun a (k, v) =>
    match readers.lookup k with
    | some read => read a v
    | none => v.ignore.map fun _ => a) start

/-- A record of one field: a table with an entry for it, or an array with the field in front. A
date counts as a table without entries. -/
def Value.single (expected field : String) (read : Value → Except Fault α)
    (absent : Span → Except Fault α) : Value → Except Fault α
  | .table span _ es => do
    match ← Entries.readFields [(field, fun _ v => (read v).map some)] none es with
    | some a => .ok a
    | none => absent span
  | .date span => absent span
  | .array _ _ (v :: _) => read v
  | .array span _ [] => .error ⟨.invalidLength 0 s!"{expected} with 1 element", span⟩
  | v => v.mismatch expected

/-- The fault of a record in which a field is missing. -/
def missing (field : String) (span : Span) : Except Fault α := .error ⟨.missingField field, span⟩

end MigrationClient.Toml
