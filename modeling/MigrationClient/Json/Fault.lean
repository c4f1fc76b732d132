import MigrationClient.Found
import MigrationClient.Json.Value

/-!
# Faults of JSON texts

Why a text could not be read, and where. A fault knows how many bytes were left when it was
noticed; line and column are counted only when it is told.
-/

namespace MigrationClient.Json

open Text

inductive Cause where
  | eofInValue
  | eofInString
  | eofInList
  | eofInObject
  | expectedValue
  | expectedIdent
  | expectedColon
  | expectedListEnd
  | expectedObjectEnd
  | keyNotString
  | trailingComma
  | trailingCharacters
  | invalidNumber
  | numberOutOfRange
  | invalidEscape
  | loneSurrogate
  | endOfHexEscape
  | controlCharacter
  | invalidUnicode
  | tooDeep
  | invalidType (found : Found) (expected : String)
  | invalidValue (found : Found) (expected : String)
  | invalidLength (length : Nat) (expected : String)
  | missingField (name : String)
  | duplicateField (name : String)
  | unknownVariant (name : String) (known : List String)
  deriving DecidableEq, Repr

/-- The names with backquotes, as one or several that were expected. -/
def oneOf (names : List String) : String :=
  let quoted := names.map fun n => s!"`{n}`"
  match quoted with
  | [] => "there are no variants"
  | [a] => s!"expected {a}"
  | [a, b] => s!"expected {a} or {b}"
  | _ => "expected one of " ++ ", ".intercalate quoted

def Cause.message : Cause → String
  | eofInValue => "EOF while parsing a value"
  | eofInString => "EOF while parsing a string"
  | eofInList => "EOF while parsing a list"
  | eofInObject => "EOF while parsing an object"
  | expectedValue => "expected value"
  | expectedIdent => "expected ident"
  | expectedColon => "expected `:`"
  | expectedListEnd => "expected `,` or `]`"
  | expectedObjectEnd => "expected `,` or `\x7d`"
  | keyNotString => "key must be a string"
  | trailingComma => "trailing comma"
  | trailingCharacters => "trailing characters"
  | invalidNumber => "invalid number"
  | numberOutOfRange => "number out of range"
  | invalidEscape => "invalid escape"
  | loneSurrogate => "lone leading surrogate in hex escape"
  | endOfHexEscape => "unexpected end of hex escape"
  | controlCharacter => "control character (\\u0000-\\u001F) found while parsing a string"
  | invalidUnicode => "invalid unicode code point"
  | tooDeep => "recursion limit exceeded"
  | invalidType f e => s!"invalid type: {f.describe layout}, expected {e}"
  | invalidValue f e => s!"invalid value: {f.describe layout}, expected {e}"
  | invalidLength n e => s!"invalid length {String.ofList (decimal n)}, expected {e}"
  | missingField n => s!"missing field `{n}`"
  | duplicateField n => s!"duplicate field `{n}`"
  | unknownVariant n known => s!"unknown variant `{n}`, {oneOf known}"

/-- A cause, and the number of bytes that were left. A fault about the shape of a value is placed
only when the value has been left behind. -/
structure Fault where
  cause : Cause
  left : Nat
  placed : Bool
  deriving DecidableEq, Repr

/-- A place in a text, counted in bytes. -/
structure Place where
  line : Nat
  column : Nat
  deriving DecidableEq, Repr

/-- The place after some bytes. -/
def Place.after (bytes : List UInt8) : Place :=
  bytes.foldl (fun p b => if b = 10 then ⟨p.line + 1, 0⟩ else ⟨p.line, p.column + 1⟩) ⟨1, 0⟩

/-- A fault as it is told: a cause, and a place unless the fault concerns no place in a text. -/
structure Report where
  cause : Cause
  place : Option Place
  deriving DecidableEq, Repr

/-- The report of a fault that arose while the text was read. -/
def Fault.report (text : List UInt8) (f : Fault) : Report :=
  ⟨f.cause, if f.placed then some (Place.after (text.take (text.length - f.left))) else none⟩

def Report.message (r : Report) : String :=
  match r.place with
  | none => r.cause.message
  | some p =>
    s!"{r.cause.message} at line {String.ofList (decimal p.line)} column {String.ofList (decimal p.column)}"

end MigrationClient.Json
