import MigrationClient.Found
import MigrationClient.Text.Utf8

/-!
# Faults of TOML documents

Why a document was refused, and which part of it the fault concerns. A report shows the line of
that part with a mark below it.
-/

namespace MigrationClient.Toml

open Text

/-- A part of a document, told by how many characters are left at its start and at its end. -/
structure Span where
  start : Nat
  stop : Nat
  deriving DecidableEq, Repr

inductive Cause where
  | malformed
  | redefined
  | tooDeep
  | numberTooLarge
  | missingField (name : String)
  | invalidType (found : Found) (expected : String)
  | invalidLength (length : Nat) (expected : String)
  deriving DecidableEq, Repr

structure Fault where
  cause : Cause
  span : Span
  deriving DecidableEq, Repr

/-- Numbers in messages have all their digits in their places. -/
def layout : Decimal.Layout := ⟨none, none, "inf", "NaN"⟩

def Cause.message : Cause → String
  | malformed => "malformed document"
  | redefined => "duplicate key"
  | tooDeep => "values or keys nested too deeply"
  | numberTooLarge => "number too large"
  | missingField name => s!"missing field `{name}`"
  | invalidType found expected => s!"invalid type: {found.describe layout}, expected {expected}"
  | invalidLength n expected => s!"invalid length {String.ofList (decimal n)}, expected {expected}"

/-- Whether the document is well-formed and only its shape is wrong. -/
def Cause.isShape : Cause → Bool
  | missingField _ | invalidType _ _ | invalidLength _ _ => true
  | _ => false

/-- A fault with the line it is shown on. Line and column count from zero; the mark is as long as
the part in bytes, as far as the line goes. -/
structure Report where
  cause : Cause
  line : Nat
  column : Nat
  source : String
  mark : Nat
  deriving DecidableEq, Repr

/-- The report of a fault in a document. -/
def Fault.report (document : List Char) (f : Fault) : Report :=
  let before := document.take (document.length - f.span.start)
  let part := (document.drop before.length).take (f.span.start - f.span.stop)
  let column := (before.reverse.takeWhile (· ≠ '\n')).length
  let source := (document.drop (before.length - column)).takeWhile (· ≠ '\n')
  { cause := f.cause
    line := before.count '\n'
    column
    source := String.ofList source
    mark := max 1 (min (Utf8.size part) (Utf8.size source - column)) }

def Report.message (r : Report) : String :=
  let number := decimal (r.line + 1)
  let gutter := List.replicate (number.length + 1) ' ' ++ ['|']
  let lines : List (List Char) :=
    ["TOML parse error at line ".toList ++ number ++ ", column ".toList ++ decimal (r.column + 1),
      gutter,
      number ++ " | ".toList ++ r.source.toList,
      gutter ++ List.replicate (r.column + 1) ' ' ++ List.replicate r.mark '^',
      r.cause.message.toList]
  String.ofList (lines.flatMap (· ++ ['\n']))

end MigrationClient.Toml
