import MigrationClient.Decimal.Layout
import MigrationClient.Text.Quoted

/-!
# What was found

A reader that expects one kind of value and meets another says which one it met. The two
data formats share the words and differ in how they lay out floating-point numbers.
-/

namespace MigrationClient

open Text

/-- A value as an error names it. -/
inductive Found where
  | null
  | boolean (b : Bool)
  | integer (i : Int)
  | longInteger (i : Int)
  | float (f : Decimal.Binary64)
  | string (s : String)
  | sequence
  | map
  | unitVariant
  deriving DecidableEq, Repr

namespace Found

/-- The words for a value. An integer of more than 64 bits is named with its width. -/
def describe (layout : Decimal.Layout) : Found → String
  | null => "null"
  | boolean true => "boolean `true`"
  | boolean false => "boolean `false`"
  | integer i => s!"integer `{String.ofList (decimalInt i)}`"
  | longInteger i =>
    let width := if i < Int.pow 2 127 then "i128" else "u128"
    s!"integer `{String.ofList (decimalInt i)}` as {width}"
  | float f => s!"floating point `{String.ofList (layout.text f)}`"
  | string s => s!"string {Quoted.quote s}"
  | sequence => "sequence"
  | map => "map"
  | unitVariant => "unit variant"

end Found

end MigrationClient
