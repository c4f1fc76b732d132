import MigrationClient.Toml.Fault

/-!
# TOML values

The values of a document, each with the part of the document it came from. The entries of a
table are in the order of their keys. A table knows how it was written, because that decides
what may still be added to it.
-/

namespace MigrationClient.Toml

open Decimal

/-- How a table came to be: on the way to another table, by a dotted key, under a header of its
own, or in braces. -/
inductive TableKind where
  | implicit | dotted | header | inline
  deriving DecidableEq, Repr

/-- A value. A float that is too large for its type is kept apart, and an array knows whether its
items were written under headers. -/
inductive Value where
  | string (span : Span) (s : String)
  | integer (span : Span) (i : Int)
  | float (span : Span) (f : Binary64)
  | hugeFloat (span : Span)
  | boolean (span : Span) (b : Bool)
  | date (span : Span)
  | array (span : Span) (ofTables : Bool) (items : List Value)
  | table (span : Span) (kind : TableKind) (entries : List (String × Value))
  deriving Repr

abbrev Entries := List (String × Value)

/-- A segment of a key. -/
structure Key where
  name : String
  span : Span
  deriving DecidableEq, Repr

def Value.span : Value → Span
  | string sp _ | integer sp _ | float sp _ | hugeFloat sp | boolean sp _ | date sp
  | array sp _ _ | table sp _ _ => sp

namespace Entries

def find? (key : String) : Entries → Option Value
  | [] => none
  | (k, v) :: r => if key = k then some v else find? key r

/-- The entries with one put into its place; it replaces one of the same key. -/
def put (key : String) (v : Value) : Entries → Entries
  | [] => [(key, v)]
  | (k, w) :: r =>
    if key = k then (k, v) :: r
    else if key < k then (key, v) :: (k, w) :: r
    else (k, w) :: put key v r

/-- Every key stands once, and the keys ascend. -/
def Sorted (es : Entries) : Prop := es.Pairwise fun a b => a.1 < b.1

end Entries

/-- What an error calls a value. -/
def Value.found : Value → Found
  | string _ s => .string s
  | integer _ i => if -Int.pow 2 63 ≤ i ∧ i < Int.pow 2 64 then .integer i else .longInteger i
  | float _ f => .float f
  | hugeFloat _ => .float (.infinite false)
  | boolean _ b => .boolean b
  | date _ => .map
  | array _ _ _ => .sequence
  | table _ _ _ => .map

/-- Whether a value is a number beyond what any type holds. -/
def Value.isTooLarge : Value → Bool
  | integer _ i => i < -Int.pow 2 127 || Int.pow 2 128 ≤ i
  | hugeFloat _ => true
  | _ => false

end MigrationClient.Toml
