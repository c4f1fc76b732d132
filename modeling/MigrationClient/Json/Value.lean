import MigrationClient.Decimal.Layout

/-!
# JSON values

A value, and the one text that it is written as: no blanks, characters beyond ASCII as
themselves, the members of objects in the order that the value has them in. Objects that are read
have their members in the order of the keys, each key once.
-/

namespace MigrationClient.Json

open Text

/-- A number: an integer of up to 64 bits, or a floating-point number. -/
inductive Number where
  | integer (i : Int)
  | float (f : Decimal.Binary64)
  deriving DecidableEq, Repr

inductive Value where
  | null
  | boolean (b : Bool)
  | number (n : Number)
  | string (s : String)
  | array (items : List Value)
  | object (members : List (String × Value))
  deriving Repr, Inhabited

/-- The members with one more, in its place; it replaces one of the same key. -/
def insertMember (key : String) (v : Value) : List (String × Value) → List (String × Value)
  | [] => [(key, v)]
  | (k, w) :: r =>
    if key = k then (k, v) :: r
    else if key < k then (key, v) :: (k, w) :: r
    else (k, w) :: insertMember key v r

/-- The object of some members, of which the last of each key counts. -/
def Value.ofMembers (members : List (String × Value)) : Value :=
  .object (members.foldl (fun ms m => insertMember m.1 m.2 ms) [])

def Value.ofOption (f : α → Value) : Option α → Value
  | some a => f a
  | none => .null

/-! ## Writing -/

/-- Numbers have a point or an exponent; the exponent is written from `1e+16` and `1e-6` on. -/
def layout : Decimal.Layout := ⟨some (-5), some 16, "null", "null"⟩

def Number.text : Number → List Char
  | integer i => decimalInt i
  | float f => layout.text f

/-- The controls with an escape of their own. -/
def shortEscape? (c : Char) : Option Char :=
  match c with
  | '"' => some '"'
  | '\\' => some '\\'
  | '\n' => some 'n'
  | '\r' => some 'r'
  | '\t' => some 't'
  | '\x08' => some 'b'
  | '\x0c' => some 'f'
  | _ => none

/-- A character as it stands in a string. -/
def escapeChar (c : Char) : List Char :=
  match shortEscape? c with
  | some e => ['\\', e]
  | none => if c.toNat < 0x20 then "\\u".toList ++ padLeft '0' 4 (hexadecimal c.toNat) else [c]

/-- A string between its quotes. -/
def stringText (s : String) : List Char := '"' :: s.toList.flatMap escapeChar ++ ['"']

mutual

def Value.text : Value → List Char
  | .null => "null".toList
  | .boolean b => if b then "true".toList else "false".toList
  | .number n => n.text
  | .string s => stringText s
  | .array items => '[' :: itemsText true items ++ [']']
  | .object members => '\x7b' :: membersText true members ++ ['\x7d']

/-- Items with commas before all but the first. -/
def itemsText (first : Bool) : List Value → List Char
  | [] => []
  | v :: r => (if first then [] else [',']) ++ v.text ++ itemsText false r

/-- Members with commas before all but the first. -/
def membersText (first : Bool) : List (String × Value) → List Char
  | [] => []
  | (k, v) :: r =>
    (if first then [] else [',']) ++ stringText k ++ ':' :: v.text ++ membersText false r

end

def Value.toString (v : Value) : String := String.ofList v.text

end MigrationClient.Json
