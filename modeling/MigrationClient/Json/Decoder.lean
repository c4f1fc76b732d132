import MigrationClient.Json.Reader

/-!
# Decoding JSON into types

A decoder reads a value of some type from a text and says what `null` is worth when there is no
text at all. Objects with known members are read by `Decoder.record`: members may come in any
order, unknown ones are passed over, and none may come twice.
-/

namespace MigrationClient.Json

structure Decoder (α : Type) where
  reader : Reader α
  ofNull : Except Cause α

/-- The value of a whole text; an empty one counts as `null`, of which no place is told. -/
def Decoder.decode (d : Decoder α) (text : List UInt8) : Except Report α :=
  if text.isEmpty then d.ofNull.mapError fun c => ⟨c, none⟩ else d.reader.readAll text

/-! ## Values without parts -/

/-- A decoder of values without parts. -/
def Decoder.scalar (expected : String) (accept : Token → Except Cause α) : Decoder α :=
  ⟨.scalar expected accept, accept .null⟩

/-- The fault of a token of the wrong kind. -/
def mismatch (expected : String) (t : Token) : Except Cause α :=
  .error (.invalidType t.found expected)

def acceptString (expected : String) : Token → Except Cause String
  | .string s => .ok s
  | t => mismatch expected t

def acceptBoolean : Token → Except Cause Bool
  | .boolean b => .ok b
  | t => mismatch "a boolean" t

/-- An integer from `low` to `high`. -/
def acceptInteger (expected : String) (low high : Int) : Token → Except Cause Int
  | .number (.integer i) =>
    if low ≤ i ∧ i ≤ high then .ok i else .error (.invalidValue (.integer i) expected)
  | t => mismatch expected t

def acceptFloat : Token → Except Cause Decimal.Binary64
  | .number (.float f) => .ok f
  | .number (.integer i) => .ok (.ofInt i)
  | t => mismatch "f64" t

def acceptUnit : Token → Except Cause Unit
  | .null => .ok ()
  | t => mismatch "unit" t

namespace Decoder

def string : Decoder String := .scalar "a string" (acceptString "a string")

def boolean : Decoder Bool := .scalar "a boolean" acceptBoolean

/-- An integer of one unsigned byte. -/
def byte : Decoder Int := .scalar "u8" (acceptInteger "u8" 0 255)

def signed : Decoder Int := .scalar "i64" (acceptInteger "i64" (-Int.pow 2 63) (Int.pow 2 63 - 1))

def unsigned : Decoder Int := .scalar "u64" (acceptInteger "u64" 0 (Int.pow 2 64 - 1))

def float : Decoder Decimal.Binary64 := .scalar "f64" acceptFloat

def unit : Decoder Unit := .scalar "unit" acceptUnit

def value : Decoder Value := ⟨anyValue maxDepth, .ok .null⟩

/-! ## Values with parts -/

/-- A shape that only brackets have. -/
def ofShape (expected : String) (list object : Option (Body α)) : Decoder α :=
  ⟨Shape.reader ⟨expected, noToken expected, list, object⟩, noToken expected .null⟩

def nullable (d : Decoder α) : Decoder (Option α) := ⟨d.reader.nullable, .ok none⟩

def list (d : Decoder α) : Decoder (List α) := ofShape "a sequence" (some (.items d.reader)) none

/-- One entry put into a list in the order of keys; it replaces one of the same key. -/
def insertEntry (key : String) (a : α) : List (String × α) → List (String × α)
  | [] => [(key, a)]
  | (k, b) :: r =>
    if key = k then (k, a) :: r
    else if key < k then (key, a) :: (k, b) :: r
    else (k, b) :: insertEntry key a r

/-- An object with any keys, in the order of the keys. -/
def map (d : Decoder α) : Decoder (List (String × α)) :=
  ofShape "a map" none
    (some (.members (fun es key => .ok (d.reader.map fun a => insertEntry key a es)) [] .ok))

def pair (a : Decoder α) (b : Decoder β) : Decoder (α × β) :=
  let expected := "a tuple of size 2"
  ofShape expected (some ((Body.item a.reader 0 expected).andThen (.item b.reader 1 expected))) none

end Decoder

/-! ## Records -/

/-- A member that is read into a place of a record under construction. -/
def readInto (d : Reader α) (name : String) (old : Option α) (put : α → σ) :
    Except Cause (Reader σ) :=
  match old with
  | some _ => .error (.duplicateField name)
  | none => .ok (d.map put)

/-- A member that has to be there. -/
def required (name : String) : Option α → Except Cause α
  | some a => .ok a
  | none => .error (.missingField name)

/-- A member that no field has. -/
def passOver (st : σ) : Except Cause (Reader σ) := .ok (Reader.ignored.map fun _ => st)

/-- A record of one field, which is written as an object or as an array. -/
def Decoder.single (expected field : String) (d : Decoder α)
    (finish : Option α → Except Cause α) : Decoder α :=
  .ofShape expected
    (some (.item d.reader 0 s!"{expected} with 1 element"))
    (some (.members
      (fun old key => if key = field then readInto d.reader field old some else passOver old)
      none finish))

end MigrationClient.Json
