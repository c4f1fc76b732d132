import MigrationClient.Text.Utf8

/-!
# Headers

Named values of a request or a response. Names are kept in lower case, and lists of headers in
the order of their names; headers of one name keep their order.
-/

namespace MigrationClient.Http

open Text

structure Header where
  name : List UInt8
  value : List UInt8
  deriving DecidableEq, Repr

namespace Header

/-- A byte that a name may hold. -/
def isNameByte (b : UInt8) : Bool :=
  (48 ≤ b && b ≤ 57) || (65 ≤ b && b ≤ 90) || (97 ≤ b && b ≤ 122) ||
    (Utf8.ofString "!#$%&'*+-.^_`|~").contains b

def isName (name : List UInt8) : Bool := !name.isEmpty && name.all isNameByte

/-- A byte that a value may hold. -/
def isValueByte (b : UInt8) : Bool := (32 ≤ b && b != 127) || b = 9

def isValue (value : List UInt8) : Bool := value.all isValueByte

def lowerByte (b : UInt8) : UInt8 := if 65 ≤ b && b ≤ 90 then b + 32 else b

def lower (h : Header) : Header := { h with name := h.name.map lowerByte }

/-- The order of names, byte by byte. -/
def nameLe : List UInt8 → List UInt8 → Bool
  | [], _ => true
  | _ :: _, [] => false
  | a :: as, b :: bs => if a = b then nameLe as bs else a < b

/-- Headers in the order of their names. -/
def sort (hs : List Header) : List Header := hs.mergeSort fun a b => nameLe a.name b.name

/-- The first value of a name. -/
def find? (hs : List Header) (name : String) : Option (List UInt8) :=
  (hs.find? fun h => h.name = Utf8.ofString name).map (·.value)

@[simp] theorem mem_sort {hs : List Header} {h : Header} : h ∈ sort hs ↔ h ∈ hs :=
  List.mem_mergeSort

theorem find?_eq_none_iff {hs : List Header} {name : String} :
    find? hs name = none ↔ ∀ h ∈ hs, h.name ≠ Utf8.ofString name := by
  simp [find?]

end Header

end MigrationClient.Http
