import MigrationClient.Text.Utf8

/-!
# The environment

Named values that a program is given. The environment is a list of texts `NAME=value`; the value
of a name is what follows it in the first text that begins with the name and an equals sign.
-/

namespace MigrationClient

open Text

structure Environment where
  entries : List (List UInt8)
  deriving DecidableEq, Repr

namespace Environment

def empty : Environment := ⟨[]⟩

/-- What an entry of some name begins with. -/
def leader (name : List UInt8) : List UInt8 := name ++ [61]

/-- Whether a name can be asked for at all. -/
def isName (name : List UInt8) : Bool := !name.isEmpty && !name.contains 0

/-- The value of a name. -/
def find? (env : Environment) (name : List UInt8) : Option (List UInt8) :=
  if isName name then
    (env.entries.find? (leader name).isPrefixOf).map (·.drop (leader name).length)
  else none

/-- The environment in which a name has a value; no other entry for the name stays. -/
def set (env : Environment) (name value : List UInt8) : Environment :=
  ⟨env.entries.filter (fun e => !(leader name).isPrefixOf e) ++ [leader name ++ value]⟩

/-- The environment in which a name has no value. -/
def unset (env : Environment) (name : List UInt8) : Environment :=
  ⟨env.entries.filter fun e => !(leader name).isPrefixOf e⟩

/-- The value of a name if it is text. -/
def text? (env : Environment) (name : String) : Option String :=
  (env.find? (Utf8.ofString name)).bind Utf8.toString?

end Environment

end MigrationClient
