import MigrationClient.Storage.Fault
import MigrationClient.Text.Split

/-!
# Files and directories

A tree of files in memory, and how a path is followed in it one name at a time. Every name on the
way has to lead out of a directory, also an empty one and a dot, which lead nowhere else.
-/

namespace MigrationClient.Storage

open Text

abbrev Name := List UInt8

/-- The names on the way down to a file or a directory. -/
abbrev Location := List Name

inductive Node where
  | file (content : List UInt8)
  | directory
  deriving DecidableEq, Repr

/-- The nodes below the root, and the directory in which relative paths begin. -/
structure Tree where
  nodes : List (Location × Node)
  current : Location
  deriving Repr

/-- The longest name, and the longest path. -/
def maxName : Nat := 255

def maxPath : Nat := 4095

namespace Tree

/-! ## Nodes -/

/-- The node at a location. -/
def node? (t : Tree) (l : Location) : Option Node :=
  if l.isEmpty then some .directory else t.nodes.lookup l

/-- The tree without the node at a location. -/
def erase (t : Tree) (l : Location) : Tree :=
  { t with nodes := t.nodes.filter fun n => n.1 ≠ l }

/-- The tree with a node at a location. -/
def put (t : Tree) (l : Location) (n : Node) : Tree :=
  { t.erase l with nodes := (l, n) :: (t.erase l).nodes }

/-- The directories on the way to a location. -/
def parents (l : Location) : List Location := (List.range l.length).map l.take

/-- The tree in which all directories on the way to a location are there. -/
def makeParents (t : Tree) (l : Location) : Tree :=
  (parents l).foldl (fun t d => if (t.node? d).isSome then t else t.put d .directory) t

/-- The tree of a single empty directory below the root, in which paths begin. -/
def start (current : Location) : Tree :=
  (makeParents ⟨[], current⟩ current).put current .directory

/-! ## Paths -/

/-- The names of a path. -/
def names (path : List UInt8) : List Name := splitBy (· == 47) path

/-- One name further. -/
def step (t : Tree) (l : Location) (name : Name) : Except Fault Location :=
  if t.node? l ≠ some .directory then .error .notDirectory
  else if name = [] ∨ name = [46] then .ok l
  else if name = [46, 46] then .ok l.dropLast
  else if name.length > maxName then .error .nameTooLong
  else if (t.node? (l ++ [name])).isNone then .error .notFound
  else .ok (l ++ [name])

/-- Where a path begins. -/
def origin (t : Tree) (path : List UInt8) : Location :=
  if path.head? = some 47 then [] else t.current

/-- Where a path leads. -/
def find (t : Tree) (path : List UInt8) : Except Fault Location :=
  if path.contains 0 then .error .nulInName
  else if path.isEmpty then .error .notFound
  else if path.length > maxPath then .error .nameTooLong
  else (names path).foldlM t.step (t.origin path)

/-- The bytes of the file at a path. -/
def read (t : Tree) (path : List UInt8) : Except Fault (List UInt8) := do
  match t.node? (← t.find path) with
  | some (.file content) => .ok content
  | some .directory => .error .isDirectory
  | none => .error .notFound

/-! ## Changes -/

/-- The names of a path that are to be made, of which none leads up. -/
def target (t : Tree) (path : List UInt8) : Location :=
  t.origin path ++ (names path).filter fun n => n ≠ [] ∧ n ≠ [46]

/-- The tree after a file has been written. A path with a slash at its end makes a directory. -/
def write (t : Tree) (path content : List UInt8) : Tree :=
  let l := t.target path
  let n := if path.getLast? = some 47 then Node.directory else .file content
  (t.makeParents l).put l n

/-- The tree after a file has been removed. -/
def remove (t : Tree) (path : List UInt8) : Tree := t.erase (t.target path)

end Tree

end MigrationClient.Storage
