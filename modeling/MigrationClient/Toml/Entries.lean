import MigrationClient.Toml.Value

/-!
# Adding to tables

How the tables of a document grow. A key with dots leads through tables, making those that are
not there yet. A table can be added to only in the way it was begun: what was written in braces
is closed, and a dotted key neither enters a table that has a header nor adds to one that was
only passed on the way to another.
-/

namespace MigrationClient.Toml

/-- The fault of a key that is already taken. -/
def redefined (k : Key) : Except Fault α := .error ⟨.redefined, k.span⟩

/-- Whether a table of a kind can be passed on the way to another. -/
def TableKind.isOpen (dotted : Bool) : TableKind → Bool
  | .inline => false
  | .header => !dotted
  | _ => true

namespace Entries

/-- Changes the table that a path leads to by `f`, which is also told how that table was begun.
On an array of tables the path goes on in the last of them. -/
def modify (dotted : Bool) (f : TableKind → Entries → Except Fault Entries) (kind : TableKind)
    (es : Entries) : List Key → Except Fault Entries
  | [] => f kind es
  | k :: ks =>
    match find? k.name es with
    | none => do
      let kind := if dotted then TableKind.dotted else .implicit
      let inner ← modify dotted f kind [] ks
      return put k.name (.table k.span kind inner) es
    | some (.table span kind inner) =>
      if kind.isOpen dotted then do
        let inner ← modify dotted f kind inner ks
        return put k.name (.table span kind inner) es
      else redefined k
    | some (.array span true items) =>
      match items.getLast? with
      | some (.table last kind inner) => do
        let inner ← modify dotted f kind inner ks
        return put k.name (.array span true (items.dropLast ++ [.table last kind inner])) es
      | _ => redefined k
    | some _ => redefined k

/-- The path and the last segment of a key. -/
def splitKey (ks : List Key) : List Key × Key :=
  (ks.dropLast, ks.getLast?.getD ⟨"", ⟨0, 0⟩⟩)

/-- A new entry in a table: a key with dots ends in a table made by dotted keys, and any other in
one that is not. -/
def insert (ks : List Key) (v : Value) (kind : TableKind) (es : Entries) :
    Except Fault Entries :=
  let (path, k) := splitKey ks
  modify true (fun kind es =>
    if (kind = .dotted) = path.isEmpty then redefined k
    else if (find? k.name es).isSome then redefined k
    else .ok (put k.name v es)) kind es path

/-- The table under a header begins; it may have been passed before on the way to another. -/
def openTable (ks : List Key) (span : Span) (es : Entries) : Except Fault Entries :=
  let (path, k) := splitKey ks
  modify false (fun _ es =>
    match find? k.name es with
    | none => .ok (put k.name (.table span .header []) es)
    | some (.table _ .implicit inner) => .ok (put k.name (.table span .header inner) es)
    | some _ => redefined k) .header es path

/-- The next table of an array under a header begins. -/
def openElement (ks : List Key) (span : Span) (es : Entries) : Except Fault Entries :=
  let (path, k) := splitKey ks
  modify false (fun _ es =>
    match find? k.name es with
    | none => .ok (put k.name (.array span true [.table span .header []]) es)
    | some (.array first true items) =>
      .ok (put k.name (.array first true (items ++ [.table span .header []])) es)
    | some _ => redefined k) .header es path

/-- A new entry in the table that a header leads to. -/
def insertUnder (header ks : List Key) (v : Value) (es : Entries) : Except Fault Entries :=
  modify false (insert ks v) .header es header

end Entries

end MigrationClient.Toml
