import MigrationClient.Toml.Reader

/-!
# TOML documents

A document is a list of statements, one a line: a header, which says what table the entries
after it belong to, or an entry. The statements build the entries of the whole from the first to
the last.
-/

namespace MigrationClient.Toml

open Text Reader

/-! ## Statements -/

inductive Statement where
  | table (path : List Key) (span : Span)
  | element (path : List Key) (span : Span)
  | entry (path : List Key) (value : Value)
  deriving Repr

/-- The key of a header up to its closing brackets. -/
def headerKey (closing : List Char) (s : List Char) : Step (List Key) :=
  match key (skipSpace s) with
  | .error f => .error f
  | .ok (ks, r) =>
    let t := skipSpace r
    if closing.isPrefixOf t then .ok (ks, t.drop closing.length) else malformed t

/-- A header or an entry. -/
def statement (s : List Char) : Step Statement :=
  match s with
  | '[' :: '[' :: r => spanned (fun span ks => .element ks span) s (headerKey [']', ']'] r)
  | '[' :: r => spanned (fun span ks => .table ks span) s (headerKey [']'] r)
  | _ => mapStep (fun (ks, v) => .entry ks v) (assignment (value maxDepth) s)

theorem headerKey_shorter {c s : List Char} {ks r} (h : headerKey c s = .ok (ks, r)) :
    r.length < s.length := by
  unfold headerKey at h
  split at h
  · cases h
  · rename_i u hk
    have h1 := key_shorter hk
    have h2 := skipSpace_length_le s
    have h3 := skipSpace_length_le u
    simp only at h
    split at h
    · cases h
      rw [List.length_drop]
      omega
    · cases h

theorem statement_shorter {s : List Char} {a r} (h : statement s = .ok (a, r)) :
    r.length < s.length := by
  unfold statement at h
  split at h
  · obtain ⟨a, ha⟩ := spanned_eq_ok h
    exact Nat.lt_succ_of_lt (Nat.lt_succ_of_lt (headerKey_shorter ha))
  · obtain ⟨a, ha⟩ := spanned_eq_ok h
    exact Nat.lt_succ_of_lt (headerKey_shorter ha)
  · obtain ⟨a, ha, -⟩ := mapStep_eq_ok h
    exact assignment_shorter ha

/-! ## Lines -/

/-- The statements of a text. After each stand at most blanks and a comment before the line
ends. -/
def statements (s : List Char) : Except Fault (List Statement) :=
  match _hs : skipLines s with
  | [] => .ok []
  | c :: r =>
    match _ha : statement (c :: r) with
    | .error f => .error f
    | .ok (a, t) =>
      match _ht : lineEnd? (skipComment (skipSpace t)) with
      | some u => (statements u).map (a :: ·)
      | none => if (skipComment (skipSpace t)).isEmpty then .ok [a] else malformed t
  termination_by s.length
  decreasing_by
    have h1 := skipLines_length_le s
    have h2 := statement_shorter _ha
    have h3 := skipSpace_length_le t
    have h4 := skipComment_length_le (skipSpace t)
    have h5 := lineEnd?_shorter _ht
    rw [_hs] at h1
    omega

/-! ## Documents -/

/-- What the statements so far have made: the entries of the whole, and the table that the next
entry belongs to. -/
structure Draft where
  entries : Entries
  header : List Key
  deriving Repr

def Draft.add (d : Draft) : Statement → Except Fault Draft
  | .table path span => (d.entries.openTable path span).map (⟨·, path⟩)
  | .element path span => (d.entries.openElement path span).map (⟨·, path⟩)
  | .entry path v => (d.entries.insertUnder d.header path v).map (⟨·, d.header⟩)

/-- The text of a document without the mark that tells its byte order. -/
def withoutMark : List Char → List Char
  | '\ufeff' :: r => r
  | s => s

/-- The entries of a document. -/
def parse (document : List Char) : Except Fault Entries := do
  let lines ← statements (withoutMark document)
  let draft ← lines.foldlM Draft.add ⟨[], []⟩
  return draft.entries

end MigrationClient.Toml
