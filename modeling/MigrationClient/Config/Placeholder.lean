/-!
# Placeholders

A text may hold placeholders, a name between `${` and the next closing brace. `pieces` cuts a
text into its placeholders and the characters between them, and `substitute` puts values in the
place of the names that have one. What is put in is not looked through again.
-/

namespace MigrationClient.Placeholder

inductive Piece where
  | char (c : Char)
  | placeholder (name : List Char)
  deriving DecidableEq, Repr

/-- A character that a name may hold. -/
def isInner (c : Char) : Bool := c != '\x7d'

/-- The name of a placeholder at the start of a text, and the text after it. -/
def leading? : List Char → Option (List Char × List Char)
  | '$' :: '\x7b' :: r =>
    match r.takeWhile isInner, r.dropWhile isInner with
    | c :: name, _ :: t => some (c :: name, t)
    | _, _ => none
  | _ => none

/-- A placeholder as it is written. -/
def written (name : List Char) : List Char := '$' :: '\x7b' :: name ++ ['\x7d']

theorem leading?_eq_some {s name t : List Char} (h : leading? s = some (name, t)) :
    s = written name ++ t := by
  unfold leading? at h
  split at h
  · rename_i r
    split at h
    · rename_i c name d u hn hd
      cases h
      have hcut := List.takeWhile_append_dropWhile (p := isInner) (l := r)
      have hend := List.head_dropWhile_not isInner (l := r) (by simp [hd])
      rw [hn, hd] at hcut
      simp only [hd, List.head_cons, isInner, bne_eq_false_iff_eq] at hend
      subst hend
      simp [written, ← hcut]
    · cases h
  · cases h

theorem leading?_shorter {s name t : List Char} (h : leading? s = some (name, t)) :
    t.length < s.length := by
  rw [leading?_eq_some h]
  simp only [written, List.length_append, List.length_cons]
  omega

/-- The pieces of a text from left to right. -/
def pieces : List Char → List Piece
  | [] => []
  | c :: r =>
    match _h : leading? (c :: r) with
    | some (name, t) => .placeholder name :: pieces t
    | none => .char c :: pieces r
  termination_by s => s.length
  decreasing_by
    · exact leading?_shorter _h
    · simp

/-- A piece with the value of its name, if that has one. -/
def Piece.fill (lookup : String → Option String) : Piece → List Char
  | char c => [c]
  | placeholder name =>
    match lookup (String.ofList name) with
    | some v => v.toList
    | none => written name

/-- The text with values in the place of placeholders. -/
def fill (lookup : String → Option String) (s : List Char) : List Char :=
  (pieces s).flatMap (Piece.fill lookup)

def substitute (lookup : String → Option String) (text : String) : String :=
  String.ofList (fill lookup text.toList)

end MigrationClient.Placeholder
