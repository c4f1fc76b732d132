import MigrationClient.Reading
import MigrationClient.Toml.Entries
import MigrationClient.Toml.Scalar

/-!
# Reading TOML text

Strings, keys and values off the front of a text. Arrays and tables in braces may stand within
each other up to a limit, by which `value` recurs; what stands side by side in them is read in
loops that terminate by what is left of the text.
-/

namespace MigrationClient.Toml

open Text Reader

/-- What a step of reading gives: a result and the text that is left. -/
abbrev Step (α : Type) := Except Fault (α × List Char)

abbrev Reader (α : Type) := MigrationClient.Reader Char Fault α

/-- The fault of a text that is not well-formed at its start. -/
def malformed (rest : List Char) : Except Fault α :=
  .error ⟨.malformed, ⟨rest.length, rest.length - 1⟩⟩

/-! ## Blanks and comments -/

def isSpace (c : Char) : Bool := c = ' ' || c = '\t'

def skipSpace (s : List Char) : List Char := s.dropWhile isSpace

/-- A control that no comment and no string may hold. -/
def isForbidden (c : Char) : Bool := (c.toNat < 0x20 && c != '\t') || c.toNat = 0x7F

/-- The text after a line end, if there is one. -/
def lineEnd? : List Char → Option (List Char)
  | '\n' :: r => some r
  | '\r' :: '\n' :: r => some r
  | _ => none

/-- The text after a comment, if there is one, up to the end of the line. -/
def skipComment : List Char → List Char
  | '#' :: r => r.dropWhile fun c => !isForbidden c
  | s => s

theorem skipSpace_length_le (s : List Char) : (skipSpace s).length ≤ s.length :=
  length_dropWhile_le _ s

theorem lineEnd?_shorter {s r : List Char} (h : lineEnd? s = some r) : r.length < s.length := by
  unfold lineEnd? at h
  split at h
  · cases h; exact Nat.lt_succ_self _
  · cases h; exact Nat.lt_succ_of_lt (Nat.lt_succ_self _)
  · cases h

theorem skipComment_length_le (s : List Char) : (skipComment s).length ≤ s.length := by
  unfold skipComment
  split
  · rename_i r
    have := length_dropWhile_le (fun c => !isForbidden c) r
    simp only [List.length_cons]; omega
  · exact Nat.le_refl _

/-- Blanks, comments and line ends. -/
def skipLines (s : List Char) : List Char :=
  match _h : lineEnd? (skipComment (skipSpace s)) with
  | some r => skipLines r
  | none => skipComment (skipSpace s)
  termination_by s.length
  decreasing_by
    have h1 := lineEnd?_shorter _h
    have h2 := skipComment_length_le (skipSpace s)
    have h3 := skipSpace_length_le s
    omega

theorem skipLines_length_le (s : List Char) : (skipLines s).length ≤ s.length := by
  fun_induction skipLines s with
  | case1 s r h ih =>
    have h1 := lineEnd?_shorter h
    have h2 := skipComment_length_le (skipSpace s)
    have h3 := skipSpace_length_le s
    omega
  | case2 s h =>
    have h2 := skipComment_length_le (skipSpace s)
    have h3 := skipSpace_length_le s
    omega

/-! ## Strings -/

/-- The character that so many hexadecimal digits name. -/
def hexChar (n : Nat) (s : List Char) : Step Char :=
  match value? 16 (s.take n) with
  | some k => if (s.take n).length = n ∧ k.isValidChar then .ok (Char.ofNat k, s.drop n) else malformed s
  | none => malformed s

/-- The character that an escape stands for, after its backslash. -/
def escape : List Char → Step Char
  | 'b' :: r => .ok ('\x08', r)
  | 't' :: r => .ok ('\t', r)
  | 'n' :: r => .ok ('\n', r)
  | 'f' :: r => .ok ('\x0c', r)
  | 'r' :: r => .ok ('\r', r)
  | 'e' :: r => .ok ('\x1b', r)
  | '"' :: r => .ok ('"', r)
  | '\\' :: r => .ok ('\\', r)
  | 'x' :: r => hexChar 2 r
  | 'u' :: r => hexChar 4 r
  | 'U' :: r => hexChar 8 r
  | s => malformed s

theorem hexChar_length_le {n : Nat} {s : List Char} {c r} (h : hexChar n s = .ok (c, r)) :
    r.length ≤ s.length := by
  unfold hexChar at h
  split at h
  · split at h
    · cases h; simp
    · cases h
  · cases h

theorem escape_shorter {s : List Char} {c r} (h : escape s = .ok (c, r)) :
    r.length < s.length := by
  unfold escape at h
  split at h
  all_goals first
    | (cases h; simp)
    | exact Nat.lt_succ_of_le (hexChar_length_le h)
    | cases h

/-- A string on one line after its opening quote, with escapes. -/
def basicString : List Char → Step (List Char)
  | [] => malformed []
  | c :: r =>
    if c = '"' then .ok ([], r)
    else if c = '\\' then
      match _h : escape r with
      | .error f => .error f
      | .ok (d, t) => mapStep (d :: ·) (basicString t)
    else if isForbidden c then malformed (c :: r)
    else mapStep (c :: ·) (basicString r)
  termination_by s => s.length
  decreasing_by
    · have := escape_shorter _h; simp; omega
    · simp

/-- A string on one line after its opening apostrophe, without escapes. -/
def literalString : List Char → Step (List Char)
  | [] => malformed []
  | c :: r =>
    if c = '\'' then .ok ([], r)
    else if isForbidden c then malformed (c :: r)
    else mapStep (c :: ·) (literalString r)

/-- The text of a string of several lines, without a line end at its start. -/
def afterOpening (s : List Char) : List Char := (lineEnd? s).getD s

/-- How many quotes stand at the start, as far as they can belong to one string: three close it,
and two may stand before these. -/
def quoteRun (quote : Char) (s : List Char) : Nat := min 5 (s.takeWhile (· = quote)).length

/-- The text without the blanks and line ends at its start. -/
def skipWhite : List Char → List Char
  | '\r' :: '\n' :: r => skipWhite r
  | c :: r => if isSpace c || c = '\n' then skipWhite r else c :: r
  | [] => []

theorem skipWhite_length_le (s : List Char) : (skipWhite s).length ≤ s.length := by
  fun_induction skipWhite s
  case case1 ih => simp only [List.length_cons]; omega
  case case2 ih => simp only [List.length_cons]; omega
  case case3 => exact Nat.le_refl _
  case case4 => exact Nat.le_refl _

/-- The text after a backslash that stands at the end of a line. -/
def continuation? (s : List Char) : Option (List Char) := (lineEnd? (skipSpace s)).map skipWhite

theorem continuation?_shorter {s r : List Char} (h : continuation? s = some r) :
    r.length < s.length := by
  unfold continuation? at h
  obtain ⟨t, ht, rfl⟩ := Option.map_eq_some_iff.1 h
  have h1 := lineEnd?_shorter ht
  have h2 := skipSpace_length_le s
  have h3 := skipWhite_length_le t
  omega

/-- A string of several lines after its opening quotes; escapes are read if `escapes` holds. -/
def longString (quote : Char) (escapes : Bool) : List Char → Step (List Char)
  | [] => malformed []
  | c :: r =>
    if c = quote then
      let n := quoteRun quote (c :: r)
      if n ≥ 3 then .ok (List.replicate (n - 3) quote, (c :: r).drop n)
      else mapStep (quote :: ·) (longString quote escapes r)
    else if c = '\\' ∧ escapes then
      match _hc : continuation? r with
      | some t => longString quote escapes t
      | none =>
        match _h : escape r with
        | .error f => .error f
        | .ok (d, t) => mapStep (d :: ·) (longString quote escapes t)
    else if c = '\n' then mapStep (c :: ·) (longString quote escapes r)
    else if c = '\r' ∧ r.head? = some '\n' then mapStep (c :: ·) (longString quote escapes r)
    else if isForbidden c then malformed (c :: r)
    else mapStep (c :: ·) (longString quote escapes r)
  termination_by s => s.length
  decreasing_by
    · simp
    · have := continuation?_shorter _hc; simp; omega
    · have := escape_shorter _h; simp; omega
    · simp
    · simp
    · simp

theorem basicString_shorter {s : List Char} {a r} (h : basicString s = .ok (a, r)) :
    r.length < s.length := by
  fun_induction basicString s generalizing a r
  case case1 | case3 | case5 => cases h
  case case2 => cases h; simp
  case case4 ht _ ih =>
    obtain ⟨b, hb, -⟩ := mapStep_eq_ok h
    have h1 := ih hb
    have h2 := escape_shorter ht
    simp only [List.length_cons]; omega
  case case6 ih =>
    obtain ⟨b, hb, -⟩ := mapStep_eq_ok h
    have h1 := ih hb
    simp only [List.length_cons]; omega

theorem literalString_shorter {s : List Char} {a r} (h : literalString s = .ok (a, r)) :
    r.length < s.length := by
  fun_induction literalString s generalizing a r
  case case1 | case3 => cases h
  case case2 => cases h; simp
  case case4 ih =>
    obtain ⟨b, hb, -⟩ := mapStep_eq_ok h
    have h1 := ih hb
    simp only [List.length_cons]; omega

theorem longString_shorter {q : Char} {e : Bool} {s : List Char} {a r}
    (h : longString q e s = .ok (a, r)) : r.length < s.length := by
  fun_induction longString q e s generalizing a r
  case case1 | case5 | case9 => cases h
  case case2 hn =>
    cases h
    simp only [List.length_drop, List.length_cons]
    omega
  case case3 ih | case7 ih | case8 ih | case10 ih =>
    obtain ⟨b, hb, -⟩ := mapStep_eq_ok h
    have := ih hb
    simp only [List.length_cons]; omega
  case case4 ht ih =>
    have h1 := ih h
    have h2 := continuation?_shorter ht
    simp only [List.length_cons]; omega
  case case6 ht ih =>
    obtain ⟨b, hb, -⟩ := mapStep_eq_ok h
    have h1 := ih hb
    have h2 := escape_shorter ht
    simp only [List.length_cons]; omega

/-- A string that began with a quote, which is not yet taken. -/
def quoted (s : List Char) : Step String :=
  match s with
  | '"' :: '"' :: '"' :: r => mapStep String.ofList (longString '"' true (afterOpening r))
  | '"' :: r => mapStep String.ofList (basicString r)
  | '\'' :: '\'' :: '\'' :: r => mapStep String.ofList (longString '\'' false (afterOpening r))
  | '\'' :: r => mapStep String.ofList (literalString r)
  | _ => malformed s

theorem afterOpening_length_le (s : List Char) : (afterOpening s).length ≤ s.length := by
  unfold afterOpening
  cases h : lineEnd? s with
  | none => exact Nat.le_refl _
  | some r => exact Nat.le_of_lt (lineEnd?_shorter h)

theorem quoted_shorter {s : List Char} {a r} (h : quoted s = .ok (a, r)) :
    r.length < s.length := by
  unfold quoted at h
  split at h
  · rename_i t
    obtain ⟨b, hb, -⟩ := mapStep_eq_ok h
    have h1 := longString_shorter hb
    have h2 := afterOpening_length_le t
    simp only [List.length_cons]; omega
  · obtain ⟨b, hb, -⟩ := mapStep_eq_ok h
    exact Nat.lt_succ_of_lt (basicString_shorter hb)
  · rename_i t
    obtain ⟨b, hb, -⟩ := mapStep_eq_ok h
    have h1 := longString_shorter hb
    have h2 := afterOpening_length_le t
    simp only [List.length_cons]; omega
  · obtain ⟨b, hb, -⟩ := mapStep_eq_ok h
    exact Nat.lt_succ_of_lt (literalString_shorter hb)
  · cases h

/-! ## Keys -/

/-- A character of a key without quotes. -/
def isBare (c : Char) : Bool := c.isAlphanum || c = '-' || c = '_'

/-- One segment of a key. -/
def segment (s : List Char) : Step Key :=
  match s with
  | '"' :: r =>
    mapStep (fun (t, stop) => ⟨String.ofList t, ⟨s.length, stop⟩⟩)
      ((basicString r).map fun (t, u) => ((t, u.length), u))
  | '\'' :: r =>
    mapStep (fun (t, stop) => ⟨String.ofList t, ⟨s.length, stop⟩⟩)
      ((literalString r).map fun (t, u) => ((t, u.length), u))
  | _ =>
    let name := s.takeWhile isBare
    let rest := s.dropWhile isBare
    if name.isEmpty then malformed s
    else .ok (⟨String.ofList name, ⟨s.length, rest.length⟩⟩, rest)

theorem segment_shorter {s : List Char} {k r} (h : segment s = .ok (k, r)) :
    r.length < s.length := by
  unfold segment at h
  split at h
  · obtain ⟨b, hb, -⟩ := mapStep_eq_ok h
    obtain ⟨⟨t, u⟩, ht, hr⟩ := map_eq_ok hb
    cases hr
    exact Nat.lt_succ_of_lt (basicString_shorter ht)
  · obtain ⟨b, hb, -⟩ := mapStep_eq_ok h
    obtain ⟨⟨t, u⟩, ht, hr⟩ := map_eq_ok hb
    cases hr
    exact Nat.lt_succ_of_lt (literalString_shorter ht)
  · simp only at h
    split at h
    · cases h
    · rename_i hn
      cases h
      cases s with
      | nil => simp at hn
      | cons c t =>
        have hc : isBare c = true := by
          by_cases hc : isBare c = true
          · exact hc
          · simp [hc] at hn
        rw [List.dropWhile_cons_of_pos hc]
        exact Nat.lt_succ_of_le (length_dropWhile_le isBare t)

/-- How many segments may stand before the last one of a key. -/
def maxKeyDepth : Nat := 79

/-- The segments of a key, with dots between them. -/
def keyPath (s : List Char) : Step (List Key) :=
  match _h : segment s with
  | .error f => .error f
  | .ok (k, r) =>
    match _ht : skipSpace r with
    | '.' :: t => mapStep (k :: ·) (keyPath (skipSpace t))
    | _ => .ok ([k], r)
  termination_by s.length
  decreasing_by
    have h1 := segment_shorter _h
    have h2 := skipSpace_length_le r
    have h3 := skipSpace_length_le t
    rw [_ht, List.length_cons] at h2
    omega

theorem keyPath_shorter {s : List Char} {k r} (h : keyPath s = .ok (k, r)) :
    r.length < s.length := by
  fun_induction keyPath s generalizing k r
  case case1 => cases h
  case case2 s k u hk t ht ih =>
    obtain ⟨b, hb, -⟩ := mapStep_eq_ok h
    have h1 := ih hb
    have h2 := segment_shorter hk
    have h3 := skipSpace_length_le t
    have h4 := skipSpace_length_le u
    rw [ht, List.length_cons] at h4
    omega
  case case3 hk _ => cases h; exact segment_shorter hk

/-- A key that is not too deep. -/
def key (s : List Char) : Step (List Key) :=
  match keyPath s with
  | .error f => .error f
  | .ok (ks, r) =>
    if ks.length > maxKeyDepth + 1 then .error ⟨.tooDeep, ⟨s.length, r.length⟩⟩ else .ok (ks, r)

theorem key_shorter {s : List Char} {ks r} (h : key s = .ok (ks, r)) : r.length < s.length := by
  unfold key at h
  split at h
  · cases h
  · rename_i hk
    split at h
    · cases h
    · cases h; exact keyPath_shorter hk

/-! ## Values -/

/-- How many arrays and tables in braces may stand within each other. -/
def maxDepth : Nat := 80

/-- A key, an equals sign and a value. -/
def assignment (value : Reader Value) (s : List Char) : Step (List Key × Value) :=
  match key s with
  | .error f => .error f
  | .ok (ks, r) =>
    match skipSpace r with
    | '=' :: t => mapStep (ks, ·) (value.run (skipSpace t))
    | t => malformed t

theorem assignment_shorter {value : Reader Value} {s : List Char} {a r}
    (h : assignment value s = .ok (a, r)) : r.length < s.length := by
  unfold assignment at h
  split at h
  · cases h
  · rename_i ks u hk
    have h1 := key_shorter hk
    have h2 := skipSpace_length_le u
    split at h
    · rename_i t ht
      obtain ⟨b, hb, -⟩ := mapStep_eq_ok h
      have h3 := skipSpace_length_le t
      have h4 := value.shorter hb
      rw [ht, List.length_cons] at h2
      omega
    · cases h

/-- What stands side by side between brackets, with commas between and perhaps one at the end. -/
def sideBySide (item : Reader α) (closing : Char) (s : List Char) : Step (List α) :=
  match _hs : skipLines s with
  | [] => malformed []
  | c :: r =>
    if c = closing then .ok ([], r)
    else
      match _hi : item.run (c :: r) with
      | .error f => .error f
      | .ok (a, t) =>
        match _ht : skipLines t with
        | ',' :: u => mapStep (a :: ·) (sideBySide item closing u)
        | d :: u => if d = closing then .ok ([a], u) else malformed (d :: u)
        | [] => malformed []
  termination_by s.length
  decreasing_by
    have h1 := skipLines_length_le s
    have h2 := item.shorter _hi
    have h3 := skipLines_length_le t
    rw [_hs] at h1
    rw [_ht, List.length_cons] at h3
    omega

theorem sideBySide_length_le {item : Reader α} {closing : Char} {s : List Char} {as r}
    (h : sideBySide item closing s = .ok (as, r)) : r.length ≤ s.length := by
  fun_induction sideBySide item closing s generalizing as r
  case case1 | case3 | case6 | case7 => cases h
  case case2 s r' hs =>
    cases h
    have h1 := skipLines_length_le s
    rw [hs, List.length_cons] at h1
    omega
  case case4 s c r' hs _ a t hi u ht ih =>
    obtain ⟨b, hb, -⟩ := mapStep_eq_ok h
    have h0 := ih hb
    have h1 := skipLines_length_le s
    have h2 := item.shorter hi
    have h3 := skipLines_length_le t
    rw [hs] at h1
    rw [ht, List.length_cons] at h3
    omega
  case case5 s c r' hs _ a t hi u _ ht =>
    cases h
    have h1 := skipLines_length_le s
    have h2 := item.shorter hi
    have h3 := skipLines_length_le t
    rw [hs] at h1
    rw [ht, List.length_cons] at h3
    omega

/-- A value that ends its part of the text where the rest begins. -/
def spanned (f : Span → α → β) (s : List Char) (x : Step α) : Step β :=
  x.map fun (a, r) => (f ⟨s.length, r.length⟩ a, r)

theorem spanned_eq_ok {f : Span → α → β} {s : List Char} {x : Step α} {b r}
    (h : spanned f s x = .ok (b, r)) : ∃ a, x = .ok (a, r) := by
  obtain ⟨⟨a, t⟩, hx, ht⟩ := map_eq_ok h
  cases ht
  exact ⟨a, hx⟩

/-- A number, a boolean, a date or a time. -/
def scalar (s : List Char) : Step Value :=
  let n := scalarLength s
  match scalar? ⟨s.length, (s.drop n).length⟩ (s.take n) with
  | some v => if n = 0 ∨ s.isEmpty then malformed s else .ok (v, s.drop n)
  | none => malformed s

/-- A value without parts. -/
def simple (s : List Char) : Step Value :=
  match s with
  | '"' :: _ | '\'' :: _ => spanned .string s (quoted s)
  | _ => scalar s

theorem scalar_shorter {s : List Char} {v r} (h : scalar s = .ok (v, r)) :
    r.length < s.length := by
  simp only [scalar] at h
  split at h
  · split at h
    · cases h
    · rename_i hn
      cases h
      rw [List.length_drop]
      have : s.length ≠ 0 := by simpa using fun he => hn (.inr (by simp [he]))
      omega
  · cases h

theorem simple_shorter {s : List Char} {v r} (h : simple s = .ok (v, r)) :
    r.length < s.length := by
  unfold simple at h
  split at h
  · obtain ⟨a, ha⟩ := spanned_eq_ok h
    exact quoted_shorter ha
  · obtain ⟨a, ha⟩ := spanned_eq_ok h
    exact quoted_shorter ha
  · exact scalar_shorter h

/-- The table of some assignments in braces. -/
def inlineTable (span : Span) (as : List (List Key × Value)) : Except Fault Value :=
  (as.foldlM (fun es (a : List Key × Value) => Entries.insert a.1 a.2 .inline es) []).map
    fun es => .table span .inline es

/-- A value whose parts in brackets or braces are read by a given reader. -/
def valueOver (part : Reader Value) (s : List Char) : Step Value :=
  match s with
  | '[' :: r => spanned (.array · false) s (sideBySide part ']' r)
  | '\x7b' :: r =>
    match sideBySide ⟨assignment part, assignment_shorter⟩ '\x7d' r with
    | .error f => .error f
    | .ok (as, t) => (inlineTable ⟨s.length, t.length⟩ as).map fun v => (v, t)
  | _ => simple s

theorem valueOver_shorter {part : Reader Value} {s : List Char} {v r}
    (h : valueOver part s = .ok (v, r)) : r.length < s.length := by
  unfold valueOver at h
  split at h
  · obtain ⟨a, ha⟩ := spanned_eq_ok h
    exact Nat.lt_succ_of_le (sideBySide_length_le ha)
  · split at h
    · cases h
    · rename_i ht
      obtain ⟨a, -, hr⟩ := map_eq_ok h
      cases hr
      exact Nat.lt_succ_of_le (sideBySide_length_le ht)
  · exact simple_shorter h

/-- A value that may not have parts. -/
def deepest (s : List Char) : Step Value :=
  match s with
  | '[' :: r | '\x7b' :: r => .error ⟨.tooDeep, ⟨s.length, r.length⟩⟩
  | _ => simple s

theorem deepest_shorter {s : List Char} {v r} (h : deepest s = .ok (v, r)) :
    r.length < s.length := by
  unfold deepest at h
  split at h
  · cases h
  · cases h
  · exact simple_shorter h

/-- A value, with brackets and braces at most so deep within each other. -/
def value : Nat → Reader Value
  | 0 => ⟨deepest, deepest_shorter⟩
  | depth + 1 => ⟨valueOver (value depth), valueOver_shorter⟩

end MigrationClient.Toml
