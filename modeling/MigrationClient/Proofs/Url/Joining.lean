import Mathlib.Data.List.DropRight
import MigrationClient.Url.Parse

/-!
# URLs with a path put behind them

A URL of the web that a slash and some text are put behind is read as before up to its path; the
text adds its own path, its own query and its own fragment (`parse_append`). Only what a URL
already has of a query or a fragment would take the text in, and that is excluded. How segments
are walked is told segment by segment (`walk_concat`).
-/

namespace MigrationClient.Url

open Text

/-! ## Cleaning -/

/-- What cleaning leaves of a text that is followed by another. -/
def cleanFront (s : List Char) : List Char := (s.dropWhile isEdge).filter (!isDropped ·)

/-- What cleaning leaves of a text that follows another. -/
def cleanBack (s : List Char) : List Char := (s.rdropWhile isEdge).filter (!isDropped ·)

theorem isEdge_of_isDropped {c : Char} (h : isDropped c = true) : isEdge c = true := by
  simp only [isDropped, Bool.or_eq_true, decide_eq_true_eq] at h
  rcases h with (rfl | rfl) | rfl <;> rfl

theorem rdropWhile_append_cons_of_neg {p : Char → Bool} {c : Char} (h : p c = false)
    (s t : List Char) : (s ++ c :: t).rdropWhile p = s ++ c :: t.rdropWhile p := by
  simp [List.rdropWhile, dropWhile_append_cons_of_neg h]

theorem clean_append_cons {c : Char} (h : isEdge c = false) (s t : List Char) :
    clean (s ++ c :: t) = cleanFront s ++ c :: cleanBack t := by
  have hc : isDropped c = false := by
    rw [Bool.eq_false_iff]
    exact fun hd => by simp [isEdge_of_isDropped hd] at h
  have ht : trimBy isEdge (s ++ c :: t) = s.dropWhile isEdge ++ c :: t.rdropWhile isEdge := by
    change ((s ++ c :: t).dropWhile isEdge).rdropWhile isEdge = _
    rw [dropWhile_append_cons_of_neg h, rdropWhile_append_cons_of_neg h]
  simp [clean, cleanFront, cleanBack, ht, hc]

/-- Text with nothing to drop in it and no edge at its end stays as it is behind another. -/
theorem cleanBack_eq_self {s : List Char} (hs : ∀ c ∈ s, isDropped c = false)
    (hlast : ∀ c ∈ s.getLast?, isEdge c = false) : cleanBack s = s := by
  have hend : s.rdropWhile isEdge = s := by
    rw [List.rdropWhile_eq_self_iff]
    intro hne
    simp [hlast _ (List.getLast?_eq_some_getLast hne)]
  rw [cleanBack, hend]
  exact List.filter_eq_self.2 fun c hc => by simp [hs c hc]

/-! ## Schemes -/

theorem splitScheme?_eq_some_iff {s scheme rest : List Char} :
    splitScheme? s = some (scheme, rest) ↔ s.head?.any Char.isAlpha = true ∧
      s.dropWhile isSchemeChar = ':' :: rest ∧
      (s.takeWhile isSchemeChar).map Char.toLower = scheme := by
  unfold splitScheme?
  split
  · next ha =>
    split
    · next r hr => simp [ha, hr, and_comm]
    · next hr =>
      simp only [reduceCtorEq, false_iff, not_and]
      exact fun _ h => absurd h (hr rest)
  · next ha => simp [ha]

/-- The scheme is found where it is, whatever follows. -/
theorem splitScheme?_append {s scheme rest : List Char} (h : splitScheme? s = some (scheme, rest))
    (t : List Char) : splitScheme? (s ++ t) = some (scheme, rest ++ t) := by
  obtain ⟨ha, hd, rfl⟩ := splitScheme?_eq_some_iff.1 h
  have hs : s = s.takeWhile isSchemeChar ++ ':' :: rest := by
    rw [← hd, List.takeWhile_append_dropWhile]
  have hne : s ≠ [] := by
    rintro rfl
    simp at ha
  have hcolon : isSchemeChar ':' = false := rfl
  refine splitScheme?_eq_some_iff.2 ⟨?_, ?_, ?_⟩
  · rwa [List.head?_append_of_ne_nil _ hne]
  · rw [List.dropWhile_append, hd]
    rfl
  · conv_lhs => rw [hs, List.append_assoc, List.cons_append,
      takeWhile_append_cons_of_neg hcolon]
    rw [List.takeWhile_takeWhile]
    simp

/-! ## Path, query and fragment -/

theorem Tail.ofText_eq (s : List Char) : Tail.ofText s =
    ⟨s.takeWhile (!endsPath ·), (cut? (· == '?') (s.takeWhile (!· == '#'))).map (·.2),
      (cut? (· == '#') s).map (·.2)⟩ := by
  have hp : s.takeWhile (!endsPath ·) =
      (s.takeWhile (!· == '#')).takeWhile (!· == '?') := by
    rw [List.takeWhile_takeWhile]
    congr 1
    funext c
    simp [endsPath, Bool.and_comm]
  unfold Tail.ofText
  rw [hp, ← getD_fst_cut? (· == '?'), ← getD_fst_cut? (· == '#')]
  cases cut? (· == '#') s with
  | none =>
    simp only [Option.map_none, Option.getD_none]
    cases cut? (· == '?') s <;> rfl
  | some parts =>
    simp only [Option.map_some, Option.getD_some]
    cases cut? (· == '?') parts.1 <;> rfl

/-- Text without a mark for a query or a fragment only makes the path longer. -/
theorem Tail.ofText_append {s : List Char} (hs : ∀ c ∈ s, endsPath c = false) (t : List Char) :
    Tail.ofText (s ++ t) = { Tail.ofText t with path := s ++ (Tail.ofText t).path } := by
  have hmarks : ∀ c ∈ s, c ≠ '?' ∧ c ≠ '#' := fun c hc => by
    simpa [endsPath] using hs c hc
  have hq : ∀ c ∈ s, (c == '?') = false := fun c hc => beq_eq_false_iff_ne.2 (hmarks c hc).1
  have hf : ∀ c ∈ s, (c == '#') = false := fun c hc => beq_eq_false_iff_ne.2 (hmarks c hc).2
  rw [ofText_eq, ofText_eq, List.takeWhile_append_of_pos fun c hc => by simp [hs c hc],
    List.takeWhile_append_of_pos fun c hc => by simp [hf c hc], cut?_append_of_neg hq,
    cut?_append_of_neg hf]
  simp [Function.comp_def]

/-- There is a query exactly if there is a mark for one before any fragment. -/
theorem Tail.query_ofText_eq_none_iff {s : List Char} :
    (Tail.ofText s).query = none ↔ '?' ∉ s.takeWhile (!· == '#') := by
  rw [ofText_eq]
  simp only [Option.map_eq_none_iff, cut?_eq_none_iff]
  constructor
  · intro h hm
    simpa using h '?' hm
  · rintro h c hc
    rw [beq_eq_false_iff_ne]
    rintro rfl
    exact h hc

/-! ## The authority -/

/-- Nothing of an authority of the web is read differently for what follows it: an authority that
may end a URL only after a user's name is refused in any case. -/
theorem Authority.ofText_atEnd {scheme : List Char} (hk : SchemeKind.ofScheme scheme = .web)
    (s : List Char) (atEnd atEnd' : Bool) :
    Authority.ofText scheme s atEnd = Authority.ofText scheme s atEnd' := by
  unfold Authority.ofText
  rcases splitUser s with ⟨user, rest⟩
  simp only [hk]
  by_cases hu : user = some [] ∧ rest = []
  · obtain ⟨rfl, rfl⟩ := hu
    cases atEnd <;> cases atEnd' <;> rfl
  · have hne : ∀ b : Bool, ¬ (user = some [] ∧ rest.isEmpty = true ∧ b = true) :=
      fun b h => hu ⟨h.1, by simpa using h.2.1⟩
    rw [if_neg (hne _), if_neg (hne _)]

/-! ## Whole URLs -/

/-- The URL with path, query and fragment as a text after the authority gives them. -/
def withRest (u : Url) (rest : List Char) : Url :=
  let tail := Tail.ofText rest
  { u with
    path := Path.ofAuthority .web tail.path
    query := tail.query.map (encodeQuery .web)
    fragment := tail.fragment.map encodeFragment }

theorem afterSlashes_web {scheme : List Char} (hk : SchemeKind.ofScheme scheme = .web)
    (s : List Char) :
    afterSlashes scheme s =
      (Authority.ofText scheme (s.takeWhile (!endsAuthority .web ·)) true).map fun a =>
        Url.withRest ⟨String.ofList scheme, some a, .segments [], none, none⟩
          (s.dropWhile (!endsAuthority .web ·)) := by
  unfold afterSlashes
  simp only [hk, splitAuthority]
  rw [Authority.ofText_atEnd hk _ _ true]
  cases Authority.ofText scheme (s.takeWhile (!endsAuthority .web ·)) true <;> rfl

/-- What a slash begins comes after the authority and changes nothing of it. -/
theorem afterSlashes_append {scheme : List Char} (hk : SchemeKind.ofScheme scheme = .web)
    (s t : List Char) :
    afterSlashes scheme (s ++ '/' :: t) = (afterSlashes scheme s).map
      (·.withRest (s.dropWhile (!endsAuthority .web ·) ++ '/' :: t)) := by
  rw [afterSlashes_web hk, afterSlashes_web hk,
    takeWhile_append_cons_of_neg (p := (!endsAuthority .web ·)) rfl,
    dropWhile_append_cons_of_neg (p := (!endsAuthority .web ·)) rfl]
  cases Authority.ofText scheme (s.takeWhile (!endsAuthority .web ·)) true <;> rfl

/-- **A text put behind a URL of the web.** All that it changes is what follows the authority. -/
theorem parse_append {endpoint : String} {scheme slashes s : List Char}
    (h : splitScheme? (cleanFront endpoint.toList) = some (scheme, slashes ++ s))
    (hk : SchemeKind.ofScheme scheme = .web) (hs : ∀ c ∈ slashes, c = '/' ∨ c = '\\')
    (hne : s.head?.any (fun c => c ≠ '/' ∧ c ≠ '\\') = true) (t : String) :
    parse (endpoint ++ "/" ++ t) = (afterSlashes scheme s).map
      (·.withRest (s.dropWhile (!endsAuthority .web ·) ++ '/' :: cleanBack t.toList)) := by
  have hclean : clean (endpoint ++ "/" ++ t).toList =
      cleanFront endpoint.toList ++ '/' :: cleanBack t.toList := by
    simp only [String.toList_append, List.append_assoc]
    exact clean_append_cons rfl _ _
  obtain ⟨c, r, rfl⟩ : ∃ c r, s = c :: r := by
    cases s with
    | nil => simp at hne
    | cons c r => exact ⟨c, r, rfl⟩
  have hc : c ≠ '/' ∧ c ≠ '\\' := by simpa using hne
  have hdrop : (slashes ++ c :: r ++ '/' :: cleanBack t.toList).dropWhile
      (fun c => c = '/' || c = '\\') = c :: r ++ '/' :: cleanBack t.toList := by
    rw [List.append_assoc, List.dropWhile_append_of_pos fun d hd => by simpa using hs d hd,
      List.cons_append, List.dropWhile_cons_of_neg (by simpa using hc)]
  rw [parse, hclean, splitScheme?_append h]
  simp only [withScheme, hk]
  rw [hdrop, afterSlashes_append hk]

/-! ## Walking -/

namespace Path

/-- The stack after a segment that another one follows. -/
def enter (kind : SchemeKind) (stack : List (List Char)) (s : List Char) : List (List Char) :=
  if isDoubleDot s then pop stack
  else if isSingleDot s then stack
  else normalSegment kind stack s :: stack

/-- **All segments but the last are entered**, one after the other. -/
theorem walk_concat (kind : SchemeKind) (stack moves : List (List Char)) (last : List Char) :
    walk kind stack (moves ++ [last]) = walk kind (moves.foldl (enter kind) stack) [last] := by
  induction moves generalizing stack with
  | nil => rfl
  | cons s r ih =>
    obtain ⟨t, rest, ht⟩ := List.exists_cons_of_ne_nil (List.append_ne_nil_of_right_ne_nil r
      (List.cons_ne_nil last []))
    rw [List.foldl_cons, ← ih, List.cons_append, ht]
    rfl

/-- A segment of dots is spelled without a percent sign in one way. -/
theorem eq_of_isSingleDot {s : List Char} (h : isSingleDot s = true) (hp : '%' ∉ s) :
    String.ofList s = "." := by
  have hmem := of_decide_eq_true h
  rw [← String.toList_ofList (l := s)] at hp
  generalize String.ofList s = dots at hmem hp
  revert dots
  decide

theorem eq_of_isDoubleDot {s : List Char} (h : isDoubleDot s = true) (hp : '%' ∉ s) :
    String.ofList s = ".." := by
  have hmem := of_decide_eq_true h
  rw [← String.toList_ofList (l := s)] at hp
  generalize String.ofList s = dots at hmem hp
  revert dots
  decide

/-- Some segments behind others are walked from where those have led. -/
theorem walk_append (kind : SchemeKind) {words : List (List Char)} (h : words ≠ [])
    (stack moves : List (List Char)) :
    walk kind stack (moves ++ words) = walk kind (moves.foldl (enter kind) stack) words := by
  obtain ⟨front, last, rfl⟩ := (List.eq_nil_or_concat' words).resolve_left h
  rw [← List.append_assoc, walk_concat, List.foldl_append, ← walk_concat]

theorem ofAuthority_web (s : List Char) :
    ofAuthority .web ('/' :: s) =
      .segments ((walk .web [] (splitBy (isSeparator .web) s)).reverse.map String.ofList) := by
  change Path.segments ((collapse .web _).map String.ofList) = _
  congr 2

end Path

end MigrationClient.Url
