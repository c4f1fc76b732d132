import MigrationClient.Proofs.Config.History

/-!
# What placeholders are filled in

A text can be cut in one way only into placeholders and the plain text around them, if no
placeholder may begin within the plain text (`Cutting.Cuts`). The scan from left to right finds
this cutting (`cuts_iff`): where a placeholder begins, plain text has to end, because the
placeholder at a place is determined by the text from there on. So **filling in replaces the
placeholders of the one cutting there is, and nothing else** (`exists_unique_cutting`).
-/

namespace MigrationClient.Placeholder

open Text

/-! ## Placeholders at a place -/

/-- What stands between the braces: at least one character, and no closing brace. -/
def IsName (name : List Char) : Prop := name ≠ [] ∧ '\x7d' ∉ name

/-- A placeholder begins where the text does. -/
def Begins (s : List Char) : Prop := ∃ name, IsName name ∧ written name <+: s

variable {s t name : List Char} {c : Char}

theorem isInner_of_notMem (h : '\x7d' ∉ s) : ∀ c ∈ s, isInner c = true := by
  simpa [isInner] using List.forall_mem_ne'.2 h

theorem leading?_written (h : IsName name) (t : List Char) :
    leading? (written name ++ t) = some (name, t) := by
  obtain ⟨hne, hclosed⟩ := h
  have hinner := isInner_of_notMem hclosed
  have hend : isInner '\x7d' = false := rfl
  obtain ⟨c, rest, rfl⟩ := List.exists_cons_of_ne_nil hne
  have htake := takeWhile_append_cons hinner hend t
  have hdrop := dropWhile_append_cons hinner hend t
  simp only [written, List.cons_append, List.append_assoc, List.nil_append] at htake hdrop ⊢
  rw [leading?, htake, hdrop]

/-- **The placeholder at the start of a text**, if there is one, is told by the text. -/
theorem leading?_eq_some_iff :
    leading? s = some (name, t) ↔ IsName name ∧ s = written name ++ t := by
  constructor
  · intro h
    refine ⟨?_, leading?_eq_some h⟩
    unfold leading? at h
    split at h
    · next r =>
      split at h
      · next c name d u hname hrest =>
        cases h
        refine ⟨List.cons_ne_nil _ _, fun hmem => ?_⟩
        rw [← hname] at hmem
        exact absurd (List.all_eq_true.1 List.all_takeWhile _ hmem) (by simp [isInner])
      · cases h
    · cases h
  · rintro ⟨hname, rfl⟩
    exact leading?_written hname t

theorem leading?_eq_none_iff : leading? s = none ↔ ¬ Begins s := by
  constructor
  · rintro h ⟨name, hname, t, rfl⟩
    rw [leading?_written hname] at h
    cases h
  · intro h
    refine Option.eq_none_iff_forall_ne_some.2 fun ⟨name, t⟩ hs => h ?_
    obtain ⟨hname, rfl⟩ := leading?_eq_some_iff.1 hs
    exact ⟨name, hname, List.prefix_append _ _⟩

/-- Where a placeholder begins is told by its first three characters, and by whether it is closed. -/
theorem begins_cons_iff : Begins (c :: s) ↔
    c = '$' ∧ ∃ r, s = '\x7b' :: r ∧ r.head? ≠ some '\x7d' ∧ '\x7d' ∈ r := by
  constructor
  · rintro ⟨name, ⟨hne, hname⟩, t, h⟩
    obtain ⟨d, name, rfl⟩ := List.exists_cons_of_ne_nil hne
    obtain ⟨rfl, rfl⟩ := List.cons.inj h
    refine ⟨rfl, _, rfl, ?_, by simp⟩
    simpa using Ne.symm (not_or.1 (mt List.mem_cons.2 hname)).1
  · rintro ⟨rfl, r, rfl, hhead, hmem⟩
    obtain ⟨name, t, rfl, hname⟩ := List.eq_append_cons_of_mem hmem
    refine ⟨name, ⟨?_, hname⟩, t, by simp [written]⟩
    rintro rfl
    exact hhead rfl

/-! ## Filling in from left to right -/

@[simp] theorem pieces_nil : pieces [] = [] := by
  rw [pieces]

@[simp] theorem fill_nil (lookup : String → Option String) : fill lookup [] = [] := by
  rw [fill, pieces_nil, List.flatMap_nil]

theorem pieces_cons_of_not_begins {r : List Char} (h : ¬ Begins (c :: r)) :
    pieces (c :: r) = .char c :: pieces r := by
  rw [pieces]
  split
  · next hs =>
    rw [leading?_eq_none_iff.2 h] at hs
    cases hs
  · rfl

theorem pieces_written_append (h : IsName name) (t : List Char) :
    pieces (written name ++ t) = .placeholder name :: pieces t := by
  have hlead := leading?_written h t
  obtain ⟨c, r, hcons⟩ : ∃ c r, written name ++ t = c :: r := ⟨_, _, rfl⟩
  rw [hcons] at hlead ⊢
  rw [pieces]
  split
  · next hs =>
    rw [hlead] at hs
    cases hs
    rfl
  · next hs =>
    rw [hlead] at hs
    cases hs

theorem not_begins_of_ne (hc : c ≠ '$') (r : List Char) : ¬ Begins (c :: r) := by
  rintro ⟨name, -, t, h⟩
  exact hc (List.cons.inj h).1.symm

theorem fill_cons_of_not_begins (lookup : String → Option String) {r : List Char}
    (h : ¬ Begins (c :: r)) : fill lookup (c :: r) = c :: fill lookup r := by
  rw [fill, pieces_cons_of_not_begins h]
  rfl

/-- Text without a dollar sign is cut into its characters. -/
theorem pieces_append_of_plain (hs : '$' ∉ s) (t : List Char) :
    pieces (s ++ t) = s.map .char ++ pieces t := by
  induction s with
  | nil => rfl
  | cons c s ih =>
    obtain ⟨hc, hs⟩ := not_or.1 (mt List.mem_cons.2 hs)
    rw [List.cons_append, pieces_cons_of_not_begins (not_begins_of_ne (Ne.symm hc) _), ih hs,
      List.map_cons, List.cons_append]

theorem flatMap_fill_char (lookup : String → Option String) (s : List Char) :
    (s.map .char).flatMap (Piece.fill lookup) = s := by
  rw [List.flatMap_map]
  exact List.flatMap_singleton' s

/-- Text without a dollar sign stays as it is. -/
theorem fill_append_of_plain (lookup : String → Option String) (hs : '$' ∉ s) (t : List Char) :
    fill lookup (s ++ t) = s ++ fill lookup t := by
  rw [fill, pieces_append_of_plain hs, List.flatMap_append, flatMap_fill_char]
  rfl

theorem fill_of_plain (lookup : String → Option String) (hs : '$' ∉ s) : fill lookup s = s := by
  have h := fill_append_of_plain lookup hs []
  rwa [fill_nil, List.append_nil] at h

/-- A placeholder gives way to the value of its name. -/
theorem fill_written_append {lookup : String → Option String} (h : IsName name) {v : String}
    (hv : lookup (String.ofList name) = some v) (t : List Char) :
    fill lookup (written name ++ t) = v.toList ++ fill lookup t := by
  rw [fill, pieces_written_append h, List.flatMap_cons, Piece.fill, hv]
  rfl

/-! ## Cuttings -/

/-- A placeholder and the plain text after it. -/
structure Block where
  name : List Char
  after : List Char

/-- Plain text, with placeholders in between. -/
structure Cutting where
  lead : List Char
  blocks : List Block

def Block.text (b : Block) : List Char := written b.name ++ b.after

/-- The text that a cutting is one of. -/
def Cutting.text (d : Cutting) : List Char := d.lead ++ d.blocks.flatMap Block.text

/-- A placeholder with a value gives way to it; any other stays as it is written. -/
def Block.fill (lookup : String → Option String) (b : Block) : List Char :=
  ((lookup (String.ofList b.name)).map String.toList).getD (written b.name) ++ b.after

def Cutting.fill (lookup : String → Option String) (d : Cutting) : List Char :=
  d.lead ++ d.blocks.flatMap (Block.fill lookup)

/-- Where `plain` stands in front of `rest`, no placeholder begins at a place within `plain`. -/
def Clear (plain rest : List Char) : Prop :=
  ∀ i < plain.length, ¬ Begins ((plain ++ rest).drop i)

/-- A cutting of a text into its placeholders and the plain text around them. -/
structure Cutting.Cuts (d : Cutting) (s : List Char) : Prop where
  text : d.text = s
  names : ∀ b ∈ d.blocks, IsName b.name
  lead : Clear d.lead (d.blocks.flatMap Block.text)
  after : ∀ front b back, d.blocks = front ++ b :: back →
    Clear b.after (back.flatMap Block.text)

theorem clear_nil (rest : List Char) : Clear [] rest := fun _ hi => absurd hi (Nat.not_lt_zero _)

theorem clear_cons_iff {rest : List Char} :
    Clear (c :: s) rest ↔ ¬ Begins (c :: (s ++ rest)) ∧ Clear s rest := by
  constructor
  · intro h
    refine ⟨h 0 (Nat.succ_pos _), fun i hi => ?_⟩
    exact h (i + 1) (Nat.succ_lt_succ hi)
  · rintro ⟨hc, hs⟩ i hi
    cases i with
    | zero => exact hc
    | succ i => exact hs i (Nat.lt_of_succ_lt_succ hi)

/-- The plain texts behind some placeholders are clear exactly if each is in its place. -/
theorem clear_after_cons_iff {b : Block} {bs : List Block} :
    (∀ front b' back, b :: bs = front ++ b' :: back → Clear b'.after (back.flatMap Block.text)) ↔
      Clear b.after (bs.flatMap Block.text) ∧
        ∀ front b' back, bs = front ++ b' :: back →
          Clear b'.after (back.flatMap Block.text) := by
  constructor
  · intro h
    refine ⟨h [] b bs rfl, fun front b' back hbs => ?_⟩
    exact h (b :: front) b' back (by rw [hbs, List.cons_append])
  · rintro ⟨hb, hbs⟩ front b' back he
    cases front with
    | nil =>
      obtain ⟨rfl, rfl⟩ := List.cons.inj he
      exact hb
    | cons _ front => exact hbs front b' back (List.cons.inj he).2

/-! ## The cutting that the scan finds -/

/-- One more character at the front. -/
def Cutting.char (c : Char) (d : Cutting) : Cutting := ⟨c :: d.lead, d.blocks⟩

/-- One more placeholder at the front. -/
def Cutting.placeholder (name : List Char) (d : Cutting) : Cutting :=
  ⟨[], ⟨name, d.lead⟩ :: d.blocks⟩

def Piece.onto : Piece → Cutting → Cutting
  | char c => Cutting.char c
  | placeholder name => Cutting.placeholder name

/-- The cutting made of some pieces. -/
def Cutting.ofPieces (ps : List Piece) : Cutting := ps.foldr Piece.onto ⟨[], []⟩

theorem Cutting.fill_ofPieces (lookup : String → Option String) (ps : List Piece) :
    (Cutting.ofPieces ps).fill lookup = ps.flatMap (Piece.fill lookup) := by
  induction ps with
  | nil => rfl
  | cons p ps ih =>
    rw [List.flatMap_cons, ← ih]
    cases p with
    | char c => rfl
    | placeholder name =>
      simp only [Cutting.fill, Cutting.ofPieces, List.foldr_cons, Piece.onto, Cutting.placeholder,
        Block.fill, Piece.fill, List.nil_append, List.flatMap_cons, List.append_assoc]
      cases lookup (String.ofList name) <;> rfl

/-- A text with nothing in it has the one cutting. -/
theorem cuts_nil_iff {d : Cutting} : d.Cuts [] ↔ d = ⟨[], []⟩ := by
  constructor
  · intro h
    obtain ⟨lead, blocks⟩ := d
    obtain ⟨hlead, hblocks⟩ := List.append_eq_nil_iff.1 h.text
    cases blocks with
    | nil => rw [show lead = [] from hlead]
    | cons b bs => simp [Block.text, written] at hblocks
  · rintro rfl
    exact ⟨rfl, fun b hb => absurd hb List.not_mem_nil, clear_nil _,
      fun front b back hb => by simp at hb⟩

/-- Where no placeholder begins, the first character belongs to the plain text. -/
theorem cuts_cons_iff (h : leading? (c :: s) = none) {d : Cutting} :
    d.Cuts (c :: s) ↔ ∃ d', Cutting.Cuts d' s ∧ d = d'.char c := by
  have hnot := leading?_eq_none_iff.1 h
  constructor
  · intro hd
    obtain ⟨lead, blocks⟩ := d
    cases lead with
    | nil =>
      -- the text would begin with the first placeholder, or be empty
      cases blocks with
      | nil => exact absurd hd.text (by simp [Cutting.text])
      | cons b bs =>
        have hb := hd.names b List.mem_cons_self
        refine absurd ⟨b.name, hb, ?_⟩ hnot
        rw [← hd.text]
        simp [Cutting.text, Block.text, List.append_assoc]
    | cons c' lead =>
      have htext := hd.text
      simp only [Cutting.text, List.cons_append, List.cons.injEq] at htext
      obtain ⟨rfl, rfl⟩ := htext
      exact ⟨⟨lead, blocks⟩, ⟨rfl, hd.names, (clear_cons_iff.1 hd.lead).2, hd.after⟩, rfl⟩
  · rintro ⟨d', hd', rfl⟩
    have htext : (d'.char c).text = c :: s := by rw [← hd'.text]; rfl
    refine ⟨htext, hd'.names, clear_cons_iff.2 ⟨?_, hd'.lead⟩, hd'.after⟩
    rwa [show c :: (d'.lead ++ (d'.char c).blocks.flatMap Block.text) = c :: s from htext]

/-- Where a placeholder begins, it is the first block, with no plain text before it. -/
theorem cuts_written_iff (hname : IsName name) {d : Cutting} :
    d.Cuts (written name ++ t) ↔ ∃ d', Cutting.Cuts d' t ∧ d = d'.placeholder name := by
  have hbegins : Begins (written name ++ t) := ⟨name, hname, List.prefix_append _ _⟩
  constructor
  · intro hd
    obtain ⟨lead, blocks⟩ := d
    cases lead with
    | cons c lead =>
      rw [← hd.text] at hbegins
      exact absurd hbegins (hd.lead 0 (Nat.succ_pos _))
    | nil =>
      cases blocks with
      | nil => exact absurd hd.text (by simp [Cutting.text, written])
      | cons b bs =>
        have htext : written b.name ++ (b.after ++ bs.flatMap Block.text) = written name ++ t := by
          rw [← hd.text]
          simp [Cutting.text, Block.text, List.append_assoc]
        -- the placeholder at a place is told by the text from there on
        have hb := leading?_written (hd.names b List.mem_cons_self)
          (b.after ++ bs.flatMap Block.text)
        rw [htext, leading?_written hname, Option.some.injEq, Prod.mk.injEq] at hb
        obtain ⟨rfl, rfl⟩ := hb
        obtain ⟨hclear, hafter⟩ := clear_after_cons_iff.1 hd.after
        exact ⟨⟨b.after, bs⟩,
          ⟨rfl, fun b' hb' => hd.names b' (List.mem_cons_of_mem _ hb'), hclear, hafter⟩, rfl⟩
  · rintro ⟨d', hd', rfl⟩
    refine ⟨?_, ?_, clear_nil _, clear_after_cons_iff.2 ⟨hd'.lead, hd'.after⟩⟩
    · rw [← hd'.text]
      simp [Cutting.text, Cutting.placeholder, Block.text, List.append_assoc]
    · intro b hb
      rcases List.mem_cons.1 hb with rfl | hb
      · exact hname
      · exact hd'.names b hb

/-- **The scan finds the only cutting there is.** -/
theorem cuts_iff {d : Cutting} : d.Cuts s ↔ d = Cutting.ofPieces (pieces s) := by
  fun_induction pieces s generalizing d with
  | case1 => exact cuts_nil_iff
  | case2 c r name t h ih =>
    obtain ⟨hname, hs⟩ := leading?_eq_some_iff.1 h
    rw [hs, cuts_written_iff hname]
    simp only [ih, exists_eq_left]
    rfl
  | case3 c r h ih =>
    rw [cuts_cons_iff h]
    simp only [ih, exists_eq_left]
    rfl

theorem fill_eq_of_cuts {d : Cutting} (h : d.Cuts s) (lookup : String → Option String) :
    fill lookup s = d.fill lookup := by
  rw [cuts_iff.1 h, Cutting.fill_ofPieces]
  rfl

/-- A cutting none of whose names has a value is filled in as it is written. -/
theorem Cutting.fill_of_unset {lookup : String → Option String} {d : Cutting}
    (h : ∀ b ∈ d.blocks, lookup (String.ofList b.name) = none) : d.fill lookup = d.text := by
  have hblock : ∀ b ∈ d.blocks, b.fill lookup = b.text := by
    intro b hb
    rw [Block.fill, h b hb]
    rfl
  rw [Cutting.fill, Cutting.text, List.flatMap_def, List.map_congr_left hblock,
    ← List.flatMap_def]

/-- **Every text has exactly one cutting into placeholders and plain text in which no placeholder
begins, and values are put in the place of just these placeholders.** All else stays, and so does
the whole text if no name in it has a value. It is this that is read as settings. -/
theorem exists_unique_cutting (text : String) :
    ∃ d : Cutting, d.Cuts text.toList ∧ (∀ d', Cutting.Cuts d' text.toList → d' = d) ∧
      (∀ lookup, substitute lookup text = String.ofList (d.fill lookup) ∧
        ((∀ b ∈ d.blocks, lookup (String.ofList b.name) = none) →
          substitute lookup text = text)) ∧
      ∀ env, SettingsFile.ofText env text =
        (SettingsFile.ofDocument (d.fill env.text?)).mapError
          (SettingsFile.documentError (d.fill env.text?)) := by
  have hd : (Cutting.ofPieces (pieces text.toList)).Cuts text.toList := cuts_iff.2 rfl
  have hfill := fill_eq_of_cuts hd
  refine ⟨_, hd, fun d' hd' => cuts_iff.1 hd', fun lookup => ⟨?_, fun hunset => ?_⟩, fun env => ?_⟩
  · rw [substitute, hfill]
  · rw [substitute, hfill, Cutting.fill_of_unset hunset, hd.text, String.ofList_toList]
  · rw [← hfill]
    rfl

/-- A name may hold what looks like the start of a placeholder, and a value is not looked
through again. -/
example : substitute (fun name => if name = "a$\x7bb" then some "$\x7bc\x7d" else none)
    "$$\x7ba$\x7bb\x7d$\x7b\x7d$\x7bc\x7d" = "$$\x7bc\x7d$\x7b\x7d$\x7bc\x7d" := by
  decide +kernel

end MigrationClient.Placeholder
