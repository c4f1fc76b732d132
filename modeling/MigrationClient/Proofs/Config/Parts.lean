import Mathlib.Data.List.DropRight
import Mathlib.Data.List.Infix
import MigrationClient.Proofs.Config.Placeholder

/-!
# Filling in part by part

A placeholder that is still open where a text ends takes in what follows, up to the next closing
brace. If none is open there (`AllClosed`), no placeholder of a longer text reaches over the
border, and its pieces are those of the text and then those of what follows (`pieces_append`).
If one is open, something may follow that closes it, and the scan finds a placeholder there
(`exists_pieces_append_written`). So **the texts that are filled in on their own, whatever follows
them, are exactly those that leave no placeholder open** (`allClosed_iff_substitute_append`).
-/

namespace MigrationClient.Placeholder

/-- A text that leaves no placeholder open: it does not end in a dollar sign, and no `${` stands
behind its last closing brace. -/
structure AllClosed (s : List Char) : Prop where
  dollar : s.getLast? ≠ some '$'
  brace : ¬ ['$', '\x7b'] <:+: s.rtakeWhile isInner

instance : DecidablePred AllClosed := fun s =>
  decidable_of_iff (s.getLast? ≠ some '$' ∧ ¬ ['$', '\x7b'] <:+: s.rtakeWhile isInner)
    ⟨fun h => ⟨h.1, h.2⟩, fun h => ⟨h.dollar, h.brace⟩⟩

variable {s t name found : List Char} {c : Char}

theorem rtakeWhile_append_of_pos {p : Char → Bool} (h : ∀ a ∈ t, p a = true) (s : List Char) :
    (s ++ t).rtakeWhile p = s.rtakeWhile p ++ t := by
  have hrev : ∀ a ∈ t.reverse, p a = true := by simpa using h
  rw [List.rtakeWhile, List.reverse_append, List.takeWhile_append_of_pos hrev,
    List.reverse_append, List.reverse_reverse, List.rtakeWhile]

/-- No placeholder is left open exactly if there is a closing brace behind every `${`. -/
theorem allClosed_iff : AllClosed s ↔ s.getLast? ≠ some '$' ∧
    ∀ front back, s = front ++ '$' :: '\x7b' :: back → '\x7d' ∈ back := by
  constructor
  · rintro ⟨hdollar, hbrace⟩
    refine ⟨hdollar, ?_⟩
    rintro front back rfl
    by_contra hback
    have hopen : '\x7d' ∉ '$' :: '\x7b' :: back := by simpa using hback
    rw [rtakeWhile_append_of_pos (isInner_of_notMem hopen)] at hbrace
    exact hbrace ⟨front.rtakeWhile isInner, back, by simp⟩
  · rintro ⟨hdollar, hbrace⟩
    refine ⟨hdollar, ?_⟩
    rintro ⟨front, back, htail⟩
    obtain ⟨start, hs⟩ := List.rtakeWhile_suffix isInner s
    rw [← htail] at hs
    have hmem : '\x7d' ∈ back := hbrace (start ++ front) back (by simp [← hs])
    have hinner : isInner '\x7d' = true :=
      List.mem_rtakeWhile_imp (by rw [← htail]; exact List.mem_append_right _ hmem)
    exact absurd hinner (by decide)

/-! ## What follows a closed text -/

/-- What a closed text ends in leaves nothing open either. -/
theorem AllClosed.of_append (h : AllClosed (s ++ t)) : AllClosed t := by
  obtain ⟨hdollar, hbrace⟩ := allClosed_iff.1 h
  refine allClosed_iff.2 ⟨fun ht => hdollar ?_, fun front back ht => ?_⟩
  · rw [List.getLast?_append, ht, Option.some_or]
  · exact hbrace (s ++ front) back (by rw [ht, List.append_assoc])

/-- A placeholder that begins within a closed text ends there. -/
theorem AllClosed.begins (h : AllClosed (c :: s)) (hb : Begins (c :: (s ++ t))) :
    Begins (c :: s) := by
  obtain ⟨hdollar, hbrace⟩ := allClosed_iff.1 h
  obtain ⟨rfl, r, hr, hhead, -⟩ := begins_cons_iff.1 hb
  cases s with
  | nil => exact absurd rfl hdollar
  | cons d s =>
    rw [List.cons_append, List.cons.injEq] at hr
    obtain ⟨rfl, rfl⟩ := hr
    have hclosed : '\x7d' ∈ s := hbrace [] s rfl
    refine begins_cons_iff.2 ⟨rfl, s, rfl, ?_, hclosed⟩
    rwa [List.head?_append_of_ne_nil s (List.ne_nil_of_mem hclosed)] at hhead

/-- **The scan of a closed text and what follows** is the scan of the one and then of the other. -/
theorem pieces_append (h : AllClosed s) (t : List Char) :
    pieces (s ++ t) = pieces s ++ pieces t := by
  fun_induction pieces s with
  | case1 => rfl
  | case2 c r name u hlead ih =>
    obtain ⟨hname, hs⟩ := leading?_eq_some_iff.1 hlead
    rw [hs] at h
    rw [hs, List.append_assoc, pieces_written_append hname, ih h.of_append, List.cons_append]
  | case3 c r hlead ih =>
    have hnot : ¬ Begins (c :: (r ++ t)) := mt h.begins (leading?_eq_none_iff.1 hlead)
    have hr : AllClosed r := AllClosed.of_append (s := [c]) h
    rw [List.cons_append, pieces_cons_of_not_begins hnot, ih hr, List.cons_append]

theorem fill_append (h : AllClosed s) (lookup : String → Option String) (t : List Char) :
    fill lookup (s ++ t) = fill lookup s ++ fill lookup t := by
  rw [fill, pieces_append h, List.flatMap_append]
  rfl

/-! ## What follows an open text -/

/-- The first closing brace of a placeholder ends it. -/
theorem eq_nil_of_written_eq (h : IsName name) (hw : written name = s ++ '\x7d' :: t) : t = [] := by
  have hopen : '\x7d' ∉ '$' :: '\x7b' :: name := by simpa using h.2
  exact ((List.append_cons_inj_of_notMem hopen List.not_mem_nil).1 hw).2.2.symm

/-- Of a text that ends in a placeholder, what is left behind another one ends in it as well. -/
theorem suffix_of_append_written (h : IsName name) (ht : t ≠ [])
    (hs : s ++ written name = written found ++ t) : written name <:+ t := by
  rcases List.append_eq_append_iff.1 hs with ⟨x, hx, hname⟩ | ⟨x, -, rfl⟩
  · -- The two would overlap in `x`, which ends in the brace of the first.
    rcases x.eq_nil_or_concat' with rfl | ⟨x, d, rfl⟩
    · exact ⟨[], hname⟩
    · rw [written, ← List.append_assoc] at hx
      obtain ⟨-, hd⟩ := List.append_inj' hx rfl
      obtain rfl : '\x7d' = d := List.singleton_inj.1 hd
      rw [List.append_assoc] at hname
      exact absurd (eq_nil_of_written_eq h hname) ht
  · exact List.suffix_append x _

/-- Where a text ends in a placeholder, so do its pieces; the one that is found may begin
earlier. -/
theorem exists_pieces_append_written (h : IsName name) (s : List Char) :
    ∃ front found, pieces (s ++ written name) = front ++ [.placeholder found] := by
  generalize hall : s ++ written name = all
  fun_induction pieces all generalizing s with
  | case1 => simp [written] at hall
  | case2 c r found t hlead ih =>
    rw [(leading?_eq_some_iff.1 hlead).2] at hall
    by_cases ht : t = []
    · exact ⟨[], found, by rw [ht, pieces_nil, List.nil_append]⟩
    · obtain ⟨s', hs'⟩ := suffix_of_append_written h ht hall
      obtain ⟨front, last, hpieces⟩ := ih s' hs'
      exact ⟨.placeholder found :: front, last, by rw [hpieces, List.cons_append]⟩
  | case3 c r hlead ih =>
    cases s with
    | nil =>
      have hbegins : Begins (c :: r) := ⟨name, h, [], by rw [← hall]; simp⟩
      exact absurd hbegins (leading?_eq_none_iff.1 hlead)
    | cons d s =>
      obtain ⟨rfl, hr⟩ := List.cons.inj hall
      obtain ⟨front, found, hpieces⟩ := ih s hr
      exact ⟨.char d :: front, found, by rw [hpieces, List.cons_append]⟩

/-- A placeholder that reaches over the border is not found on either side. -/
theorem exists_fill_append_ne (h : IsName name) (front : List Char)
    (hs : s ++ t = front ++ written name) (ht : t ≠ []) (hplain : '$' ∉ t) :
    ∃ lookup, fill lookup (s ++ t) ≠ fill lookup s ++ fill lookup t := by
  refine ⟨fun _ => some "x", fun heq => ?_⟩
  obtain ⟨before, last, hpieces⟩ := exists_pieces_append_written h front
  have hvalue : (fill (fun _ => some "x") (s ++ t)).getLast? = some 'x' := by
    rw [hs, fill, hpieces, List.flatMap_append]
    exact List.getLast?_concat ..
  have hbrace : t.getLast? = some '\x7d' := by
    rw [← List.getLast?_append_of_ne_nil s ht, hs, written, ← List.append_assoc]
    exact List.getLast?_concat ..
  rw [heq, fill_of_plain _ hplain, List.getLast?_append_of_ne_nil _ ht, hbrace] at hvalue
  cases hvalue

theorem allClosed_of_fill_append
    (h : ∀ lookup t, fill lookup (s ++ t) = fill lookup s ++ fill lookup t) : AllClosed s := by
  refine allClosed_iff.2 ⟨fun hdollar => ?_, fun front back hs => by_contra fun hback => ?_⟩
  · obtain ⟨front, rfl⟩ := List.getLast?_eq_some_iff.1 hdollar
    have hname : IsName ['n'] := ⟨by decide, by decide⟩
    have hs : front ++ ['$'] ++ ['\x7b', 'n', '\x7d'] = front ++ written ['n'] := by simp [written]
    obtain ⟨lookup, hne⟩ := exists_fill_append_ne hname front hs (by decide) (by decide)
    exact hne (h lookup _)
  · have hname : IsName (back ++ ['n']) := ⟨by simp, by simp [hback]⟩
    have hs' : s ++ ['n', '\x7d'] = front ++ written (back ++ ['n']) := by simp [hs, written]
    obtain ⟨lookup, hne⟩ := exists_fill_append_ne hname front hs' (by decide) (by decide)
    exact hne (h lookup _)

/-- **The texts that are filled in on their own, whatever follows them, are exactly those that
leave no placeholder open.** So a part of a settings file whose placeholders are all closed becomes
the same part of the document, whatever the rest of the file is. -/
theorem allClosed_iff_substitute_append (a : String) :
    (AllClosed a.toList ↔ ∀ lookup b,
      substitute lookup (a ++ b) = substitute lookup a ++ substitute lookup b) ∧
    (AllClosed a.toList → ∀ env b, SettingsFile.document env (a ++ b) =
      SettingsFile.document env a ++ SettingsFile.document env b) := by
  have htoList : ∀ lookup b,
      substitute lookup (a ++ b) = substitute lookup a ++ substitute lookup b ↔
        fill lookup (a.toList ++ b.toList) = fill lookup a.toList ++ fill lookup b.toList := by
    intro lookup b
    rw [← String.toList_inj]
    simp [substitute]
  refine ⟨⟨fun h lookup b => ?_, fun h => ?_⟩, fun h env b => ?_⟩
  · exact (htoList lookup b).2 (fill_append h lookup b.toList)
  · refine allClosed_of_fill_append fun lookup t => ?_
    simpa using (htoList lookup (String.ofList t)).1 (h lookup _)
  · rw [SettingsFile.document, String.toList_append]
    exact fill_append h env.text? b.toList

/-- A name that is cut in two is only found in the whole text. -/
example :
    let lookup name := if name = "A" then some "a" else none
    ¬ AllClosed "$\x7bA".toList ∧ substitute lookup ("$\x7bA" ++ "\x7d") = "a" ∧
      substitute lookup "$\x7bA" ++ substitute lookup "\x7d" = "$\x7bA\x7d" := by
  decide +kernel

end MigrationClient.Placeholder
