import MigrationClient.Proofs.Domain.Trailing
import MigrationClient.Proofs.Url.Joining
import MigrationClient.Reading

/-!
# URLs that grow at the end

Spaces and controls at the end of a URL are cut off, but not if text is put behind them. They do
no harm behind the authority; at the end of the authority itself they are refused, in a host as in
a port. So **a URL with a path put behind it is one exactly if it is closed** (`parse_extend`,
`parse_extend_ne_ok`), and then its authority is as before. The path ends in what is put there
unless a query or a fragment takes that in (`suffix_path_iff`).
-/

namespace MigrationClient.Url

open Text

/-! ## Ends that are cut off -/

/-- What is cut off at the end of a text and stays once something follows. -/
def loose (s : List Char) : List Char :=
  ((s.dropWhile isEdge).rtakeWhile isEdge).filter (!isDropped ·)

theorem cleanFront_eq (s : List Char) : cleanFront s = clean s ++ loose s := by
  have hcut := List.rdropWhile_append_rtakeWhile (p := isEdge) (l := s.dropWhile isEdge)
  have hclean : clean s = ((s.dropWhile isEdge).rdropWhile isEdge).filter (!isDropped ·) := rfl
  rw [cleanFront, loose, hclean, ← List.filter_append, hcut]

theorem loose_eq_nil {s : List Char} (hlast : ∀ c ∈ s.getLast?, isEdge c = false) :
    loose s = [] := by
  have hend : (s.dropWhile isEdge).rtakeWhile isEdge = [] := by
    rw [List.rtakeWhile_eq_nil_iff]
    intro hne
    have hsuffix := List.dropWhile_suffix isEdge (l := s)
    have hs : s ≠ [] := hsuffix.ne_nil hne
    rw [hsuffix.getLast hne, hlast _ (List.getLast?_eq_some_getLast hs)]
    simp
  rw [loose, hend, List.filter_nil]

theorem isEdge_of_mem_loose {s : List Char} {c : Char} (h : c ∈ loose s) : isEdge c = true :=
  List.mem_rtakeWhile_imp (List.mem_of_mem_filter h)

theorem endsAuthority_of_isEdge {c : Char} (h : isEdge c = true) :
    endsAuthority .web c = false := by
  have hle : c.toNat ≤ 0x20 := by simpa [isEdge] using h
  simp [endsAuthority, ne_of_toNat hle]

/-! ## The authority and what is behind it -/

/-- The text from the authority on. -/
def fromAuthority (s : List Char) : List Char :=
  ((splitScheme? (clean s)).map fun p => p.2.dropWhile fun c => c = '/' || c = '\\').getD []

/-- What stands behind the authority. -/
def behindAuthority (s : List Char) : List Char :=
  (fromAuthority s).dropWhile (!endsAuthority .web ·)

/-- Whether the authority ends before what is cut off at the end of a URL, or nothing is. -/
def isClosed (s : List Char) : Bool := (loose s).isEmpty || !(behindAuthority s).isEmpty

theorem scheme_afterSlashes {scheme s : List Char} {u : Url} (h : afterSlashes scheme s = .ok u) :
    u.scheme = String.ofList scheme := by
  obtain ⟨a, -, h⟩ := Reader.bind_eq_ok_iff.1 h
  cases h
  rfl

theorem scheme_fileUrl {s : List Char} {u : Url} (h : fileUrl s = .ok u) : u.scheme = "file" := by
  unfold fileUrl at h
  dsimp only at h
  repeat' split at h
  all_goals
    obtain ⟨host, -, h⟩ := Reader.bind_eq_ok_iff.1 h
    cases h
    rfl

/-- What is read of an authority of the web: a host, and a port that may be left out. -/
theorem Authority.ofText_eq_ok {scheme s : List Char} {a : Authority}
    (hk : SchemeKind.ofScheme scheme = .web) (h : Authority.ofText scheme s true = .ok a) :
    readHost .web (splitPort false (splitUser s).2).1 (splitPort false (splitUser s).2).2.isSome =
        .ok a.host ∧
      ∃ port, readPort ((splitPort false (splitUser s).2).2.getD []) = .ok port := by
  unfold Authority.ofText at h
  simp only [hk] at h
  rw [if_neg (by simp)] at h
  obtain ⟨host, hhost, h⟩ := Reader.bind_eq_ok_iff.1 h
  obtain ⟨port, hport, h⟩ := Reader.bind_eq_ok_iff.1 h
  split at h
  · cases h
  · cases h
    exact ⟨hhost, port, hport⟩

/-- A URL of the web has an authority behind its scheme and slashes. -/
theorem parse_web {text : String} {u : Url} (h : parse text = .ok u)
    (hs : u.scheme = "http" ∨ u.scheme = "https") :
    ∃ scheme slashes, SchemeKind.ofScheme scheme = .web ∧
      splitScheme? (clean text.toList) = some (scheme, slashes ++ fromAuthority text.toList) ∧
      (∀ c ∈ slashes, c = '/' ∨ c = '\\') ∧
      (fromAuthority text.toList).head?.any (fun c => c ≠ '/' ∧ c ≠ '\\') = true ∧
      afterSlashes scheme (fromAuthority text.toList) = .ok u := by
  unfold parse at h
  cases hsplit : splitScheme? (clean text.toList) with
  | none =>
    rw [hsplit] at h
    cases h
  | some parts =>
    obtain ⟨scheme, rest⟩ := parts
    rw [hsplit] at h
    have hfrom : fromAuthority text.toList = rest.dropWhile fun c => c = '/' || c = '\\' := by
      simp [fromAuthority, hsplit]
    simp only [withScheme] at h
    split at h
    · next hk =>
      refine ⟨scheme, rest.takeWhile fun c => c = '/' || c = '\\', hk, ?_, ?_, ?_, ?_⟩
      · rw [hfrom, List.takeWhile_append_dropWhile]
      · intro c hc
        simpa using List.mem_takeWhile_imp hc
      · have hfirst := List.head?_dropWhile_not (fun c => c = '/' || c = '\\') rest
        rw [← hfrom] at h hfirst
        cases hf : fromAuthority text.toList with
        | nil =>
          rw [hf, afterSlashes_web hk] at h
          obtain ⟨a, ha, -⟩ := Reader.map_eq_ok h
          cases (Authority.ofText_eq_ok hk ha).1
        | cons c r =>
          rw [hf] at hfirst
          simpa using hfirst
      · rw [hfrom]
        exact h
    · next hk =>
      rw [scheme_fileUrl h] at hs
      simp at hs
    · next hk =>
      have hscheme : u.scheme = String.ofList scheme := by
        split at h
        · exact scheme_afterSlashes h
        · cases h
          rfl
      unfold SchemeKind.ofScheme at hk
      rw [← hscheme] at hk
      rcases hs with hs | hs <;> rw [hs] at hk <;> cases hk

/-! ## Ends that are refused -/

section

variable {c : Char}

theorem splitUser_concat (hc : c ≠ '@') (s : List Char) :
    ∃ user rest, splitUser (s ++ [c]) = (user, rest ++ [c]) := by
  have hcut : cutLast? (· == '@') (s ++ [c]) =
      (cutLast? (· == '@') s).map (Prod.map id (· ++ [c])) := by
    induction s with
    | nil => simp [cutLast?, hc]
    | cons d r ih =>
      rw [List.cons_append, cutLast?, ih, cutLast?]
      cases cutLast? (· == '@') r with
      | some parts => rfl
      | none => simp only [Option.map_none]; split <;> rfl
  unfold splitUser
  rw [hcut]
  cases cutLast? (· == '@') s with
  | none => exact ⟨none, s, rfl⟩
  | some parts => exact ⟨some parts.1, parts.2, rfl⟩

/-- What ends no host is at the end of the port, or of the host where there is no port. -/
theorem splitPort_concat (hc : c ≠ ':') (inBrackets : Bool) (s : List Char) :
    (∃ host, splitPort inBrackets (s ++ [c]) = (host ++ [c], none)) ∨
      ∃ host port, splitPort inBrackets (s ++ [c]) = (host, some (port ++ [c])) := by
  induction s generalizing inBrackets with
  | nil => exact .inl ⟨[], by simp [splitPort, hc]⟩
  | cons d r ih =>
    rw [List.cons_append, splitPort]
    split
    · exact .inr ⟨[], r, rfl⟩
    · rcases ih (if d = '[' then true else if d = ']' then false else inBrackets) with
        ⟨host, h⟩ | ⟨host, port, h⟩
      · exact .inl ⟨d :: host, by rw [h]; rfl⟩
      · exact .inr ⟨d :: host, port, by rw [h]⟩

theorem readPort_concat_ne_ok (hc : isEdge c = true) (s : List Char) (port : Option Nat) :
    readPort (s ++ [c]) ≠ .ok port := by
  have hdigit : digitIn? 10 c = none := by
    rw [digitIn?, digitValue?_of_toNat (by simpa [isEdge] using hc)]
    rfl
  have hvalue : value? 10 (s ++ [c]) = none := by
    simp [value?, valueFrom?_append, valueFrom?, hdigit]
  simp [readPort, hvalue]

theorem isSome_readHost {s : List Char} {hasPort : Bool} {host : Option Host}
    (h : readHost .web s hasPort = .ok host) : host.isSome = true := by
  unfold readHost at h
  dsimp only at h
  split at h
  · cases h
  · obtain ⟨_, -, rfl⟩ := Reader.map_eq_ok h
    rfl

/-- There is a host in every authority of the web. -/
theorem Authority.isSome_host {scheme s : List Char} {a : Authority}
    (hk : SchemeKind.ofScheme scheme = .web) (h : Authority.ofText scheme s true = .ok a) :
    a.host.isSome = true :=
  isSome_readHost (Authority.ofText_eq_ok hk h).1

/-- **An authority does not end in a space or a control.** -/
theorem Authority.ofText_concat_ne_ok {scheme : List Char}
    (hk : SchemeKind.ofScheme scheme = .web) (hc : isEdge c = true) (s : List Char)
    (a : Authority) : Authority.ofText scheme (s ++ [c]) true ≠ .ok a := by
  have hle : c.toNat ≤ 0x20 := by simpa [isEdge] using hc
  obtain ⟨user, rest, huser⟩ := splitUser_concat (ne_of_toNat (d := '@') hle (by decide)) s
  intro h
  obtain ⟨hhost, port, hport⟩ := ofText_eq_ok hk h
  rw [huser] at hhost hport
  rcases splitPort_concat (ne_of_toNat (d := ':') hle (by decide)) false rest with
    ⟨host, hsplit⟩ | ⟨host, port', hsplit⟩
  · simp only [hsplit, readHost] at hhost
    rw [if_neg (by simp)] at hhost
    obtain ⟨host', hspecial, -⟩ := Reader.map_eq_ok hhost
    exact Host.special_concat_ne_ok hle host host' hspecial
  · rw [hsplit] at hport
    exact readPort_concat_ne_ok hc port' port hport

end

/-! ## Whole URLs -/

section

variable {endpoint : String} {u : Url}

/-- A URL of the web and all that come of text put behind it are an authority, read from what
stands before the end of it, and the rest. -/
theorem exists_authority (hu : parse endpoint = .ok u)
    (hs : u.scheme = "http" ∨ u.scheme = "https") :
    ∃ scheme a, SchemeKind.ofScheme scheme = .web ∧
      Authority.ofText scheme ((fromAuthority endpoint.toList).takeWhile (!endsAuthority .web ·))
        true = .ok a ∧
      u = Url.withRest ⟨String.ofList scheme, some a, .segments [], none, none⟩
        (behindAuthority endpoint.toList) ∧
      ∀ t : String, parse (endpoint ++ "/" ++ t) =
        (Authority.ofText scheme ((fromAuthority endpoint.toList ++
          loose endpoint.toList).takeWhile (!endsAuthority .web ·)) true).map fun a =>
            Url.withRest ⟨String.ofList scheme, some a, .segments [], none, none⟩
              ((fromAuthority endpoint.toList ++ loose endpoint.toList).dropWhile
                (!endsAuthority .web ·) ++ '/' :: cleanBack t.toList) := by
  obtain ⟨scheme, slashes, hk, hsplit, hslashes, hfirst, hafter⟩ := parse_web hu hs
  rw [afterSlashes_web hk] at hafter
  obtain ⟨a, ha, rfl⟩ := Reader.map_eq_ok hafter
  refine ⟨scheme, a, hk, ha, rfl, fun t => ?_⟩
  have hfront := splitScheme?_append hsplit (loose endpoint.toList)
  rw [← cleanFront_eq, List.append_assoc] at hfront
  have hfirst' : (fromAuthority endpoint.toList ++ loose endpoint.toList).head?.any
      (fun c => c ≠ '/' ∧ c ≠ '\\') = true := by
    cases hf : fromAuthority endpoint.toList with
    | nil => simp [hf] at hfirst
    | cons c r => simpa [hf] using hfirst
  rw [parse_append hfront hk hslashes hfirst', afterSlashes_web hk]
  cases Authority.ofText scheme ((fromAuthority endpoint.toList ++
    loose endpoint.toList).takeWhile (!endsAuthority .web ·)) true <;> rfl

@[simp] theorem scheme_withRest (u : Url) (s : List Char) : (u.withRest s).scheme = u.scheme := rfl

@[simp] theorem host?_withRest (u : Url) (s : List Char) : (u.withRest s).host? = u.host? := rfl

@[simp] theorem port?_withRest (u : Url) (s : List Char) : (u.withRest s).port? = u.port? := rfl

theorem withRest_behindAuthority (hu : parse endpoint = .ok u)
    (hs : u.scheme = "http" ∨ u.scheme = "https") :
    u.withRest (behindAuthority endpoint.toList) = u := by
  obtain ⟨_, _, -, -, rfl, -⟩ := exists_authority hu hs
  rfl

theorem isSome_host? (hu : parse endpoint = .ok u) (hs : u.scheme = "http" ∨ u.scheme = "https") :
    u.host?.isSome = true := by
  obtain ⟨_, a, hk, ha, rfl, -⟩ := exists_authority hu hs
  exact Authority.isSome_host hk ha

/-- **What a closed URL is with a path put behind it**: only the rest is longer. -/
theorem parse_extend (hu : parse endpoint = .ok u) (hs : u.scheme = "http" ∨ u.scheme = "https")
    (hc : isClosed endpoint.toList = true) (t : String) :
    parse (endpoint ++ "/" ++ t) = .ok (u.withRest
      (behindAuthority endpoint.toList ++ loose endpoint.toList ++ '/' :: cleanBack t.toList)) := by
  obtain ⟨scheme, a, -, ha, rfl, hextend⟩ := exists_authority hu hs
  have hcut : (fromAuthority endpoint.toList ++ loose endpoint.toList).takeWhile
        (!endsAuthority .web ·) =
          (fromAuthority endpoint.toList).takeWhile (!endsAuthority .web ·) ∧
      (fromAuthority endpoint.toList ++ loose endpoint.toList).dropWhile (!endsAuthority .web ·) =
        behindAuthority endpoint.toList ++ loose endpoint.toList := by
    simp only [isClosed, Bool.or_eq_true, List.isEmpty_iff, Bool.not_eq_true',
      List.isEmpty_eq_false_iff] at hc
    rcases hc with hloose | hbehind
    · simp [hloose, behindAuthority]
    · exact ⟨takeWhile_append_of_ne_nil hbehind _, dropWhile_append_of_ne_nil hbehind _⟩
  rw [hextend, hcut.1, ha, hcut.2]
  rfl

/-- **A URL that is not closed is none with text put behind it.** -/
theorem parse_extend_ne_ok (hu : parse endpoint = .ok u)
    (hs : u.scheme = "http" ∨ u.scheme = "https") (hc : isClosed endpoint.toList = false)
    (t : String) (v : Url) : parse (endpoint ++ "/" ++ t) ≠ .ok v := by
  obtain ⟨scheme, -, hk, -, -, hextend⟩ := exists_authority hu hs
  simp only [isClosed, Bool.or_eq_false_iff, Bool.not_eq_false', List.isEmpty_iff,
    List.isEmpty_eq_false_iff] at hc
  obtain ⟨s, c, hlast⟩ := (List.eq_nil_or_concat' (loose endpoint.toList)).resolve_left hc.1
  have hall : (fromAuthority endpoint.toList ++ loose endpoint.toList).takeWhile
      (!endsAuthority .web ·) = fromAuthority endpoint.toList ++ s ++ [c] := by
    rw [List.append_assoc, ← hlast, List.takeWhile_eq_self_iff]
    intro d hd
    rcases List.mem_append.1 hd with hd | hd
    · exact List.dropWhile_eq_nil_iff.1 hc.2 d hd
    · simp [endsAuthority_of_isEdge (isEdge_of_mem_loose hd)]
  intro h
  rw [hextend, hall] at h
  obtain ⟨a, ha, -⟩ := Reader.map_eq_ok h
  exact Authority.ofText_concat_ne_ok hk (isEdge_of_mem_loose (hlast ▸ List.mem_concat_self)) _ a ha

/-! ## Marks for a query or a fragment -/

theorem isEdge_of_endsPath {c : Char} (h : endsPath c = true) : isEdge c = false := by
  simp only [endsPath, Bool.or_eq_true, decide_eq_true_eq] at h
  rcases h with rfl | rfl <;> rfl

theorem mem_clean_iff {c : Char} (h : endsPath c = true) (s : List Char) :
    c ∈ clean s ↔ c ∈ s := by
  have hdropped : isDropped c = false := by
    rw [Bool.eq_false_iff]
    intro hd
    simpa [isEdge_of_isDropped hd] using isEdge_of_endsPath h
  simp [clean, mem_trimBy_iff (isEdge_of_endsPath h), hdropped]

/-- The marks in a URL of the web are behind its authority. -/
theorem mem_behindAuthority_iff (hu : parse endpoint = .ok u)
    (hs : u.scheme = "http" ∨ u.scheme = "https") {c : Char} (h : endsPath c = true) :
    c ∈ behindAuthority endpoint.toList ↔ c ∈ endpoint.toList := by
  obtain ⟨scheme, slashes, -, hsplit, hslashes, -, -⟩ := parse_web hu hs
  obtain ⟨-, hd, -⟩ := splitScheme?_eq_some_iff.1 hsplit
  have hmark : c = '?' ∨ c = '#' := by simpa [endsPath] using h
  have hscheme : isSchemeChar c = false := by rcases hmark with rfl | rfl <;> rfl
  have hcolon : c ≠ ':' := by rcases hmark with rfl | rfl <;> decide
  have hslash : c ∉ slashes := fun hc => by
    rcases hslashes c hc with rfl | rfl <;> simp at hmark
  have hends : (!endsAuthority .web c) = false := by rcases hmark with rfl | rfl <;> rfl
  rw [← mem_clean_iff h endpoint.toList, ← mem_dropWhile_iff (s := clean endpoint.toList) hscheme,
    hd, behindAuthority, mem_dropWhile_iff (p := (!endsAuthority .web ·)) hends]
  simp [hcolon, hslash]

/-! ## Paths -/

namespace Path

theorem ofAuthority_separator {c : Char} (h : isSeparator .web c = true) (s : List Char) :
    ofAuthority .web (c :: s) =
      .segments ((walk .web [] (splitBy (isSeparator .web) s)).reverse.map String.ofList) := by
  simp only [ofAuthority, if_pos h]
  rfl

/-- An authority ends at a separator if it does not end at a mark. -/
theorem isSeparator_of_endsAuthority {c : Char} (h : endsAuthority .web c = true)
    (hp : endsPath c = false) : isSeparator .web c = true := by
  simp only [endsAuthority, endsPath, isSeparator, Bool.or_eq_true, Bool.or_eq_false_iff] at h hp ⊢
  simpa [hp] using h

/-- A segment that is put behind a path stays the last one. -/
theorem suffix_toText_walk {word : List Char} (hs : isSingleDot word = false)
    (hd : isDoubleDot word = false) (stack moves : List (List Char)) :
    '/' :: Percent.encode Percent.inPath word <:+
      (Path.segments ((walk .web stack (moves ++ [word])).reverse.map String.ofList)).toText := by
  rw [walk_concat]
  simp [walk, hs, hd, normalSegment, toText]

end Path

/-- Text without marks that begins with a separator, or with nothing, is a path alone, and what a
slash puts behind it is walked after it. -/
theorem path_of_unmarked {s t : List Char} (hstart : s.head?.all (Path.isSeparator .web) = true)
    (hs : ∀ c ∈ s, endsPath c = false) (ht : ∀ c ∈ t, endsPath c = false) (u : Url) :
    (u.withRest (s ++ '/' :: t)).query = none ∧
      ∃ moves, (u.withRest (s ++ '/' :: t)).path = .segments ((Path.walk .web []
        (moves ++ splitBy (Path.isSeparator .web) t)).reverse.map String.ofList) := by
  have hall : ∀ c ∈ s ++ '/' :: t, endsPath c = false := by
    intro c hc
    rcases List.mem_append.1 hc with hc | hc
    · exact hs c hc
    · rcases List.mem_cons.1 hc with rfl | hc
      · rfl
      · exact ht c hc
  have htail := Tail.ofText_append hall []
  rw [List.append_nil] at htail
  constructor
  · simp only [Url.withRest, htail]
    rfl
  · have hpath : (Tail.ofText (s ++ '/' :: t)).path = s ++ '/' :: t := by
      rw [htail]
      exact List.append_nil _
    simp only [Url.withRest, hpath]
    cases s with
    | nil => exact ⟨[], Path.ofAuthority_separator rfl t⟩
    | cons c r =>
      refine ⟨splitBy (Path.isSeparator .web) r, ?_⟩
      rw [List.cons_append, Path.ofAuthority_separator (by simpa using hstart),
        splitBy_append_cons rfl]

/-- A segment behind text without marks ends the path that comes of it. -/
theorem suffix_path_of_unmarked {s word : List Char}
    (hstart : s.head?.all (Path.isSeparator .web) = true) (hs : ∀ c ∈ s, endsPath c = false)
    (hword : ∀ c ∈ word, endsPath c = false ∧ Path.isSeparator .web c = false)
    (hsingle : Path.isSingleDot word = false) (hdouble : Path.isDoubleDot word = false) (u : Url) :
    '/' :: Percent.encode Percent.inPath word <:+ (u.withRest (s ++ '/' :: word)).path.toText := by
  obtain ⟨-, moves, hpath⟩ := path_of_unmarked hstart hs (fun c hc => (hword c hc).1) u
  rw [hpath, splitBy_of_neg fun c hc => (hword c hc).2]
  exact Path.suffix_toText_walk hsingle hdouble [] moves

/-- Behind a mark the path is as before. -/
theorem path_of_marked {s : List Char} (hs : ∃ c ∈ s, endsPath c = true) (t : List Char) (u : Url) :
    (u.withRest (s ++ t)).path = (u.withRest s).path := by
  have hne : s.dropWhile (!endsPath ·) ≠ [] := by
    obtain ⟨c, hc, hmark⟩ := hs
    exact List.ne_nil_of_mem ((mem_dropWhile_iff (by simp [hmark])).2 hc)
  simp only [Url.withRest, Tail.ofText_eq, takeWhile_append_of_ne_nil hne]

/-- What stands behind the authority of a closed URL without marks has none, and begins with a
separator if it is there at all. -/
theorem unmarked_behindAuthority (hu : parse endpoint = .ok u)
    (hs : u.scheme = "http" ∨ u.scheme = "https") (hc : isClosed endpoint.toList = true)
    (h : ∀ c ∈ endpoint.toList, endsPath c = false) :
    (behindAuthority endpoint.toList ++ loose endpoint.toList).head?.all
        (Path.isSeparator .web) = true ∧
      ∀ c ∈ behindAuthority endpoint.toList ++ loose endpoint.toList, endsPath c = false := by
  have hbehind : ∀ c ∈ behindAuthority endpoint.toList, endsPath c = false := fun c hc => by
    rw [Bool.eq_false_iff]
    exact fun hm => absurd (h c ((mem_behindAuthority_iff hu hs hm).1 hc)) (by simp [hm])
  constructor
  · -- What ends the authority is a separator unless it is a mark.
    have hfirst := List.head?_dropWhile_not (!endsAuthority .web ·)
      (fromAuthority endpoint.toList)
    cases hb : behindAuthority endpoint.toList with
    | nil => simp_all [isClosed]
    | cons c r =>
      have hends : endsPath c = false := hbehind c (by simp [hb])
      rw [← behindAuthority, hb] at hfirst
      have hauthority : endsAuthority .web c = true := by simpa using hfirst
      simpa using Path.isSeparator_of_endsAuthority hauthority hends
  · intro c hc
    rcases List.mem_append.1 hc with hc | hc
    · exact hbehind c hc
    · rw [Bool.eq_false_iff]
      intro hm
      simpa [isEdge_of_mem_loose hc] using isEdge_of_endsPath hm

/-- **A segment that is put behind a closed URL ends its path exactly if there is no mark**, or if
the path ended so before. -/
theorem suffix_path_iff (hu : parse endpoint = .ok u) (hs : u.scheme = "http" ∨ u.scheme = "https")
    (hc : isClosed endpoint.toList = true) {word : List Char}
    (hword : ∀ c ∈ word, endsPath c = false ∧ Path.isSeparator .web c = false)
    (hsingle : Path.isSingleDot word = false) (hdouble : Path.isDoubleDot word = false) :
    '/' :: Percent.encode Percent.inPath word <:+ (u.withRest (behindAuthority endpoint.toList ++
        loose endpoint.toList ++ '/' :: word)).path.toText ↔
      (∀ c ∈ endpoint.toList, endsPath c = false) ∨
        '/' :: Percent.encode Percent.inPath word <:+ u.path.toText := by
  by_cases hmark : ∃ c ∈ behindAuthority endpoint.toList, endsPath c = true
  · have hnot : ¬ ∀ c ∈ endpoint.toList, endsPath c = false := fun h => by
      obtain ⟨c, hc, hm⟩ := hmark
      simp [h c ((mem_behindAuthority_iff hu hs hm).1 hc)] at hm
    rw [List.append_assoc, path_of_marked hmark, withRest_behindAuthority hu hs]
    simp [hnot]
  · have hall : ∀ c ∈ endpoint.toList, endsPath c = false := fun c hc => by
      rw [Bool.eq_false_iff]
      exact fun hm => hmark ⟨c, (mem_behindAuthority_iff hu hs hm).2 hc, hm⟩
    obtain ⟨hstart, hplain⟩ := unmarked_behindAuthority hu hs hc hall
    exact iff_of_true (suffix_path_of_unmarked hstart hplain hword hsingle hdouble u) (.inl hall)

end

end MigrationClient.Url
