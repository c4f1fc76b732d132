import MigrationClient.Proofs.Config.History
import MigrationClient.Proofs.Toml.Decoding
import MigrationClient.Proofs.Toml.Lines

/-!
# What a document has to say to be settings

Of a document in which `api` and `logging` are tables wherever they stand, three things matter: the
endpoint in `api`, whether there is `logging` at all, and what it says about `verbose`. Settings are
read exactly when the endpoint is a string and `verbose` is a boolean if it is there, and then they
are just these (`Regular.ofEntries_eq_ok_iff`). Each of the three can be told from the lines of the
document (`Regular.mentioned_iff`, `Regular.said_iff`), so **documents that say the same about them
come to the same settings** (`ofText_of_regular`), however they put it, in whatever order, and
whatever else they say.
-/

namespace MigrationClient

open Toml Reader

/-! ## Data -/

/-- A string or a boolean. -/
inductive Datum where
  | string (s : String)
  | boolean (b : Bool)
  deriving DecidableEq

/-- The string or boolean that a value is. -/
def Toml.Value.datum? : Value → Option Datum
  | .string _ s => some (.string s)
  | .boolean _ b => some (.boolean b)
  | _ => none

/-- The string or boolean that a path leads to. -/
def Toml.Entries.datum? (p : List String) (es : Entries) : Option Datum :=
  (es.at? p).bind Value.datum?

namespace Toml

variable {v : Value}

theorem Value.datum?_eq_string_iff {s : String} :
    v.datum? = some (.string s) ↔ ∃ span, v = .string span s := by
  cases v <;> simp [Value.datum?]

theorem Value.datum?_eq_boolean_iff {b : Bool} :
    v.datum? = some (.boolean b) ↔ ∃ span, v = .boolean span b := by
  cases v <;> simp [Value.datum?]

theorem Value.not_isGroup_of_datum? {x : Datum} (h : v.datum? = some x) : ¬ v.IsGroup := by
  rintro (_ | _) <;> cases h

end Toml

namespace SettingsFile

/-! ## Sections -/

variable {es : Entries} {span : Span} {kind : TableKind} {env : Environment} {text : String}
  {f : SettingsFile} {d d' : List Char}

theorem readApi_eq_ok_iff (hs : es.Sorted) {endpoint : String} :
    readApi (.table span kind es) = .ok endpoint ↔
      (∀ e ∈ es, e.1 ≠ "endpoint" → e.2.Bounded) ∧
        (es.find? "endpoint").bind Value.datum? = some (.string endpoint) := by
  rw [readApi, Value.single_table_eq_ok_iff hs]
  refine and_congr_right fun _ => ?_
  cases es.find? "endpoint" with
  | none => simp [missing]
  | some v =>
    rw [Option.elim_some, Option.bind_some, Value.string?_eq_ok_iff, Value.datum?_eq_string_iff]

theorem readLogging_eq_ok_iff (hs : es.Sorted) {l : LoggingSection} :
    readLogging (.table span kind es) = .ok l ↔
      (∀ e ∈ es, e.1 ≠ "verbose" → e.2.Bounded) ∧
        (es.find? "verbose").map Value.datum? = l.verbose.map (some ∘ .boolean) := by
  obtain ⟨verbose⟩ := l
  have hmap : ∀ x : Except Fault (Option Bool),
      x.map LoggingSection.mk = .ok ⟨verbose⟩ ↔ x = .ok verbose := by
    intro x
    cases x <;> simp [Except.map]
  rw [readLogging, hmap, Value.single_table_eq_ok_iff hs]
  refine and_congr_right fun _ => ?_
  cases es.find? "verbose" with
  | none => cases verbose <;> simp
  | some v =>
    rw [Option.elim_some, Option.map_some]
    cases hv : v.boolean? with
    | error fault =>
      have hne : ∀ b, v.datum? ≠ some (.boolean b) := by
        intro b h
        rw [Value.boolean?_eq_ok_iff.2 (Value.datum?_eq_boolean_iff.1 h)] at hv
        cases hv
      cases verbose <;> simp [Except.map, hne]
    | ok b =>
      rw [Value.datum?_eq_boolean_iff.2 (Value.boolean?_eq_ok_iff.1 hv)]
      cases verbose <;> simp [Except.map]

/-- Settings are read from two entries, of which only the first has to be there. -/
theorem ofEntries_eq_ok_iff (hs : es.Sorted) :
    ofEntries span es = .ok f ↔
      (∀ e ∈ es, e.1 ∉ ["api", "logging"] → e.2.Bounded) ∧
        (∃ v, es.find? "api" = some v ∧ readApi v = .ok f.endpoint) ∧
          match f.logging with
          | none => es.find? "logging" = none
          | some l => ∃ v, es.find? "logging" = some v ∧ readLogging v = .ok l := by
  obtain ⟨endpoint, logging⟩ := f
  rw [ofEntries, bind_eq_ok_iff]
  refine (exists_congr fun _ => and_congr_left fun _ =>
    Entries.readFields_eq_ok_iff (List.pairwise_pair.2 (by decide)) hs).trans ?_
  simp only [Entries.passedOver_iff, List.map_cons, List.map_nil, List.foldlM_cons,
    List.foldlM_nil, and_assoc, exists_and_left]
  refine and_congr_right fun _ => ?_
  cases es.find? "api" with
  | none =>
    cases es.find? "logging" with
    | none => simp [missing, bind, Except.bind, pure, Except.pure]
    | some w =>
      cases hw : readLogging w <;>
        simp [hw, missing, Except.map, bind, Except.bind, pure, Except.pure]
  | some v =>
    cases hv : readApi v with
    | error fault => simp [hv, Except.map, bind, Except.bind]
    | ok e =>
      cases es.find? "logging" with
      | none => cases logging <;> simp [hv, Except.map, bind, Except.bind, pure, Except.pure]
      | some w =>
        cases hw : readLogging w <;> cases logging <;>
          simp [hv, hw, Except.map, bind, Except.bind, pure, Except.pure]

/-! ## Regular documents -/

/-- A document with these entries, in which no number is out of bounds, and in which the sections
that are there are tables. -/
structure Regular (d : List Char) (es : Entries) : Prop where
  parsed : Toml.parse d = .ok es
  bounded : ∀ e ∈ es, e.2.Bounded
  sections : ∀ k ∈ ["api", "logging"], ∀ v, es.find? k = some v →
    ∃ span kind inner, v = .table span kind inner

theorem Regular.find?_eq_table (h : Regular d es) {k : String} (hk : k ∈ ["api", "logging"])
    {v : Value} (hv : es.find? k = some v) :
    ∃ span kind, ∃ inner : Entries, v = .table span kind inner ∧ inner.Sorted ∧
      (∀ e ∈ inner, e.2.Bounded) ∧ ∀ p, p ≠ [] → es.at? (k :: p) = inner.at? p := by
  obtain ⟨span, kind, inner, rfl⟩ := h.sections k hk v hv
  obtain ⟨-, horderly⟩ := grows_parse h.parsed
  have hmem := Entries.mem_of_find? hv
  have hinner := Value.orderly_table_iff.1 (horderly.2 _ hmem)
  have hb := (Value.bounded_iff.1 (h.bounded _ hmem)).2
  refine ⟨span, kind, inner, rfl, hinner.1, fun e he => hb _ (List.mem_map_of_mem he),
    fun p hp => ?_⟩
  rw [Entries.at?, hv, Option.bind_some, Entries.at?_table hp]

/-- **What settings a regular document has.** -/
theorem Regular.ofEntries_eq_ok_iff (h : Regular d es) :
    ofEntries span es = .ok f ↔
      es.datum? ["api", "endpoint"] = some (.string f.endpoint) ∧
        match f.logging with
        | none => es.at? ["logging"] = none
        | some l => (es.at? ["logging"]).isSome ∧
          (es.at? ["logging", "verbose"]).map Value.datum? = l.verbose.map (some ∘ .boolean) := by
  obtain ⟨-, horderly⟩ := grows_parse h.parsed
  rw [SettingsFile.ofEntries_eq_ok_iff horderly.1, and_iff_right fun e he _ => h.bounded e he]
  refine and_congr ?_ ?_
  · cases hapi : es.find? "api" with
    | none => simp [Entries.datum?, Entries.at?, hapi]
    | some v =>
      obtain ⟨span, kind, inner, rfl, hs, hb, hat⟩ := h.find?_eq_table (by simp) hapi
      rw [Entries.datum?, hat _ (by simp), Entries.at?_singleton]
      simpa using (readApi_eq_ok_iff hs).trans (and_iff_right fun e he _ => hb e he)
  · cases f.logging with
    | none => simp [Entries.at?_singleton]
    | some l =>
      rw [Entries.at?_singleton]
      cases hlogging : es.find? "logging" with
      | none => simp
      | some v =>
        obtain ⟨span, kind, inner, rfl, hs, hb, hat⟩ := h.find?_eq_table (by simp) hlogging
        rw [hat _ (by simp), Entries.at?_singleton]
        simpa using (readLogging_eq_ok_iff hs).trans (and_iff_right fun e he _ => hb e he)

/-- The paths that settings are told at. -/
def paths : List (List String) := [["api", "endpoint"], ["logging"], ["logging", "verbose"]]

/-- No path of settings leads into an array of tables. -/
theorem Regular.not_blocked (h : Regular d es) {p : List String} (hp : p ∈ paths) :
    ¬ es.Blocked p := by
  obtain ⟨k, hk, q, hq, rfl⟩ : ∃ k ∈ ["api", "logging"], ∃ q, q.length ≤ 1 ∧ p = k :: q := by
    simp only [paths, List.mem_cons, List.not_mem_nil, or_false] at hp
    rcases hp with rfl | rfl | rfl <;> simp
  rintro ⟨front, back, span, items, hback, hp, hat⟩
  cases front with
  | nil => cases hat
  | cons j front =>
    obtain ⟨rfl, rfl⟩ := List.cons.inj hp
    have hlength : (front ++ back).length ≤ 1 := hq
    have hback := List.length_pos_iff.2 hback
    rw [List.length_append] at hlength
    obtain rfl : front = [] := List.eq_nil_of_length_eq_zero (by omega)
    rw [Entries.at?_singleton] at hat
    obtain ⟨_, _, _, he⟩ := h.sections k hk _ hat
    cases he

/-! ## Lines -/

/-- Some line of a document mentions a path. -/
def Mentioned (d : List Char) (p : List String) : Prop := ∃ l ∈ lines d, l.Mentions p

/-- Some line of a document says a string or a boolean for a path. -/
def Said (d : List Char) (p : List String) (x : Datum) : Prop :=
  ∃ l ∈ lines d, ∃ v, l.Says p v ∧ v.datum? = some x

/-- Two documents say the same for a path: both mention it or neither does, and a string or boolean
that is said for it in one is said for it in the other. -/
def SameAt (d d' : List Char) (p : List String) : Prop :=
  (Mentioned d p ↔ Mentioned d' p) ∧ ∀ x, Said d p x ↔ Said d' p x

theorem Regular.mentioned_iff (h : Regular d es) {p : List String} (hp : p ∈ paths) :
    Mentioned d p ↔ (es.at? p).isSome := by
  have hne : p ≠ [] := by
    rintro rfl
    simp [paths] at hp
  exact ((grows_parse h.parsed).1.isSome_at?_iff hne (h.not_blocked hp)).symm

theorem Regular.said_iff (h : Regular d es) {p : List String} (hp : p ∈ paths) {x : Datum} :
    Said d p x ↔ es.datum? p = some x := by
  have hgrows := (grows_parse h.parsed).1
  rw [Entries.datum?, Option.bind_eq_some_iff]
  constructor
  · rintro ⟨l, hl, v, hv, hx⟩
    have hplain := Value.not_isGroup_of_datum? hx
    exact ⟨v, (hgrows.at?_eq_some_iff (h.not_blocked hp) hplain).2 ⟨l, hl, hv⟩, hx⟩
  · rintro ⟨v, hv, hx⟩
    have hplain := Value.not_isGroup_of_datum? hx
    obtain ⟨l, hl, hv⟩ := (hgrows.at?_eq_some_iff (h.not_blocked hp) hplain).1 hv
    exact ⟨l, hl, v, hv, hx⟩

/-- What the lines say at the paths of settings is what is there. -/
theorem Regular.sameAt_iff {es' : Entries} (h : Regular d es) (h' : Regular d' es')
    {p : List String} (hp : p ∈ paths) :
    SameAt d d' p ↔
      ((es.at? p).isSome ↔ (es'.at? p).isSome) ∧ es.datum? p = es'.datum? p := by
  simp only [SameAt, h.mentioned_iff hp, h'.mentioned_iff hp, h.said_iff hp, h'.said_iff hp,
    ← Option.ext_iff]

/-! ## Settings -/

theorem ofText_eq_ok_iff : ofText env text = .ok f ↔ ofDocument (document env text) = .ok f := by
  rw [ofText]
  change (ofDocument (document env text)).mapError _ = _ ↔ _
  cases ofDocument (document env text) with
  | error fault => exact ⟨nofun, nofun⟩
  | ok g =>
    constructor <;>
      · intro h
        cases h
        rfl

theorem ofText_eq_error {e : Error} (h : ofText env text = .error e) :
    ∃ report, e = .config (.document report) := by
  rw [ofText] at h
  change (ofDocument (document env text)).mapError _ = _ at h
  cases hd : ofDocument (document env text) with
  | error fault =>
    rw [hd] at h
    cases h
    exact ⟨_, rfl⟩
  | ok f =>
    rw [hd] at h
    cases h

theorem Regular.ofText_eq_ok_iff (h : Regular (document env text) es) :
    ofText env text = .ok f ↔
      es.datum? ["api", "endpoint"] = some (.string f.endpoint) ∧
        match f.logging with
        | none => es.at? ["logging"] = none
        | some l => (es.at? ["logging"]).isSome ∧
          (es.at? ["logging", "verbose"]).map Value.datum? = l.verbose.map (some ∘ .boolean) := by
  rw [SettingsFile.ofText_eq_ok_iff, ofDocument_of_entries h.parsed, h.ofEntries_eq_ok_iff]

/-- What is told at a path, as an optional boolean, can be told from what is there at all and which
data are. -/
theorem map_datum?_eq_iff {p : List String} {b : Option Bool} :
    (es.at? p).map Value.datum? = b.map (some ∘ .boolean) ↔
      match b with
      | none => ¬ (es.at? p).isSome
      | some b => es.datum? p = some (.boolean b) := by
  rw [Entries.datum?]
  cases es.at? p <;> cases b <;> simp

/-- Two regular documents that say the same at the paths of settings have the same settings. -/
theorem Regular.ofEntries_congr {es' : Entries} {span' : Span} (h : Regular d es)
    (h' : Regular d' es') (hsame : ∀ p ∈ paths, SameAt d d' p) :
    ofEntries span es = .ok f ↔ ofEntries span' es' = .ok f := by
  have hat := fun p hp => (h.sameAt_iff h' hp).1 (hsame p hp)
  obtain ⟨-, hendpoint⟩ := hat ["api", "endpoint"] (by simp [paths])
  obtain ⟨hlogging, -⟩ := hat ["logging"] (by simp [paths])
  obtain ⟨hthere, hverbose⟩ := hat ["logging", "verbose"] (by simp [paths])
  rw [h.ofEntries_eq_ok_iff, h'.ofEntries_eq_ok_iff, hendpoint]
  refine and_congr_right fun _ => ?_
  cases f.logging with
  | none => rw [← Option.not_isSome_iff_eq_none, hlogging, Option.not_isSome_iff_eq_none]
  | some l =>
    simp only [hlogging, map_datum?_eq_iff]
    cases l.verbose <;> simp only [hthere, hverbose]

/-- Which regular documents are settings. -/
theorem Regular.exists_ofText_iff (h : Regular (document env text) es) :
    (∃ f, ofText env text = .ok f) ↔
      (es.at? ["api"]).isSome ∧ (∃ s, es.datum? ["api", "endpoint"] = some (.string s)) ∧
        (es.at? ["logging"] = none ∨ es.at? ["logging", "verbose"] = none ∨
          ∃ b, es.datum? ["logging", "verbose"] = some (.boolean b)) := by
  constructor
  · rintro ⟨f, hf⟩
    obtain ⟨hendpoint, hlogging⟩ := h.ofText_eq_ok_iff.1 hf
    refine ⟨?_, ⟨_, hendpoint⟩, ?_⟩
    · rw [Entries.at?_singleton]
      rw [Entries.datum?, Entries.at?] at hendpoint
      cases hapi : es.find? "api" with
      | none => simp [hapi] at hendpoint
      | some v => rfl
    · split at hlogging
      · exact .inl hlogging
      · next l hl =>
        obtain ⟨-, hverbose⟩ := hlogging
        rw [map_datum?_eq_iff] at hverbose
        split at hverbose
        · exact .inr (.inl (Option.not_isSome_iff_eq_none.1 hverbose))
        · exact .inr (.inr ⟨_, hverbose⟩)
  · rintro ⟨-, ⟨s, hs⟩, hlogging⟩
    by_cases hnone : es.at? ["logging"] = none
    · exact ⟨⟨s, none⟩, h.ofText_eq_ok_iff.2 ⟨hs, hnone⟩⟩
    · have hsome := Option.isSome_iff_ne_none.2 hnone
      rcases hlogging.resolve_left hnone with hverbose | ⟨b, hb⟩
      · exact ⟨⟨s, some ⟨none⟩⟩, h.ofText_eq_ok_iff.2 ⟨hs, hsome, by rw [hverbose]; rfl⟩⟩
      · exact ⟨⟨s, some ⟨some b⟩⟩, h.ofText_eq_ok_iff.2 ⟨hs, hsome, map_datum?_eq_iff.2 hb⟩⟩

/-- There is a section in the settings exactly if there is a table in the document. -/
theorem Regular.logging_eq_none_iff (h : Regular (document env text) es)
    (hf : ofText env text = .ok f) : f.logging = none ↔ es.at? ["logging"] = none := by
  obtain ⟨-, hlogging⟩ := h.ofText_eq_ok_iff.1 hf
  split at hlogging
  · next hl => simp [hl, hlogging]
  · next l hl => simp [hl, Option.isSome_iff_ne_none.1 hlogging.1]

/-- Texts whose documents say the same at the paths of settings come to the same. -/
theorem Regular.ofText_congr {env' : Environment} {text' : String} {es' : Entries}
    (h : Regular (document env text) es) (h' : Regular (document env' text') es')
    (hsame : ∀ p ∈ paths, SameAt (document env text) (document env' text') p) :
    (ofText env' text').toOption = (ofText env text).toOption := by
  have hok : ∀ f, ofText env' text' = .ok f ↔ ofText env text = .ok f := by
    intro f
    rw [SettingsFile.ofText_eq_ok_iff, SettingsFile.ofText_eq_ok_iff,
      ofDocument_of_entries h.parsed, ofDocument_of_entries h'.parsed]
    exact (h.ofEntries_congr h' hsame).symm
  cases hf : ofText env text with
  | ok f => rw [(hok f).2 hf]
  | error e =>
    cases hf' : ofText env' text' with
    | error e' => rfl
    | ok f =>
      rw [(hok f).1 hf'] at hf
      cases hf

/-- **Which documents are settings, and which settings they are.** Whatever fails is the
configuration's fault. A regular document is read exactly when `api` is there with a string as its
endpoint, and `logging` is absent, or has no `verbose`, or a boolean for it; the settings are then
this endpoint and, if there is `logging`, this `verbose`. Another regular document that says the
same at these paths comes to the same. -/
theorem ofText_of_regular (env : Environment) (text : String) :
    (∀ e, ofText env text = .error e → ∃ report, e = .config (.document report)) ∧
    ∀ es, Regular (document env text) es →
      ((∃ f, ofText env text = .ok f) ↔
        (es.at? ["api"]).isSome ∧ (∃ s, es.datum? ["api", "endpoint"] = some (.string s)) ∧
          (es.at? ["logging"] = none ∨ es.at? ["logging", "verbose"] = none ∨
            ∃ b, es.datum? ["logging", "verbose"] = some (.boolean b))) ∧
      (∀ f, ofText env text = .ok f →
        es.datum? ["api", "endpoint"] = some (.string f.endpoint) ∧
          (f.logging = none ↔ es.at? ["logging"] = none) ∧
          ∀ l, f.logging = some l →
            (es.at? ["logging", "verbose"]).map Value.datum? =
              l.verbose.map (some ∘ .boolean)) ∧
      ∀ env' text' es', Regular (document env' text') es' →
        (∀ p ∈ paths, SameAt (document env text) (document env' text') p) →
        (ofText env' text').toOption = (ofText env text).toOption := by
  refine ⟨fun e => ofText_eq_error, fun es h => ⟨h.exists_ofText_iff, fun f hf => ?_, ?_⟩⟩
  · obtain ⟨hendpoint, hlogging⟩ := h.ofText_eq_ok_iff.1 hf
    refine ⟨hendpoint, h.logging_eq_none_iff hf, fun l hl => ?_⟩
    rw [hl] at hlogging
    exact hlogging.2
  · intro env' text' es' h' hsame
    exact h.ofText_congr h' hsame

/-- The entries of a document, if it is regular. -/
def regular? (d : List Char) : Option Entries :=
  (Toml.parse d).toOption.filter fun es =>
    (tooLargeInEntries es).isNone &&
      ["api", "logging"].all fun k => (es.find? k).all fun v => v matches .table _ _ _

theorem regular_of_regular? (h : regular? d = some es) : Regular d es := by
  obtain ⟨hparse, hes⟩ := Option.filter_eq_some_iff.1 h
  rw [Bool.and_eq_true, Option.isNone_iff_eq_none, tooLargeInEntries_eq_none_iff,
    List.all_eq_true] at hes
  refine ⟨?_, fun e he => hes.1 _ (List.mem_map_of_mem he), fun k hk v hv => ?_⟩
  · cases hp : Toml.parse d <;> simp_all [Except.toOption]
  · have htable := hes.2 k hk
    rw [hv] at htable
    cases v <;> simp at htable ⊢

/-- Sections under headers. -/
def underHeaders : String :=
  "[logging]\nverbose = true\nlevel = 3\n\n[api]\nretries = [1, 2.5]\nendpoint = \"http://a\"\n"

/-- The same in dotted keys and in braces, with a table of another name that looks like one of the
sections. -/
def inBraces : String :=
  "\"api\".endpoint = 'http://a' # first\nlogging = \x7b level = 07:32, verbose = true \x7d\n" ++
    "[[extra.api]]\nendpoint = 3\n"

/-- Both are read, and come to the same. -/
theorem underHeaders_inBraces :
    ∃ es es', Regular (document .empty underHeaders) es ∧ Regular (document .empty inBraces) es' ∧
      (∀ p ∈ paths, SameAt (document .empty underHeaders) (document .empty inBraces) p) ∧
      (ofText .empty inBraces).toOption = (ofText .empty underHeaders).toOption ∧
      (ofText .empty underHeaders).toOption = some ⟨"http://a", some ⟨some true⟩⟩ := by
  let view := fun es : Entries => paths.map fun p => ((es.at? p).isSome, es.datum? p)
  have hview : (regular? (document .empty underHeaders)).map view =
      some [(true, some (.string "http://a")), (true, none), (true, some (.boolean true))] := by
    decide +kernel
  have hview' : (regular? (document .empty inBraces)).map view =
      some [(true, some (.string "http://a")), (true, none), (true, some (.boolean true))] := by
    decide +kernel
  obtain ⟨es, hes, hv⟩ := Option.map_eq_some_iff.1 hview
  obtain ⟨es', hes', hv'⟩ := Option.map_eq_some_iff.1 hview'
  have h := regular_of_regular? hes
  have h' := regular_of_regular? hes'
  have hsame : ∀ p ∈ paths, SameAt (document .empty underHeaders) (document .empty inBraces) p := by
    intro p hp
    have hp' := List.map_inj_left.1 (hv.trans hv'.symm) p hp
    rw [Prod.mk.injEq] at hp'
    exact (h.sameAt_iff h' hp).2 ⟨Bool.eq_iff_iff.1 hp'.1, hp'.2⟩
  obtain ⟨-, -, hcongr⟩ := (ofText_of_regular .empty underHeaders).2 es h
  have hsettings := hcongr .empty inBraces es' h' hsame
  exact ⟨es, es', h, h', hsame, hsettings, by decide +kernel⟩

end SettingsFile

end MigrationClient
