import MigrationClient.Proofs.Config.Placeholder
import MigrationClient.Proofs.Config.Sections
import MigrationClient.Proofs.Toml.Statements

/-!
# Endpoints between quotes

The endpoint of a settings file stands between double quotes, and placeholders are filled in before
the quotes are looked at. So it depends on what is between them whether the environment has a say in
the settings. If all that is special is written by its number, there is no placeholder: **any
settings can be written so that they are read back in every environment** (`ofText_withEndpoint`).
If there is a placeholder, the value of its variable comes to stand between the quotes as it is. It
may close them and go on in any way it likes; but the endpoint is the string that the first of them
opens (`quoted_of_ofDocument`), and therefore it **is the value exactly if the value is plain**
(`endpoint_eq_iff_plain`).
-/

namespace MigrationClient.SettingsFile

open Toml Reader Placeholder

variable {inner s : String} {verbose : Option Bool} {f : SettingsFile}

/-! ## Documents with one endpoint -/

def loggingText : Option Bool → String
  | none => ""
  | some b => "[logging]\nverbose = " ++ booleanText b ++ "\n"

/-- The settings file with some text between the quotes of its endpoint. -/
def withEndpoint (inner : String) (verbose : Option Bool) : String :=
  "[api]\nendpoint = \"" ++ inner ++ "\"\n" ++ loggingText verbose

theorem isBareKey_of_mem {k : String} (hk : k ∈ ["api", "endpoint", "logging", "verbose"]) :
    IsBareKey k := by
  have hall : ["api", "endpoint", "logging", "verbose"].all
      (fun k => decide (k.toList ≠ []) && k.toList.all isBare) = true := by decide
  have hbare := List.all_eq_true.1 hall k hk
  rw [Bool.and_eq_true, decide_eq_true_eq, List.all_eq_true] at hbare
  exact hbare

theorem toList_withEndpoint (inner : String) (verbose : Option Bool) :
    (withEndpoint inner verbose).toList = '[' :: ("api".toList ++ ']' :: '\n' ::
      ("endpoint".toList ++ ' ' :: '=' :: ' ' :: '"' ::
        (inner.toList ++ '"' :: '\n' :: (loggingText verbose).toList))) := by
  have hopening : "[api]\nendpoint = \"".toList = '[' :: ("api".toList ++ ']' :: '\n' ::
      ("endpoint".toList ++ [' ', '=', ' ', '"'])) := by decide
  have hclosing : "\"\n".toList = ['"', '\n'] := by decide
  unfold withEndpoint
  simp only [String.toList_append, hopening, hclosing, List.append_assoc,
    List.cons_append, List.nil_append]

theorem statements_loggingText (b : Bool) :
    ∃ span span' span'' place, statements (loggingText (some b)).toList =
      .ok [.table [⟨"logging", span⟩] span', .entry [⟨"verbose", span''⟩] (.boolean place b)] := by
  have htext : (loggingText (some b)).toList = '[' :: ("logging".toList ++ ']' :: '\n' ::
      ("verbose".toList ++ ' ' :: '=' :: ' ' :: ((booleanText b).toList ++ ['\n']))) := by
    have hopening : "[logging]\nverbose = ".toList = '[' :: ("logging".toList ++ ']' :: '\n' ::
        ("verbose".toList ++ [' ', '=', ' '])) := by decide
    have hclosing : "\n".toList = ['\n'] := by decide
    unfold loggingText
    simp only [String.toList_append, hopening, hclosing, List.append_assoc,
      List.cons_append, List.nil_append]
  have hspace : skipSpace ((booleanText b).toList ++ ['\n']) =
      (booleanText b).toList ++ ['\n'] := by
    cases b <;> rfl
  obtain ⟨place, hvalue⟩ := value_boolean b []
  obtain ⟨span, span', span'', h⟩ := statements_section
    (isBareKey_of_mem (k := "logging") (by simp)) (isBareKey_of_mem (k := "verbose") (by simp))
    hspace hvalue
  rw [statements_nil, ← htext] at h
  exact ⟨span, span', span'', place, h⟩

theorem withoutMark_withEndpoint (inner : String) (verbose : Option Bool) :
    withoutMark (withEndpoint inner verbose).toList = (withEndpoint inner verbose).toList := by
  rw [toList_withEndpoint]
  rfl

theorem parse_withEndpoint {as : List Statement}
    (h : statements (withEndpoint inner verbose).toList = .ok as) :
    Toml.parse (withEndpoint inner verbose).toList =
      (as.foldlM Draft.add ⟨[], []⟩).map (·.entries) := by
  rw [Toml.parse, withoutMark_withEndpoint, h]
  change as.foldlM Toml.Draft.add _ >>= _ = _
  cases as.foldlM Toml.Draft.add ⟨[], []⟩ <;> rfl

/-- Where the quotes are closed at the end of the line, what is between them is the endpoint. -/
theorem ofDocument_withEndpoint
    (h : quoted ('"' :: (inner.toList ++ '"' :: '\n' :: (loggingText verbose).toList)) =
      .ok (s, '\n' :: (loggingText verbose).toList)) :
    ofDocument (withEndpoint inner verbose).toList =
      .ok ⟨s, verbose.map fun b => ⟨some b⟩⟩ := by
  obtain ⟨place, hvalue⟩ : ∃ span, (value maxDepth).run
      ('"' :: (inner.toList ++ '"' :: '\n' :: (loggingText verbose).toList)) =
      .ok (.string span s, '\n' :: (loggingText verbose).toList) := by
    rw [value_string, h]
    exact ⟨_, rfl⟩
  obtain ⟨span, span', span'', hlines⟩ := statements_section
    (isBareKey_of_mem (k := "api") (by simp)) (isBareKey_of_mem (k := "endpoint") (by simp))
    (skipSpace_cons (by decide) _) hvalue
  rw [← toList_withEndpoint] at hlines
  cases verbose with
  | none =>
    have hlogging : statements (loggingText none).toList = .ok [] := statements_nil
    rw [hlogging] at hlines
    have hparse := parse_withEndpoint hlines
    rw [foldlM_section rfl] at hparse
    rw [ofDocument_of_entries hparse]
    rfl
  | some b =>
    obtain ⟨_, _, _, _, hlogging⟩ := statements_loggingText b
    rw [hlogging] at hlines
    have hparse := parse_withEndpoint hlines
    rw [foldlM_section rfl, foldlM_section rfl] at hparse
    rw [ofDocument_of_entries hparse]
    rfl

theorem dollar_notMem_loggingText : '$' ∉ (loggingText verbose).toList := by
  cases verbose with
  | none => decide
  | some b =>
    unfold loggingText
    rw [String.toList_append, String.toList_append, List.mem_append, List.mem_append]
    have hboolean : '$' ∉ (booleanText b).toList := by cases b <;> decide
    exact not_or.2 ⟨not_or.2 ⟨by decide, hboolean⟩, by decide⟩

/-- Outside the quotes there is nothing to fill in. -/
theorem document_withEndpoint {env : Environment} {v : String}
    (h : ∀ t, fill env.text? (inner.toList ++ t) = v.toList ++ fill env.text? t) :
    document env (withEndpoint inner verbose) = (withEndpoint v verbose).toList := by
  have hopening : '$' ∉ "[api]\nendpoint = \"".toList := by decide
  have hclosing : '$' ∉ "\"\n".toList ++ (loggingText verbose).toList := by
    rw [List.mem_append]
    exact not_or.2 ⟨by decide, dollar_notMem_loggingText⟩
  unfold document withEndpoint
  simp only [String.toList_append, List.append_assoc]
  rw [fill_append_of_plain _ hopening, h, fill_of_plain _ hclosing]

/-! ## Endpoints written out -/

/-- What is written by its number: quotes, backslashes, dollar signs and controls. -/
def isNumbered (c : Char) : Bool :=
  c = '"' || c = '\\' || c = '$' || c.toNat ≤ 0x1F || c.toNat = 0x7F

/-- An endpoint as it is written so that it holds no placeholder. -/
def escaped (upper : Bool) (endpoint : String) : String :=
  String.ofList (spelled upper isNumbered endpoint.toList)

theorem spellable_isNumbered (cs : List Char) : Spellable isNumbered cs := by
  intro c _
  split
  · next h =>
    simp only [isNumbered, Bool.or_eq_true, decide_eq_true_eq] at h
    rcases h with (((rfl | rfl) | rfl) | h) | h
    · decide
    · decide
    · decide
    · omega
    · omega
  · next h =>
    simp only [isNumbered, Bool.or_eq_true, decide_eq_true_eq, not_or] at h
    obtain ⟨⟨⟨⟨hquote, hescape⟩, -⟩, hlow⟩, hdelete⟩ := h
    exact ⟨hquote, hescape, fun hcontrol => by unfold IsControl at hcontrol; omega⟩

theorem dollar_notMem_spelled (upper : Bool) (cs : List Char) :
    '$' ∉ spelled upper isNumbered cs := by
  have hdigit : ∀ upper, ∀ m : Fin 16, '$' ≠ hexDigit upper m.1 := by decide
  intro hmem
  obtain ⟨c, -, hc⟩ := List.mem_flatMap.1 hmem
  split at hc
  · simp only [byNumber, fourDigits, List.map_cons, List.map_nil, List.mem_cons, List.not_mem_nil,
      or_false] at hc
    rcases hc with hc | hc | hc | hc | hc | hc
    · cases hc
    · cases hc
    all_goals exact hdigit upper ⟨_ % 16, Nat.mod_lt _ (by decide)⟩ hc
  · next h =>
    obtain rfl := List.mem_singleton.1 hc
    exact h rfl

/-- **Any settings can be written so that the environment has no say in them.** The endpoint is
written with all that is special by its number, in digits of either case. -/
theorem ofText_withEndpoint (env : Environment) (upper : Bool) (endpoint : String)
    (verbose : Option Bool) :
    ofText env (withEndpoint (escaped upper endpoint) verbose) =
      .ok ⟨endpoint, verbose.map fun b => ⟨some b⟩⟩ := by
  have hdollar : '$' ∉ (escaped upper endpoint).toList := by
    rw [escaped, String.toList_ofList]
    exact dollar_notMem_spelled upper _
  have hquoted := quoted_spelled upper (spellable_isNumbered endpoint.toList) (d := '\n')
    (by decide) (loggingText verbose).toList
  rw [String.ofList_toList] at hquoted
  rw [ofText_eq_ok_iff, document_withEndpoint (fill_append_of_plain env.text? hdollar)]
  refine ofDocument_withEndpoint ?_
  rwa [escaped, String.toList_ofList]

/-! ## Endpoints filled in -/

/-- Whatever else there is in a document, its settings have the endpoint that a path leads to. -/
theorem datum?_endpoint {es : Entries} {span : Span} {v : Value} (hes : es.Orderly)
    (hv : es.at? ["api", "endpoint"] = some v) (h : ofEntries span es = .ok f) :
    v.datum? = some (.string f.endpoint) := by
  obtain ⟨-, ⟨u, hu, hread⟩, -⟩ := (ofEntries_eq_ok_iff hes.1).1 h
  rw [Entries.at?, hu, Option.bind_some] at hv
  cases u with
  | table span kind inner =>
    have hinner := Value.orderly_table_iff.1 (hes.2 _ (Entries.mem_of_find? hu))
    obtain ⟨-, hendpoint⟩ := (readApi_eq_ok_iff hinner.1).1 hread
    have hfound : Entries.find? "endpoint" inner = some v := by
      rwa [Entries.at?_table (List.cons_ne_nil _ _), Entries.at?_singleton] at hv
    rwa [hfound] at hendpoint
  | _ => cases hv

/-- If such a document is read at all, then a string begins at the first quote. -/
theorem statements_withEndpoint {as : List Statement}
    (h : statements (withEndpoint inner verbose).toList = .ok as) :
    ∃ span span' span'' place s r as',
      as = .table [⟨"api", span⟩] span' :: .entry [⟨"endpoint", span''⟩] (.string place s) :: as' ∧
      quoted ('"' :: (inner.toList ++ '"' :: '\n' :: (loggingText verbose).toList)) =
        .ok (s, r) := by
  have hname := isBareKey_of_mem (k := "endpoint") (by simp)
  obtain ⟨span, span', hheader⟩ := statement_header (isBareKey_of_mem (k := "api") (by simp))
    ('\n' :: ("endpoint".toList ++ ' ' :: '=' :: ' ' :: '"' ::
      (inner.toList ++ '"' :: '\n' :: (loggingText verbose).toList)))
  obtain ⟨span'', hentry⟩ := statement_entry hname (skipSpace_cons (c := '"') (by decide)
    (inner.toList ++ '"' :: '\n' :: (loggingText verbose).toList))
  rw [toList_withEndpoint, statements_line (starts_cons (by decide) (by decide) _) hheader] at h
  obtain ⟨as, has, rfl⟩ := map_eq_ok h
  obtain ⟨a, r, as', ha, rfl⟩ := statements_eq_ok (hname.starts _) has
  rw [hentry] at ha
  obtain ⟨v, hv, rfl⟩ := mapStep_eq_ok ha
  obtain ⟨⟨s, t⟩, hs, he⟩ := map_eq_ok hv
  cases he
  exact ⟨span, span', span'', _, s, r, as', rfl, hs⟩

/-- **The endpoint is the string that the first quote opens**, wherever it is closed and however the
document goes on. -/
theorem quoted_of_ofDocument (h : ofDocument (withEndpoint inner verbose).toList = .ok f) :
    ∃ r, quoted ('"' :: (inner.toList ++ '"' :: '\n' :: (loggingText verbose).toList)) =
      .ok (f.endpoint, r) := by
  obtain ⟨es, hes, h⟩ := bind_eq_ok_iff.1 h
  rw [Toml.parse, withoutMark_withEndpoint] at hes
  obtain ⟨as, has, hes⟩ := bind_eq_ok_iff.1 hes
  obtain ⟨d, hd, he⟩ := bind_eq_ok_iff.1 hes
  cases he
  have hread := wellRead_statements has
  obtain ⟨span, span', span'', place, s, r, as', rfl, hs⟩ := statements_withEndpoint has
  rw [foldlM_section rfl] at hd
  have hstring : (Value.string place s).Orderly :=
    Value.orderly_of_inner (fun _ _ _ he => by cases he) fun u hu => absurd hu List.not_mem_nil
  have hapi := Entries.orderly_put Entries.orderly_nil "endpoint" hstring
  have htable : (Value.table span' .header _).Orderly := Value.orderly_table_iff.2 hapi
  have hbegun := Entries.orderly_put Entries.orderly_nil "api" htable
  -- whatever comes below, the string stays where it is
  obtain ⟨hgrows, horderly⟩ := grows_foldlM_add (fun a ha => hread a (by simp [ha])) hbegun hd
  obtain ⟨w, hw, halike⟩ := hgrows.lasts ["api", "endpoint"] (.string place s) rfl
  cases halike
  have hdatum := datum?_endpoint horderly hw h
  cases hdatum
  exact ⟨r, hs⟩

/-- Text that is plain is read as it stands between the quotes. -/
theorem ofDocument_of_plain (h : ∀ c ∈ inner.toList, IsPlain c) :
    ofDocument (withEndpoint inner none).toList = .ok ⟨inner, none⟩ := by
  have hspellable : Spellable (fun _ => false) inner.toList := by simpa [Spellable] using h
  have hquoted := quoted_spelled false hspellable (d := '\n') (by decide) []
  rw [spelled_none, String.ofList_toList] at hquoted
  exact ofDocument_withEndpoint hquoted

/-- **What stands between the quotes is the endpoint exactly if all of it is plain.** -/
theorem endpoint_eq_iff_plain :
    (∃ f, ofDocument (withEndpoint inner none).toList = .ok f ∧ f.endpoint = inner) ↔
      ∀ c ∈ inner.toList, IsPlain c := by
  constructor
  · rintro ⟨f, hf, hendpoint⟩
    obtain ⟨r, hr⟩ := quoted_of_ofDocument hf
    have hquoted : quoted ('"' :: (inner.toList ++ ['"', '\n'])) =
        .ok (String.ofList inner.toList, r) := by
      rw [String.ofList_toList]
      exact hendpoint ▸ hr
    exact plain_of_quoted hquoted
  · exact fun h => ⟨_, ofDocument_of_plain h, rfl⟩

/-- A name in a placeholder. -/
def placeholder (name : String) : String := "$\x7b" ++ name ++ "\x7d"

theorem toList_placeholder (name : String) : (placeholder name).toList = written name.toList := by
  have hopening : "$\x7b".toList = ['$', '\x7b'] := by decide
  have hclosing : "\x7d".toList = ['\x7d'] := by decide
  unfold placeholder
  rw [String.toList_append, String.toList_append, hopening, hclosing]
  rfl

/-- **Where a value ends up that the environment gives.** A document whose endpoint is the
placeholder of a variable is read as settings with the value of the variable as their endpoint
exactly if the value holds no quote, no backslash and no control other than the tab. There is no
logging section then. That the value may itself hold placeholders makes no difference. -/
theorem ofText_placeholder (env : Environment) (name v : String) (hname : name ≠ "")
    (hclosed : '\x7d' ∉ name.toList) (hv : env.text? name = some v) :
    ((∃ f, ofText env (withEndpoint (placeholder name) none) = .ok f ∧ f.endpoint = v) ↔
      ∀ c ∈ v.toList, IsPlain c) ∧
    ((∀ c ∈ v.toList, IsPlain c) →
      ofText env (withEndpoint (placeholder name) none) = .ok ⟨v, none⟩) := by
  have hisName : IsName name.toList := ⟨mt String.toList_eq_nil_iff.1 hname, hclosed⟩
  have hfill : ∀ t, fill env.text? ((placeholder name).toList ++ t) =
      v.toList ++ fill env.text? t := by
    intro t
    rw [toList_placeholder, fill_written_append hisName (by rwa [String.ofList_toList])]
  have hdocument : document env (withEndpoint (placeholder name) none) =
      (withEndpoint v none).toList := document_withEndpoint hfill
  simp only [ofText_eq_ok_iff, hdocument]
  exact ⟨endpoint_eq_iff_plain, ofDocument_of_plain⟩

/-- A variable whose value names another in a placeholder, and one whose value goes on after the
end of the string. -/
def nested : Environment :=
  ⟨["A=http://$\x7bB\x7d", "B=\"\nverbose = \""].map Text.Utf8.ofString⟩

/-- The first is read as it stands. The second is no endpoint, though there is one. -/
theorem ofText_nested :
    nested.text? "A" = some "http://$\x7bB\x7d" ∧
    ofText nested (withEndpoint (placeholder "A") none) = .ok ⟨"http://$\x7bB\x7d", none⟩ ∧
    nested.text? "B" = some "\"\nverbose = \"" ∧
    (¬ ∃ f, ofText nested (withEndpoint (placeholder "B") none) = .ok f ∧
      f.endpoint = "\"\nverbose = \"") ∧
    (ofText nested (withEndpoint (placeholder "B") none)).toOption = some ⟨"", none⟩ := by
  have ha : nested.text? "A" = some "http://$\x7bB\x7d" := by decide +kernel
  have hb : nested.text? "B" = some "\"\nverbose = \"" := by decide +kernel
  obtain ⟨-, hread⟩ := ofText_placeholder nested "A" _ (by decide) (by decide) ha
  obtain ⟨hiff, -⟩ := ofText_placeholder nested "B" _ (by decide) (by decide) hb
  have hall : "http://$\x7bB\x7d".toList.all (fun c => decide (IsPlain c)) = true := by decide
  have hplain : ∀ c ∈ "http://$\x7bB\x7d".toList, IsPlain c := fun c hc =>
    of_decide_eq_true (List.all_eq_true.1 hall c hc)
  have hnot : ¬ ∀ c ∈ "\"\nverbose = \"".toList, IsPlain c := fun h =>
    (h '"' (by decide)).1 rfl
  exact ⟨ha, hread hplain, hb, mt hiff.1 hnot, by decide +kernel⟩

end MigrationClient.SettingsFile
