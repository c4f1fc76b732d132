import MigrationClient.Config.History

/-!
# What a history of merges comes to

Settings may be merged any number of times, while files and variables change in between and some
of the attempts fail. What they come to is told by the files that were read: `readings` lists them
from first to last. A merge fills in what one of them says (`afterMerge_eq`), and filling in the
next one changes the endpoint only if there is none yet, and the verbosity only upwards
(`foldl_fillIn`). So **after any history the endpoint is the first that was named, and the settings
are verbose if any file or they themselves ask for it** (`after_eq_readings`). Nothing else ever
changes, and a merge that fails, for one of the reasons in `SettingsFile.Refused`, changes
nothing at all.
-/

namespace MigrationClient

open Text

namespace SettingsFile

/-- The document in a text, with the values of the environment in their places. -/
def document (env : Environment) (text : String) : List Char :=
  Placeholder.fill env.text? text.toList

/-- The fault of a document as an error. -/
def documentError (document : List Char) (fault : Toml.Fault) : Error :=
  .config (.document (fault.report document))

section

variable {w : World} {path bytes : List UInt8} {text : String}

theorem ofPath_of_unreadable {fault : Storage.Fault} (h : w.read path = .error fault) :
    ofPath w path = .error (.io fault) := by
  rw [ofPath, h]
  rfl

theorem ofPath_of_notText (h : w.read path = .ok bytes) (ht : Utf8.toString? bytes = none) :
    ofPath w path = .error (.io .notText) := by
  simp only [ofPath, h, Except.bind, Storage.toText, ht]
  rfl

theorem ofPath_of_text (h : w.read path = .ok bytes) (ht : Utf8.toString? bytes = some text) :
    ofPath w path =
      (ofDocument (document w.env text)).mapError (documentError (document w.env text)) := by
  simp only [ofPath, h, Except.bind, Storage.toText, ht]
  rfl

theorem ofDocument_of_malformed {text : List Char} {fault : Toml.Fault}
    (h : Toml.parse text = .error fault) : ofDocument text = .error fault := by
  rw [ofDocument, h]
  rfl

theorem ofDocument_of_entries {text : List Char} {es : Toml.Entries}
    (h : Toml.parse text = .ok es) :
    ofDocument text = ofEntries ⟨text.length, text.length⟩ es := by
  rw [ofDocument, h]
  rfl

end

/-- The reasons for which there are no settings in the file at a path: it cannot be read, it is no
text, the text is no document, or the document has not the shape of settings. -/
inductive Refused (w : World) (path : List UInt8) : Error → Prop
  | unreadable {fault : Storage.Fault} : w.read path = .error fault → Refused w path (.io fault)
  | notText {bytes : List UInt8} : w.read path = .ok bytes → Utf8.toString? bytes = none →
      Refused w path (.io .notText)
  | malformed {bytes : List UInt8} {text : String} {fault : Toml.Fault} :
      w.read path = .ok bytes → Utf8.toString? bytes = some text →
      Toml.parse (document w.env text) = .error fault →
      Refused w path (documentError (document w.env text) fault)
  | misshapen {bytes : List UInt8} {text : String} {es : Toml.Entries} {fault : Toml.Fault} :
      w.read path = .ok bytes → Utf8.toString? bytes = some text →
      Toml.parse (document w.env text) = .ok es →
      ofEntries ⟨(document w.env text).length, (document w.env text).length⟩ es = .error fault →
      Refused w path (documentError (document w.env text) fault)

/-- **There are no settings in a file for these reasons only.** -/
theorem ofPath_eq_error_iff {w : World} {path : List UInt8} {e : Error} :
    ofPath w path = .error e ↔ Refused w path e := by
  constructor
  · intro h
    cases hr : w.read path with
    | error fault =>
      rw [ofPath_of_unreadable hr] at h
      cases h
      exact .unreadable hr
    | ok bytes =>
      cases ht : Utf8.toString? bytes with
      | none =>
        rw [ofPath_of_notText hr ht] at h
        cases h
        exact .notText hr ht
      | some text =>
        rw [ofPath_of_text hr ht] at h
        cases hp : Toml.parse (document w.env text) with
        | error fault =>
          rw [ofDocument_of_malformed hp] at h
          cases h
          exact .malformed hr ht hp
        | ok es =>
          rw [ofDocument_of_entries hp] at h
          cases hs : ofEntries ⟨(document w.env text).length, (document w.env text).length⟩ es with
          | error fault =>
            rw [hs] at h
            cases h
            exact .misshapen hr ht hp hs
          | ok f =>
            rw [hs] at h
            cases h
  · rintro (hr | ⟨hr, ht⟩ | ⟨hr, ht, hp⟩ | ⟨hr, ht, hp, hs⟩)
    · exact ofPath_of_unreadable hr
    · exact ofPath_of_notText hr ht
    · rw [ofPath_of_text hr ht, ofDocument_of_malformed hp]
      rfl
    · rw [ofPath_of_text hr ht, ofDocument_of_entries hp, hs]
      rfl

end SettingsFile

namespace Settings

/-! ## One merge -/

/-- The file that a merge reads, if one is named and there are settings in it. -/
def reading? (w : World) (config : Option (List UInt8)) : Option SettingsFile :=
  config.bind fun path => (SettingsFile.ofPath w path).toOption

/-- A merge fills in what the file says that it reads, and nothing if it reads none. -/
theorem afterMerge_eq (w : World) (s : Settings) :
    s.afterMerge w = (reading? w s.config).elim s s.fillIn := by
  unfold afterMerge merge reading?
  cases s.config with
  | none => rfl
  | some path =>
    simp only [Option.bind_some]
    cases SettingsFile.ofPath w path <;> rfl

/-- There is no merged result only if the file that is named is refused. -/
theorem merge_eq_error_iff {w : World} {s : Settings} {e : Error} :
    s.merge w = .error e ↔ ∃ path, s.config = some path ∧ SettingsFile.Refused w path e := by
  unfold merge
  cases s.config with
  | none => simp
  | some path =>
    simp only [Option.some.injEq, exists_eq_left', ← SettingsFile.ofPath_eq_error_iff]
    cases SettingsFile.ofPath w path <;> simp [Except.map]

/-! ## Any number of files -/

/-- **What files come to that are filled in one after the other.** -/
theorem foldl_fillIn (s : Settings) (fs : List SettingsFile) :
    fs.foldl fillIn s =
      { s with
        endpoint := s.endpoint.or (fs.head?.map (·.endpoint))
        verbose := s.verbose || fs.any (·.verbose) } := by
  induction fs generalizing s with
  | nil => simp
  | cons f fs ih =>
    rw [List.foldl_cons, ih]
    cases he : s.endpoint <;> simp [fillIn, he, Bool.or_assoc]

/-! ## Histories -/

/-- The file that a step reads. -/
def Step.reading? (site : Site) (config : Option (List UInt8)) : Step → Option SettingsFile
  | merge => Settings.reading? site.world config
  | _ => none

/-- The files that are read in the course of some steps, from first to last. -/
def readings (config : Option (List UInt8)) (site : Site) : List Step → List SettingsFile
  | [] => []
  | step :: steps =>
    (step.reading? site config).toList ++ readings config (step.change site) steps

theorem apply_eq (site : Site) (s : Settings) (step : Step) :
    step.apply site s = (step.reading? site s.config).elim s s.fillIn := by
  cases step with
  | merge => exact afterMerge_eq site.world s
  | _ => rfl

/-- No step changes which file is named. -/
theorem config_apply (site : Site) (s : Settings) (step : Step) :
    (step.apply site s).config = s.config := by
  rw [apply_eq]
  cases step.reading? site s.config <;> rfl

/-- A history fills in the files that it reads, in their order. -/
theorem snd_after (site : Site) (s : Settings) (steps : List Step) :
    (after site s steps).2 = (readings s.config site steps).foldl fillIn s := by
  induction steps generalizing site s with
  | nil => rfl
  | cons step steps ih =>
    rw [after_cons, ih, config_apply, readings, List.foldl_append, apply_eq]
    cases step.reading? site s.config <;> rfl

theorem after_append (site : Site) (s : Settings) (front back : List Step) :
    after site s (front ++ back) = after (after site s front).1 (after site s front).2 back :=
  List.foldl_append ..

theorem after_append_merge (site : Site) (s : Settings) (steps : List Step) :
    after site s (steps ++ [.merge]) = ((after site s steps).1,
      (after site s steps).2.afterMerge (after site s steps).1.world) := by
  rw [after_append]
  rfl

/-- Merging once more, with nothing changed in between, changes nothing. -/
theorem afterMerge_afterMerge (w : World) (s : Settings) :
    (s.afterMerge w).afterMerge w = s.afterMerge w := by
  have hconfig : (s.afterMerge w).config = s.config := by
    rw [afterMerge_eq]
    cases reading? w s.config <;> rfl
  rw [afterMerge_eq w (s.afterMerge w), hconfig, afterMerge_eq]
  cases reading? w s.config with
  | none => rfl
  | some f => simp [fillIn]

/-- **What settings come to in any history**: the endpoint is theirs, or that of the first file
that was read; they are verbose if they were or any such file is; all else stays. A merge fails
for no other reason than that its file is refused, and then nothing changes; a second merge in
a row changes nothing; and what is verbose stays so. -/
theorem after_eq_readings (site : Site) (s : Settings) (steps : List Step) :
    (after site s steps).2 =
      { endpoint := s.endpoint.or ((readings s.config site steps).head?.map (·.endpoint))
        config := s.config
        verbose := s.verbose || (readings s.config site steps).any (·.verbose)
        jsonLogs := s.jsonLogs
        operation := s.operation } ∧
    (∀ e, (after site s steps).2.merge (after site s steps).1.world = .error e →
      after site s (steps ++ [.merge]) = after site s steps ∧
      ∃ path, s.config = some path ∧
        SettingsFile.Refused (after site s steps).1.world path e) ∧
    after site s (steps ++ [.merge, .merge]) = after site s (steps ++ [.merge]) ∧
    ∀ rest, (after site s steps).2.verbose = true →
      (after site s (steps ++ rest)).2.verbose = true := by
  have hfilled : ∀ site (s : Settings) steps, (after site s steps).2 = { s with
      endpoint := s.endpoint.or ((readings s.config site steps).head?.map (·.endpoint))
      verbose := s.verbose || (readings s.config site steps).any (·.verbose) } :=
    fun site s steps => by rw [snd_after, foldl_fillIn]
  have hconfig : (after site s steps).2.config = s.config := by rw [hfilled]
  refine ⟨hfilled site s steps, fun e he => ⟨?_, ?_⟩, ?_, fun rest hv => ?_⟩
  · rw [after_append_merge, afterMerge, he]
  · simpa [hconfig] using merge_eq_error_iff.1 he
  · rw [List.append_cons, after_append_merge, after_append_merge, afterMerge_afterMerge]
  · rw [after_append, hfilled]
    simp [hv]

/-- A file that is not there yet is read by the second merge. -/
example : (after ⟨.empty, .start []⟩ ⟨none, some (Utf8.ofString "c"), false, false, .reset⟩
    [.merge, .write (Utf8.ofString "c") (Utf8.ofString "[api]\nendpoint = \"http://a\""),
      .merge]).2.endpoint = some "http://a" := by
  decide +kernel

end Settings

end MigrationClient
