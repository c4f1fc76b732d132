import MigrationClient.Config.Encoding
import MigrationClient.Proofs.Json.Restating

/-!
# Settings that are read back

What is written for settings, or for the contents of a settings file, is read back as it was, also
if it is restated and whatever blanks there are (`decode_restated`). Only the object that names the
operation cannot take another member (`Settings.decode_besideTag`).
-/

namespace MigrationClient

open Json Text

/-- The names of the operations, which tag what is written for them. -/
def Operation.tags : List String := forms.map (·.1)

variable {v : Value}

/-! ## Operations -/

namespace Operation

theorem takes_identified {name field : String} {make : String → Operation} {id : String}
    (hfield : field ∉ tags) (h : Restated tags (.object [(field, .string id)]) v) :
    Takes (Variants.Variant.reader ((Form.identified field make).variant name)) v (make id) := by
  refine (takes_single hfield h (fun w hw => ?_) rfl (by simp)).map
  rw [restated_string hw]
  exact takes_string id

/-- **An operation is read from whatever restates it.** -/
theorem takes_decoder {op : Operation} (h : Restated tags op.toJson v) :
    Takes decoder.reader v op := by
  cases op with
  | resources =>
    rw [restated_string h]
    exact takes_bare rfl
  | reset =>
    rw [restated_string h]
    exact takes_bare rfl
  | migrateTenant id =>
    obtain ⟨w, hw, rfl⟩ := restated_tagged h (by decide)
    exact takes_tagged rfl (takes_identified (by decide) hw)
  | evacuateHost id =>
    obtain ⟨w, hw, rfl⟩ := restated_tagged h (by decide)
    exact takes_tagged rfl (takes_identified (by decide) hw)

end Operation

/-! ## Fields -/

section

variable {tags : List String}

/-- A field that may be missing is read from what is written for it, which begins like no
`null`. -/
theorem takes_optionalMap {d : Decoder α} {f : β → Value} {g : β → α} {b : Option β}
    (hd : ∀ b w, Restated tags (f b) w → Takes d.reader w (g b) ∧ ∃ c, w.Starts c ∧ c ≠ 110)
    (h : Restated tags (.ofOption f b) v) : Takes d.nullable.reader v (b.map g) := by
  cases b with
  | none =>
    rw [restated_null h]
    exact takes_null d.reader
  | some b =>
    obtain ⟨htakes, c, hc, hne⟩ := hd b v h
    exact htakes.nullable hc hne

theorem takes_optional {d : Decoder α} {f : α → Value} {a : Option α}
    (hd : ∀ a w, Restated tags (f a) w → Takes d.reader w a ∧ ∃ c, w.Starts c ∧ c ≠ 110)
    (h : Restated tags (.ofOption f a) v) : Takes d.nullable.reader v a := by
  have htakes : Takes d.nullable.reader v (a.map id) := takes_optionalMap hd h
  rwa [Option.map_id] at htakes

theorem takes_optionalString {a : Option String} (h : Restated tags (.ofOption .string a) v) :
    Takes Decoder.string.nullable.reader v a := by
  refine takes_optional (fun s w hw => ?_) h
  rw [restated_string hw]
  exact ⟨takes_string s, _, starts_string s, by decide⟩

theorem takes_optionalPath {a : Option String} (h : Restated tags (.ofOption .string a) v) :
    Takes pathDecoder.nullable.reader v (a.map Utf8.ofString) := by
  refine takes_optionalMap (fun s w hw => ?_) h
  rw [restated_string hw]
  exact ⟨takes_scalar (t := .string s) (by simp) rfl, _, starts_string s, by decide⟩

theorem takes_optionalBoolean {a : Option Bool} (h : Restated tags (.ofOption .boolean a) v) :
    Takes Decoder.boolean.nullable.reader v a := by
  refine takes_optional (fun b w hw => ?_) h
  rw [restated_boolean hw]
  exact ⟨takes_boolean b, exists_starts_boolean b⟩

theorem ofOption_eq_null_iff {f : α → Value} (hf : ∀ a, f a ≠ .null) {a : Option α} :
    Value.ofOption f a = .null ↔ a = none := by
  cases a with
  | none => simp [Value.ofOption]
  | some a => simp [Value.ofOption, hf]

end

/-! ## Settings -/

namespace Settings

variable {s : Settings}

/-- What is written for settings whose file is named by a text. -/
def members (s : Settings) (config : Option String) : List (String × Value) :=
  [("endpoint", .ofOption .string s.endpoint), ("config", .ofOption .string config),
    ("verbose", .boolean s.verbose), ("json_logs", .boolean s.jsonLogs),
    ("command", s.operation.toJson)]

theorem toJson_eq_some {w : Value} (h : s.toJson = some w) : ∃ config : Option String,
    s.config = config.map Utf8.ofString ∧ w = .object (s.members config) := by
  unfold toJson at h
  cases hc : s.config with
  | none =>
    rw [hc] at h
    cases h
    exact ⟨none, rfl, rfl⟩
  | some path =>
    rw [hc] at h
    obtain ⟨config, hpath, hw⟩ := Option.bind_eq_some_iff.1 h
    obtain ⟨text, htext, rfl⟩ := Option.map_eq_some_iff.1 hpath
    cases hw
    refine ⟨some text, ?_, rfl⟩
    rw [Utf8.toString?_eq_some_iff.1 htext]
    rfl

/-- There is JSON for all settings but those whose file is named by no text. -/
theorem exists_toJson_iff :
    (∃ w, s.toJson = some w) ↔ ∀ path, s.config = some path → ∃ text, path = Utf8.ofString text := by
  constructor
  · rintro ⟨w, hw⟩ path hpath
    obtain ⟨config, hconfig, -⟩ := toJson_eq_some hw
    obtain ⟨text, -, htext⟩ := Option.map_eq_some_iff.1 (hconfig.symm.trans hpath)
    exact ⟨text, htext.symm⟩
  · intro h
    unfold toJson
    cases hc : s.config with
    | none => exact ⟨_, rfl⟩
    | some path =>
      obtain ⟨text, rfl⟩ := h path hc
      simp

/-- The fields of settings once some names have been seen. -/
def fieldsAfter (s : Settings) (seen : List String) : Fields where
  endpoint := told seen "endpoint" s.endpoint
  config := told seen "config" s.config
  verbose := told seen "verbose" s.verbose
  jsonLogs := told seen "json_logs" s.jsonLogs
  operation := told seen "command" s.operation

variable {config : Option String} {ms : List (String × Value)} {seen : List String} {k : String}

/-- A field that has not been seen is read from whatever restates its value. -/
theorem exists_readField {w w' : Value} (hconfig : s.config = config.map Utf8.ofString)
    (hw : (k, w) ∈ s.members config) (h : Restated Operation.tags w w') (hseen : k ∉ seen) :
    ∃ r, readField (s.fieldsAfter seen) k = .ok r ∧ Takes r w' (s.fieldsAfter (k :: seen)) := by
  simp only [members, List.mem_cons, Prod.mk.injEq, List.not_mem_nil, or_false] at hw
  rcases hw with ⟨rfl, rfl⟩ | ⟨rfl, rfl⟩ | ⟨rfl, rfl⟩ | ⟨rfl, rfl⟩ | ⟨rfl, rfl⟩
  · exact readInto_told hseen (takes_optionalString h) (by simp [fieldsAfter, told])
  · exact readInto_told hseen (hconfig ▸ takes_optionalPath h) (by simp [fieldsAfter, told])
  · rw [restated_boolean h]
    exact readInto_told hseen (takes_boolean _) (by simp [fieldsAfter, told])
  · rw [restated_boolean h]
    exact readInto_told hseen (takes_boolean _) (by simp [fieldsAfter, told])
  · exact readInto_told hseen (Operation.takes_decoder h) (by simp [fieldsAfter, told])

/-- A member that is no field is passed over. -/
theorem readField_other (hk : k ∉ names (s.members config)) :
    readField (s.fieldsAfter seen) k = passOver (s.fieldsAfter seen) ∧
      s.fieldsAfter (k :: seen) = s.fieldsAfter seen := by
  simp only [names, members, List.map_cons, List.map_nil, List.mem_cons, List.not_mem_nil,
    or_false, not_or] at hk
  constructor
  · unfold readField
    split <;> simp_all
  · simp [fieldsAfter, told, hk, Ne.symm]

/-- The fields that are left out are those that are empty. -/
theorem ofFields_fieldsAfter (hconfig : s.config = config.map Utf8.ofString)
    (h : Rearranged (s.members config) ms) :
    ofFields (s.fieldsAfter (names ms).reverse) = .ok s := by
  have hendpoint : (told (names ms).reverse "endpoint" s.endpoint).join = s.endpoint :=
    join_told h List.mem_cons_self (ofOption_eq_null_iff (by simp)).1
  have hpath : (told (names ms).reverse "config" s.config).join = s.config := by
    refine join_told h (List.mem_cons_of_mem _ List.mem_cons_self) fun hnull => ?_
    rw [hconfig, (ofOption_eq_null_iff (by simp)).1 hnull]
    rfl
  have hverbose : told (names ms).reverse "verbose" s.verbose = some s.verbose :=
    told_of_kept h (v := .boolean s.verbose) (by simp [members]) (by simp)
  have hjson : told (names ms).reverse "json_logs" s.jsonLogs = some s.jsonLogs :=
    told_of_kept h (v := .boolean s.jsonLogs) (by simp [members]) (by simp)
  have hoperation : told (names ms).reverse "command" s.operation = some s.operation :=
    told_of_kept h (v := s.operation.toJson) (by simp [members])
      (by cases s.operation <;> simp [Operation.toJson])
  simp only [ofFields, fieldsAfter, hendpoint, hpath, hverbose, hjson, hoperation]
  rfl

/-- **Settings are read from whatever restates them.** -/
theorem takes_decoder {w : Value} (hs : s.toJson = some w) (h : Restated Operation.tags w v) :
    Takes decoder.reader v s := by
  obtain ⟨config, hconfig, rfl⟩ := toJson_eq_some hs
  obtain ⟨ms, rfl, hms, hvalues⟩ :=
    restated_record h (by simp [names, members]; decide) (by simp [names, members])
  refine takes_object rfl (reads_of_rearranged s.fieldsAfter hms ?_ ?_)
    (ofFields_fieldsAfter hconfig hms)
  · intro seen k w w' hw hw' hseen
    exact exists_readField hconfig hw (hvalues (k, w) hw (k, w') hw' rfl) hseen
  · exact fun seen k hk => readField_other hk

end Settings

/-! ## Settings files -/

namespace SettingsFile

variable {f : SettingsFile}

theorem takes_logging {l : LoggingSection}
    (h : Restated Operation.tags (.object [("verbose", .ofOption .boolean l.verbose)]) v) :
    Takes loggingDecoder.reader v l := by
  refine (takes_single (by decide) h (fun w hw => takes_optionalBoolean hw) rfl fun hnull => ?_).map
  rw [(ofOption_eq_null_iff (by simp)).1 hnull]
  rfl

theorem takes_api {e : String}
    (h : Restated Operation.tags (.object [("endpoint", .string e)]) v) :
    Takes apiDecoder.reader v e := by
  refine takes_single (by decide) h (fun w hw => ?_) rfl (by simp)
  rw [restated_string hw]
  exact takes_string e

/-- The sections of a settings file once some names have been seen. -/
def sectionsAfter (f : SettingsFile) (seen : List String) : Sections where
  api := told seen "api" f.endpoint
  logging := told seen "logging" f.logging

/-- **The contents of a settings file are read from whatever restates them.** -/
theorem takes_decoder (h : Restated Operation.tags f.toJson v) : Takes decoder.reader v f := by
  obtain ⟨ms', rfl, hms, hvalues⟩ := restated_record h (by simp [names]; decide) (by simp [names])
  refine takes_object rfl (reads_of_rearranged f.sectionsAfter hms ?_ ?_) ?_
  · intro seen k w w' hw hw' hseen
    have hvalue : Restated Operation.tags w w' := hvalues (k, w) hw (k, w') hw' rfl
    simp only [List.mem_cons, Prod.mk.injEq, List.not_mem_nil, or_false] at hw
    rcases hw with ⟨rfl, rfl⟩ | ⟨rfl, rfl⟩
    · exact readInto_told hseen (takes_api hvalue) (by simp [sectionsAfter, told])
    · refine readInto_told hseen (takes_optional (fun l w hw => ?_) hvalue)
        (by simp [sectionsAfter, told])
      obtain ⟨ms, rfl, -⟩ := restated_record hw (by simp [names]; decide) (by simp [names])
      exact ⟨takes_logging hw, _, starts_object ms, by decide⟩
  · intro seen k hk
    simp only [names, List.map_cons, List.map_nil, List.mem_cons, List.not_mem_nil, or_false,
      not_or] at hk
    refine ⟨?_, ?_⟩
    · unfold readSection
      split <;> simp_all
    · simp [sectionsAfter, told, hk, Ne.symm]
  · have hapi : told (names ms').reverse "api" f.endpoint = some f.endpoint :=
      told_of_kept hms List.mem_cons_self (by simp)
    have hlogging : (told (names ms').reverse "logging" f.logging).join = f.logging :=
      join_told hms (List.mem_cons_of_mem _ List.mem_cons_self) (ofOption_eq_null_iff (by simp)).1
    simp only [sectionsAfter, hapi, hlogging]
    rfl

end SettingsFile

/-! ## Whole texts -/

/-- **What is written is read back, also if it is restated.** There is JSON for settings whose file,
if they name one, is named by a text; what is written for them is read back, and so is every text
that spells what they may be restated as. The same is true of what is written for the contents of a
settings file. -/
theorem decode_restated :
    (∀ s : Settings, (∀ path, s.config = some path → ∃ text, path = Utf8.ofString text) →
      ∃ w, s.toJson = some w ∧ Settings.decoder.decode (Utf8.ofString w.toString) = .ok s ∧
        ∀ v text, Restated Operation.tags w v → v.Spelled text →
          Settings.decoder.decode text = .ok s) ∧
    (∀ f : SettingsFile, SettingsFile.decoder.decode (Utf8.ofString f.toJson.toString) = .ok f ∧
      ∀ v text, Restated Operation.tags f.toJson v → v.Spelled text →
        SettingsFile.decoder.decode text = .ok f) := by
  refine ⟨fun s hs => ?_, fun f => ⟨?_, fun v text hv ht => ?_⟩⟩
  · obtain ⟨w, hw⟩ := Settings.exists_toJson_iff.2 hs
    refine ⟨w, hw, ?_, fun v text hv ht => ?_⟩
    · exact decode_of_takes (Settings.takes_decoder hw (.same w)) (spelled_toString w)
    · exact decode_of_takes (Settings.takes_decoder hw hv) ht
  · exact decode_of_takes (SettingsFile.takes_decoder (.same _)) (spelled_toString _)
  · exact decode_of_takes (SettingsFile.takes_decoder hv) ht

namespace Settings

/-- Settings that ask for a migration. -/
def migration : Settings := ⟨none, none, false, false, .migrateTenant "a"⟩

/-- What is written for them. -/
def migrationJson : Value :=
  .object [("endpoint", .null), ("config", .null), ("verbose", .boolean false),
    ("json_logs", .boolean false),
    ("command", .object [("MigrateTenant", .object [("tenant_id", .string "a")])])]

/-- What someone may write by hand. -/
def handwritten : Value :=
  .object [("command", .object [("MigrateTenant",
      .object [("note", .number (.integer 7)), ("tenant_id", .string "a")])]),
    ("note", .string "\n"), ("json_logs", .boolean false), ("config", .null),
    ("verbose", .boolean false)]

/-- Members may be moved, left out and added. -/
theorem decode_handwritten :
    (∀ path, migration.config = some path → ∃ text, path = Utf8.ofString text) ∧
      migration.toJson = some migrationJson ∧ Restated Operation.tags migrationJson handwritten ∧
      handwritten.Spelled (Utf8.ofString handwritten.toString) ∧
      decoder.decode (Utf8.ofString handwritten.toString) = .ok migration := by
  have hconfig : ∀ path, migration.config = some path → ∃ text, path = Utf8.ofString text := by
    rintro _ ⟨⟩
  have hcontent : Restated Operation.tags (.object [("tenant_id", .string "a")])
      (.object [("note", .number (.integer 7)), ("tenant_id", .string "a")]) := by
    refine .record (by decide) ⟨by decide, ?_, ?_⟩ ?_
    · simp [names]
    · simp [names, Value.isPlain]
    · simp [Restated.same]
  have hoperation := Restated.tagged (k := "MigrateTenant") (by decide) hcontent
  have hrestated : Restated Operation.tags migrationJson handwritten := by
    refine .record (by decide) ⟨by decide, ?_, ?_⟩ ?_
    · simp [names]
    · simp [names, Value.isPlain]
    · simp [Restated.same, hoperation]
  obtain ⟨w, hw, -, hdecode⟩ := decode_restated.1 migration hconfig
  obtain rfl : migrationJson = w := Option.some.inj hw
  exact ⟨hconfig, hw, hrestated, spelled_toString _, hdecode _ _ hrestated (spelled_toString _)⟩

/-- The settings with another member beside the name of the operation. -/
def besideTag : Value :=
  .object [("endpoint", .null), ("config", .null), ("verbose", .boolean false),
    ("json_logs", .boolean false), ("command", .object [("MigrateTenant",
      .object [("tenant_id", .string "a")]), ("x", .number (.integer 1))])]

/-- Without tags this would be restated settings, but it is read as none. -/
theorem decode_besideTag :
    migration.toJson = some migrationJson ∧ Restated [] migrationJson besideTag ∧
      besideTag.Spelled (Utf8.ofString besideTag.toString) ∧
      ∀ s, decoder.decode (Utf8.ofString besideTag.toString) ≠ .ok s := by
  refine ⟨rfl, ?_, spelled_toString _, ?_⟩
  · have hoperation : Restated [] (.object [("MigrateTenant", .object [("tenant_id", .string "a")])])
        (.object [("MigrateTenant", .object [("tenant_id", .string "a")]),
          ("x", .number (.integer 1))]) := by
      refine .record (by simp) ⟨by decide, ?_, ?_⟩ ?_
      · simp [names]
      · simp [names, Value.isPlain]
      · simp [Restated.same]
    refine .record (by simp) ⟨by decide, ?_, ?_⟩ ?_
    · simp [names]
    · simp [names]
    · simp [Restated.same, hoperation]
  · have herror : (decoder.decode (Utf8.ofString besideTag.toString)).toOption = none := by
      decide +kernel
    intro s hs
    rw [hs] at herror
    cases herror

end Settings

end MigrationClient
