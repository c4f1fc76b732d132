import MigrationClient.Proofs.CommandLine.Given

/-!
# Where the endpoint comes from

Four places can name the endpoint: an option of the command line, a variable, the file that the
command line names, and the program itself. The first of them that is present wins, even with an
empty value, and **what the later ones hold does not matter** (`effectiveEndpoint_of_first`).
-/

namespace MigrationClient

open Text

/-- What names the endpoint, with the name it gives. -/
inductive EndpointSource where
  | argument (value : List UInt8)
  | environment (value : List UInt8)
  | file (endpoint : String)
  | program
  deriving DecidableEq

namespace EndpointSource

/-- The first source that is present, for a command line in some surroundings; there is none if
the file that is named cannot be read as settings. -/
def first? (w : World) (l : CommandLine.Line) : Option EndpointSource :=
  match l.value? .endpoint, w.env.find? (Utf8.ofString "PUMPHOUSE_ENDPOINT"), l.value? .config with
  | some v, _, _ => some (argument v)
  | none, some v, _ => some (environment v)
  | none, none, some path => (SettingsFile.ofPath w path).toOption.map fun f => file f.endpoint
  | none, none, none => some program

/-- The endpoint that a source names, if it is a text. -/
def endpoint? : EndpointSource → Option String
  | argument v | environment v => Utf8.toString? v
  | file e => some e
  | program => some Settings.defaultEndpoint

end EndpointSource

namespace Settings

variable {w : World} {s t : Settings} {args : List (List UInt8)} {l : CommandLine.Line}

/-- Merging keeps an endpoint, and takes that of the file where there is none. -/
theorem effectiveEndpoint_of_merge (h : s.merge w = .ok t) :
    match s.endpoint, s.config with
    | some e, _ => t.effectiveEndpoint = e
    | none, some path => ∃ f, SettingsFile.ofPath w path = .ok f ∧ t.effectiveEndpoint = f.endpoint
    | none, none => t.effectiveEndpoint = defaultEndpoint := by
  unfold merge at h
  cases hc : s.config with
  | none =>
    rw [hc] at h
    cases h
    cases he : s.endpoint <;> simp [effectiveEndpoint, he]
  | some path =>
    rw [hc] at h
    obtain ⟨f, hf, rfl⟩ := Reader.map_eq_ok h
    cases he : s.endpoint <;> simp [effectiveEndpoint, fillIn, he, hf]

/-- The settings that arguments come to in some surroundings, if they are accepted and the file
they name can be read. -/
def ofArguments? (w : World) (args : List (List UInt8)) : Option Settings := do
  let s ← (CommandLine.parse w.env args).toOption
  (s.merge w).toOption

theorem ofArguments?_eq_some_iff : ofArguments? w args = some t ↔
    ∃ s, CommandLine.parse w.env args = .ok s ∧ s.merge w = .ok t := by
  have hok : ∀ {ε α : Type} {x : Except ε α} {a : α}, x.toOption = some a ↔ x = .ok a :=
    fun {_ _ x _} => by cases x <;> simp [Except.toOption]
  simp only [ofArguments?, Option.bind_eq_bind, Option.bind_eq_some_iff, hok]

/-- What the first source names that is present is the endpoint. -/
theorem endpoint?_first (h : ofArguments? w args = some t) (hl : args.tail = l.arguments) :
    ∃ src, EndpointSource.first? w l = some src ∧ src.endpoint? = some t.effectiveEndpoint := by
  obtain ⟨s, hparse, hmerge⟩ := ofArguments?_eq_some_iff.1 h
  obtain ⟨l', hl', hconfig, hendpoint⟩ := CommandLine.parse_line hparse
  obtain rfl := CommandLine.Line.arguments_inj (hl'.symm.trans hl)
  have ht := effectiveEndpoint_of_merge hmerge
  rw [hconfig] at ht
  have hvalue : ∀ v, s.endpoint.map some = some (Utf8.toString? v) →
      Utf8.toString? v = some t.effectiveEndpoint := by
    intro v hv
    obtain ⟨e, he, hv⟩ := Option.map_eq_some_iff.1 hv
    rw [he] at ht
    rw [← hv, ht]
  unfold EndpointSource.first?
  split
  · next v hv =>
    exact ⟨_, rfl, hvalue v (by simpa [hv] using hendpoint)⟩
  · next v hnone hv =>
    exact ⟨_, rfl, hvalue v (by simpa [hnone, hv] using hendpoint)⟩
  · next path hnone hunset hpath =>
    have he : s.endpoint = none := by simpa [hnone, hunset] using hendpoint
    rw [he, hpath] at ht
    obtain ⟨f, hf, ht⟩ := ht
    exact ⟨.file f.endpoint, by rw [hf]; rfl, congrArg some ht.symm⟩
  · next hnone hunset hpath =>
    have he : s.endpoint = none := by simpa [hnone, hunset] using hendpoint
    rw [he, hpath] at ht
    exact ⟨_, rfl, congrArg some ht.symm⟩

/-- **The endpoint is that of the first source that is present.** Accepted arguments can be read as
a line in one way, the first source of that line is present and names the endpoint, and in any
other run with the same first source the endpoint is the same, whatever else there is. -/
theorem effectiveEndpoint_of_first (h : ofArguments? w args = some t) :
    ∃ l : CommandLine.Line, args.tail = l.arguments ∧
      (∀ l' : CommandLine.Line, args.tail = l'.arguments → l' = l) ∧
      ∃ src, EndpointSource.first? w l = some src ∧ src.endpoint? = some t.effectiveEndpoint ∧
        ∀ (w' : World) (args' : List (List UInt8)) (l' : CommandLine.Line) (t' : Settings),
          ofArguments? w' args' = some t' → args'.tail = l'.arguments →
          EndpointSource.first? w' l' = some src → t'.effectiveEndpoint = t.effectiveEndpoint := by
  obtain ⟨s, hparse, -⟩ := ofArguments?_eq_some_iff.1 h
  obtain ⟨l, hl, -⟩ := CommandLine.parse_line hparse
  obtain ⟨src, hsrc, he⟩ := endpoint?_first h hl
  refine ⟨l, hl, fun l' hl' => CommandLine.Line.arguments_inj (hl'.symm.trans hl), src, hsrc, he,
    fun w' args' l' t' h' hl' hfirst => ?_⟩
  obtain ⟨src', hsrc', he'⟩ := endpoint?_first h' hl'
  obtain rfl := Option.some.inj (hfirst.symm.trans hsrc')
  exact Option.some.inj (he'.symm.trans he)

/-- A variable that is set but empty, beside a file that names an endpoint. -/
def besideFile : World :=
  ⟨⟨[Utf8.ofString "PUMPHOUSE_ENDPOINT="]⟩,
    fun _ => .ok (Utf8.ofString "[api]\nendpoint = \"http://a\"")⟩

/-- A line that names the file. -/
def namingFile : CommandLine.Line := ⟨[.apart .config (Utf8.ofString "c") rfl], .reset, []⟩

/-- The empty variable counts, and not the file. -/
theorem first_besideFile :
    ofArguments? besideFile ([] :: namingFile.arguments) =
        some ⟨some "", some (Utf8.ofString "c"), false, false, .reset⟩ ∧
      EndpointSource.first? besideFile namingFile = some (.environment []) ∧
      EndpointSource.endpoint? (.environment []) = some "" := by
  have h : ofArguments? besideFile ([] :: namingFile.arguments) =
      some ⟨some "", some (Utf8.ofString "c"), false, false, .reset⟩ := by decide +kernel
  obtain ⟨l, -, honly, src, hsrc, he, -⟩ := effectiveEndpoint_of_first h
  obtain rfl := honly namingFile rfl
  obtain rfl : src = .environment [] := Option.some.inj (hsrc.symm.trans (by decide +kernel))
  exact ⟨h, hsrc, he⟩

end Settings

end MigrationClient
