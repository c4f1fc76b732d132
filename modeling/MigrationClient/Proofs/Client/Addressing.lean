import MigrationClient.Config.Settings
import MigrationClient.Proofs.Client.Completion
import MigrationClient.Proofs.Url.Joining

/-!
# What an identifier addresses

An identifier is put into the URL of a request as it is, so whatever it holds is read as part of a
URL: separators begin new segments, dots lead out of the collection, a question mark begins a
query, and what a number sign begins is not sent. All that validation asks of an identifier is
that it is not blank. `Confined` says which identifiers are read as the name of one thing in their
collection, and **validated settings address their own thing exactly if the identifier is
confined** (`addresses_own_iff_confined`). Others are accepted all the same: a migration of
`../reset` resets the clouds (`reset_addressed`).
-/

namespace MigrationClient

open Text

/-- The collection that an operation acts in, and the identifier of what it acts on. -/
def Operation.subject? : Operation → Option (String × String)
  | .migrateTenant tenant => some ("tenants", tenant)
  | .evacuateHost host => some ("hosts", host)
  | _ => none

theorem Operation.path_of_subject? {op : Operation} {collection id : String}
    (h : op.subject? = some (collection, id)) :
    (collection = "tenants" ∨ collection = "hosts") ∧
      op.path = "/" ++ (collection ++ "/" ++ id) := by
  cases op with
  | migrateTenant tenant =>
    cases h
    exact ⟨.inl rfl, by simp only [Operation.path, ← String.append_assoc]; rfl⟩
  | evacuateHost host =>
    cases h
    exact ⟨.inr rfl, by simp only [Operation.path, ← String.append_assoc]; rfl⟩
  | resources | reset => cases h

/-- What is asked for in a collection is done to it. -/
theorem Operation.method_of_subject? {op : Operation} {subject : String × String}
    (h : op.subject? = some subject) : op.method = .post := by
  cases op with
  | migrateTenant | evacuateHost => rfl
  | resources | reset => cases h

/-- Collection and identifier tell the operation. -/
theorem Operation.subject?_inj {op op' : Operation} {subject : String × String}
    (h : op.subject? = some subject) (h' : op'.subject? = some subject) : op = op' := by
  cases op <;> cases h <;> cases op' <;> simp_all [subject?]

namespace Client

open Http

/-- The segments that an identifier is read as behind the slash of its collection. -/
def segmentsOf (id : String) : List (List Char) :=
  splitBy (Url.Path.isSeparator .web)
    ((Url.cleanBack id.toList).takeWhile (!Url.endsPath ·))

/-- Whether an identifier names one thing in its collection: it holds no query, its segments up to
the last lead back to the collection, and the last one is a name. -/
structure Confined (collection id : String) : Prop where
  query : '?' ∉ (Url.cleanBack id.toList).takeWhile (!· == '#')
  returns : (segmentsOf id).dropLast.foldl (Url.Path.enter .web) [collection.toList] =
    [collection.toList]
  named : ∀ name ∈ (segmentsOf id).getLast?, name ≠ [] ∧ Url.Path.isSingleDot name = false ∧
    Url.Path.isDoubleDot name = false

/-! ## The URL of a request -/

/-- The first request goes to the URL that endpoint and path spell. -/
theorem target_of_head? {peer : Peer} {endpoint : String} {op : Operation} {first : Request}
    (h : (perform peer endpoint op).requests.head? = some first) :
    ∃ u, Url.parse (urlFor endpoint op.path) = .ok u ∧ first.target.path = u.path ∧
      first.target.query = u.query := by
  obtain ⟨p, hp, -, rfl⟩ := exists_prepared_of_head? h
  obtain ⟨u, hu, -, hurl, -⟩ := prepare_eq_ok hp
  refine ⟨u, hu, ?_⟩
  simp only [Request.make, Url.withoutFragment, hurl]
  split <;> exact ⟨rfl, rfl⟩

/-! ## Endpoints that are an authority alone -/

/-- A URL needs more than dropped characters behind its slashes. -/
theorem parse_of_dropped {authority : String}
    (h : ∀ c ∈ authority.toList, Url.isDropped c = true) :
    Url.parse ("http://" ++ authority) = .error .emptyHost := by
  have hback : Url.cleanBack authority.toList = [] := by
    unfold Url.cleanBack
    rw [List.rdropWhile_eq_nil_iff.2 fun c hc => Url.isEdge_of_isDropped (h c hc)]
    rfl
  have hclean : Url.clean ("http://" ++ authority).toList = "http://".toList := by
    rw [String.toList_append]
    change Url.clean ("http:/".toList ++ '/' :: authority.toList) = _
    rw [Url.clean_append_cons rfl, hback]
    rfl
  rw [Url.parse, hclean]
  rfl

/-- An endpoint that is valid has more than dropped characters in it. -/
theorem exists_kept_of_valid {field authority : String}
    (h : Validation.url field ("http://" ++ authority) = .ok ()) :
    ∃ c ∈ authority.toList, Url.isDropped c = false := by
  by_contra hno
  have hall : ∀ c ∈ authority.toList, Url.isDropped c = true := fun c hc => by
    rw [← Bool.not_eq_false]
    exact fun hd => hno ⟨c, hc, hd⟩
  rw [Validation.url, parse_of_dropped hall] at h
  split at h <;> cases h

/-- What is put behind an authority becomes the path, the query and the fragment. -/
theorem parse_behind_authority {authority : String}
    (ha : ∀ c ∈ authority.toList, Url.endsAuthority .web c = false)
    (hne : ∃ c ∈ authority.toList, Url.isDropped c = false) (rest : String) :
    Url.parse ("http://" ++ authority ++ "/" ++ rest) =
      (Url.afterSlashes "http".toList (authority.toList.filter (!Url.isDropped ·))).map
        (·.withRest ('/' :: Url.cleanBack rest.toList)) := by
  have hkept : ∀ c ∈ authority.toList.filter (!Url.isDropped ·),
      Url.endsAuthority .web c = false := fun c hc => ha c (List.mem_of_mem_filter hc)
  have hfirst : ((authority.toList.filter (!Url.isDropped ·)).head?.any
      fun c => c ≠ '/' ∧ c ≠ '\\') = true := by
    obtain ⟨c, hc, hd⟩ := hne
    obtain ⟨d, r, hr⟩ := List.exists_cons_of_ne_nil (List.ne_nil_of_mem
      (List.mem_filter.2 ⟨hc, by simp [hd]⟩ : c ∈ authority.toList.filter (!Url.isDropped ·)))
    have hends : Url.endsAuthority .web d = false := hkept d (by rw [hr]; exact List.mem_cons_self)
    simp only [Url.endsAuthority, Url.SchemeKind.isSpecial, Bool.true_and, Bool.or_eq_false_iff,
      decide_eq_false_iff_not] at hends
    rw [hr]
    simp [hends]
  have hscheme : Url.splitScheme? (Url.cleanFront ("http://" ++ authority).toList) =
      some ("http".toList, ['/', '/'] ++ authority.toList.filter (!Url.isDropped ·)) := by
    rw [String.toList_append]
    rfl
  rw [Url.parse_append hscheme rfl (by simp) hfirst,
    List.dropWhile_eq_nil_iff.2 fun c hc => by simp [hkept c hc]]
  rfl

/-! ## Paths in a collection -/

/-- Nothing of the collection and its slash is dropped. -/
theorem cleanBack_behind_collection {collection : String}
    (hc : collection = "tenants" ∨ collection = "hosts") (id : String) :
    Url.cleanBack (collection ++ "/" ++ id).toList =
      collection.toList ++ '/' :: Url.cleanBack id.toList := by
  have hkept : collection.toList.filter (!Url.isDropped ·) = collection.toList := by
    rcases hc with rfl | rfl <;> rfl
  simp only [Url.cleanBack, String.toList_append, List.append_assoc]
  rw [show "/".toList ++ id.toList = '/' :: id.toList from rfl,
    Url.rdropWhile_append_cons_of_neg rfl, List.filter_append, hkept]
  rfl

/-- Only the path is longer than what the identifier alone is read as. -/
theorem tail_behind_collection {collection : String}
    (hc : collection = "tenants" ∨ collection = "hosts") (id : String) :
    Url.Tail.ofText ('/' :: Url.cleanBack (collection ++ "/" ++ id).toList) =
      { Url.Tail.ofText (Url.cleanBack id.toList) with
        path := '/' :: (collection.toList ++
          '/' :: (Url.cleanBack id.toList).takeWhile (!Url.endsPath ·)) } := by
  have hends : ∀ c ∈ '/' :: collection.toList ++ ['/'], Url.endsPath c = false := by
    rcases hc with rfl | rfl <;> simp [Url.endsPath]
  rw [cleanBack_behind_collection hc, ← List.cons_append, List.append_cons,
    Url.Tail.ofText_append hends, Url.Tail.ofText_eq]
  simp

/-- The path that an identifier in a collection comes to. -/
theorem path_behind_collection {collection : String}
    (hc : collection = "tenants" ∨ collection = "hosts") (id : String) (u : Url) :
    (u.withRest ('/' :: Url.cleanBack (collection ++ "/" ++ id).toList)).path =
      .segments ((Url.Path.walk .web [collection.toList] (segmentsOf id)).reverse.map
        String.ofList) := by
  have hsep : ∀ c ∈ collection.toList, Url.Path.isSeparator .web c = false := by
    rcases hc with rfl | rfl <;> simp [Url.Path.isSeparator]
  have henter : Url.Path.enter .web [] collection.toList = [collection.toList] := by
    rcases hc with rfl | rfl <;> decide
  obtain ⟨part, rest, hparts⟩ := List.exists_cons_of_ne_nil (splitBy_ne_nil
    (Url.Path.isSeparator .web) ((Url.cleanBack id.toList).takeWhile (!Url.endsPath ·)))
  have hwalk : Url.Path.walk .web [] ([collection.toList] ++ part :: rest) =
      Url.Path.walk .web [collection.toList] (part :: rest) :=
    congrArg (Url.Path.walk .web · (part :: rest)) henter
  simp only [Url.withRest]
  rw [tail_behind_collection hc, Url.Path.ofAuthority_web, splitBy_append_cons rfl,
    splitBy_of_neg hsep, segmentsOf, hparts, hwalk]

/-- A query in a collection is one that the identifier holds. -/
theorem query_behind_collection {collection : String}
    (hc : collection = "tenants" ∨ collection = "hosts") (id : String) (u : Url) :
    (u.withRest ('/' :: Url.cleanBack (collection ++ "/" ++ id).toList)).query = none ↔
      '?' ∉ (Url.cleanBack id.toList).takeWhile (!· == '#') := by
  simp only [Url.withRest]
  rw [tail_behind_collection hc, ← Url.Tail.query_ofText_eq_none_iff, Option.map_eq_none_iff]

/-- The last segment is a name in the collection only where the ones before lead back to it. -/
theorem walk_last_iff {stack : List (List Char)} {collection last : List Char} :
    (∃ name, name ≠ [] ∧ Url.Path.walk .web stack [last] = [name, collection]) ↔
      stack = [collection] ∧ last ≠ [] ∧ Url.Path.isSingleDot last = false ∧
        Url.Path.isDoubleDot last = false := by
  constructor
  · rintro ⟨name, hne, hw⟩
    simp only [Url.Path.walk] at hw
    split at hw
    · exact absurd (List.cons.inj hw).1.symm hne
    · next hd =>
      split at hw
      · exact absurd (List.cons.inj hw).1.symm hne
      · next hs =>
        obtain ⟨rfl, rfl⟩ := List.cons.inj hw
        refine ⟨rfl, ?_, by simpa using hs, by simpa using hd⟩
        rintro rfl
        exact hne rfl
  · rintro ⟨rfl, hne, hs, hd⟩
    refine ⟨Url.Percent.encode Url.Percent.inPath last, ?_, ?_⟩
    · rwa [ne_eq, Url.Percent.encode_eq_nil_iff]
    · simp [Url.Path.walk, hd, hs, Url.Path.normalSegment]

theorem segments_eq_iff {stack : List (List Char)} {collection segment : String} :
    Url.Path.segments (stack.reverse.map String.ofList) = .segments [collection, segment] ↔
      stack = [segment.toList, collection.toList] := by
  rw [Url.Path.segments.injEq]
  constructor
  · intro h
    have hr : stack.reverse = [collection.toList, segment.toList] := by
      simpa [Function.comp_def] using congrArg (List.map String.toList) h
    simpa using List.reverse_eq_iff.1 hr
  · rintro rfl
    simp

/-- The path behind an authority is that of one thing in the collection for a confined
identifier only. -/
theorem confined_iff {collection : String}
    (hc : collection = "tenants" ∨ collection = "hosts") (id : String) (u : Url) :
    (∃ segment, segment ≠ "" ∧
      (u.withRest ('/' :: Url.cleanBack (collection ++ "/" ++ id).toList)).path =
        .segments [collection, segment] ∧
      (u.withRest ('/' :: Url.cleanBack (collection ++ "/" ++ id).toList)).query = none) ↔
    Confined collection id := by
  have hpath : ∀ segment, (u.withRest
      ('/' :: Url.cleanBack (collection ++ "/" ++ id).toList)).path =
        .segments [collection, segment] ↔
      Url.Path.walk .web [collection.toList] (segmentsOf id) =
        [segment.toList, collection.toList] := fun segment => by
    rw [path_behind_collection hc, segments_eq_iff]
  obtain ⟨moves, last, hs⟩ :=
    (List.eq_nil_or_concat' (segmentsOf id)).resolve_left (splitBy_ne_nil _ _)
  simp only [hpath, query_behind_collection hc, hs, Url.Path.walk_concat]
  constructor
  · rintro ⟨segment, hne, hw, hq⟩
    obtain ⟨hreturn, hname⟩ := walk_last_iff.1 ⟨_, by simpa using hne, hw⟩
    exact ⟨hq, by simpa [hs] using hreturn, by simpa [hs] using hname⟩
  · rintro ⟨hq, hreturn, hname⟩
    rw [hs, List.dropLast_concat] at hreturn
    obtain ⟨name, hne, hw⟩ := walk_last_iff.2 ⟨hreturn, hname last (by simp [hs])⟩
    refine ⟨String.ofList name, ?_, ?_, hq⟩
    · simpa [String.ext_iff] using hne
    · rw [hw, String.toList_ofList]

/-- **Validated settings address their own thing exactly if the identifier is confined.** -/
theorem addresses_own_iff_confined {peer : Peer} {s : Settings}
    {authority collection id : String} {first : Request} (hv : s.validate = .ok ())
    (he : s.effectiveEndpoint = "http://" ++ authority)
    (ha : ∀ c ∈ authority.toList, Url.endsAuthority .web c = false)
    (ho : s.operation.subject? = some (collection, id))
    (hf : (perform peer s.effectiveEndpoint s.operation).requests.head? = some first) :
    (∃ segment, segment ≠ "" ∧ first.target.path = .segments [collection, segment] ∧
      first.target.query = none) ↔ Confined collection id := by
  obtain ⟨hc, hp⟩ := Operation.path_of_subject? ho
  have hne := exists_kept_of_valid (he ▸ (Settings.validate_eq_ok_iff.1 hv).1)
  obtain ⟨u, hu, hpath, hquery⟩ := target_of_head? hf
  have hurl : urlFor s.effectiveEndpoint s.operation.path =
      "http://" ++ authority ++ "/" ++ (collection ++ "/" ++ id) := by
    rw [urlFor, he, hp, ← String.append_assoc]
  rw [hurl, parse_behind_authority ha hne] at hu
  cases hb : Url.afterSlashes "http".toList
      (authority.toList.filter (!Url.isDropped ·)) with
  | error e =>
    rw [hb] at hu
    cases hu
  | ok base =>
    rw [hb] at hu
    cases hu
    rw [hpath, hquery]
    exact confined_iff hc id base

/-- A peer that accepts everything. -/
def acceptingPeer : Peer := .terse ⟨200, by decide, by decide⟩

/-- Settings for the migration of one tenant. -/
def migrationOf (tenant : String) : Settings where
  endpoint := some "http://[::1]:5000"
  config := none
  verbose := false
  jsonLogs := false
  operation := .migrateTenant tenant

theorem validate_migrationOf {tenant : String} (h : ∃ c ∈ tenant.toList, isBlank c = false) :
    (migrationOf tenant).validate = .ok () := by
  have hu : Url.parse "http://[::1]:5000" = .ok ⟨"http",
      some ⟨none, some (.ipv6 [0, 0, 0, 0, 0, 0, 0, 1]), some 5000⟩, .segments [""], none, none⟩ := by
    decide +kernel
  refine Settings.validate_eq_ok_iff.2 ⟨Validation.url_eq_ok_iff.2 ⟨?_, _, hu, .inl rfl⟩, ?_⟩
  · simp [migrationOf, Settings.effectiveEndpoint]
  · rintro id (hid | hid) <;> cases hid
    exact h

theorem tenant_addressed :
    ∃ first, (perform acceptingPeer (migrationOf "../tenants/blue").effectiveEndpoint
        (migrationOf "../tenants/blue").operation).requests.head? = some first ∧
      ∃ segment, segment ≠ "" ∧ first.target.path = .segments ["tenants", segment] ∧
        first.target.query = none := by
  have hsent : (perform acceptingPeer (migrationOf "../tenants/blue").effectiveEndpoint
      (migrationOf "../tenants/blue").operation).requests.head?.isSome = true := by decide +kernel
  have hconfined : Confined "tenants" "../tenants/blue" := ⟨by decide, by decide, by decide⟩
  obtain ⟨first, hf⟩ := Option.isSome_iff_exists.1 hsent
  have he : (migrationOf "../tenants/blue").effectiveEndpoint = "http://" ++ "[::1]:5000" := by rfl
  have ha : ∀ c ∈ "[::1]:5000".toList, Url.endsAuthority .web c = false := by
    simp [Url.endsAuthority]
  have hown := addresses_own_iff_confined (validate_migrationOf ⟨'.', by decide, rfl⟩) he ha rfl hf
  exact ⟨first, hf, hown.2 hconfined⟩

theorem reset_addressed :
    ∃ first, (migrationOf "../reset").validate = .ok () ∧
      (perform acceptingPeer (migrationOf "../reset").effectiveEndpoint
        (migrationOf "../reset").operation).requests.head? = some first ∧
      first.method = .post ∧ first.target.path = .segments ["reset"] := by
  have hsent : ((perform acceptingPeer (migrationOf "../reset").effectiveEndpoint
      (migrationOf "../reset").operation).requests.head?.map fun r => (r.method, r.target.path)) =
      some (.post, .segments ["reset"]) := by decide +kernel
  obtain ⟨first, hf, h⟩ := Option.map_eq_some_iff.1 hsent
  obtain ⟨hm, hp⟩ := Prod.mk.inj h
  exact ⟨first, validate_migrationOf ⟨'.', by decide, rfl⟩, hf, hm, hp⟩

end Client

end MigrationClient
