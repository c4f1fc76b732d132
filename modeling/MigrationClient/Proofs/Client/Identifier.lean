import MigrationClient.Proofs.Client.Addressing
import MigrationClient.Proofs.Client.Endpoint
import MigrationClient.Proofs.Text.Utf8

/-!
# Identifiers on the wire

An identifier is put behind its collection as it is, and what may not stand in a URL is encoded
when the URL is read. Nothing is lost by that if the identifier is plain (`Plain`): it spells one
segment, whatever the path of the endpoint is made of, and the segment decodes to it (`Names`). So
**plain identifiers arrive as they are, and no two of them address the same thing**
(`identifier_arrives`).
-/

namespace MigrationClient

namespace Client

open Text Http

/-- An identifier of which all is read as one segment: it is not a segment of dots alone, nothing
in it separates, marks or escapes anything, and nothing of it is dropped or cut off. -/
structure Plain (id : String) : Prop where
  nonempty : id ≠ ""
  single : id ≠ "."
  double : id ≠ ".."
  chars : ∀ c ∈ id.toList, c ∉ ['/', '\\', '?', '#', '%', '\t', '\n', '\r']
  closed : ∀ c ∈ id.toList.getLast?, Url.isEdge c = false

namespace Plain

variable {id : String} {c : Char}

theorem not_isDropped (h : Plain id) (hc : c ∈ id.toList) : Url.isDropped c = false := by
  have := h.chars c hc
  simp_all [Url.isDropped]

theorem not_endsPath (h : Plain id) (hc : c ∈ id.toList) : Url.endsPath c = false := by
  have := h.chars c hc
  simp_all [Url.endsPath]

theorem not_isSeparator (h : Plain id) (hc : c ∈ id.toList) :
    Url.Path.isSeparator .web c = false := by
  have := h.chars c hc
  simp_all [Url.Path.isSeparator]

theorem ne_percent (h : Plain id) (hc : c ∈ id.toList) : c ≠ '%' := by
  have := h.chars c hc
  simp_all

theorem not_dots (h : Plain id) :
    Url.Path.isDoubleDot id.toList = false ∧ Url.Path.isSingleDot id.toList = false := by
  have hpercent : '%' ∉ id.toList := fun hc => h.ne_percent hc rfl
  constructor
  · rw [Bool.eq_false_iff]
    intro hd
    exact h.double (by simpa using Url.Path.eq_of_isDoubleDot hd hpercent)
  · rw [Bool.eq_false_iff]
    intro hd
    exact h.single (by simpa using Url.Path.eq_of_isSingleDot hd hpercent)

theorem cleanBack_eq (h : Plain id) : Url.cleanBack id.toList = id.toList :=
  Url.cleanBack_eq_self (fun _ hc => h.not_isDropped hc) h.closed

end Plain

/-- A URL at the server of `u` that names one thing: its path ends in the collection and a segment
that spells the identifier, and it has no query. -/
structure Names (collection id : String) (u v : Url) : Prop where
  scheme : v.scheme = u.scheme
  host : v.host? = u.host?
  port : v.port? = u.port?
  path : ∃ front segment, v.path = .segments (front ++ [collection, segment]) ∧
    Url.Percent.decode segment.toList = Utf8.ofString id
  query : v.query = none

variable {endpoint collection id : String} {op : Operation} {u v w : Url}

/-- **What is named can be told from the path.** -/
theorem Names.eq_of_path {collection' id' : String} {u' v' : Url} (h : Names collection id u v)
    (h' : Names collection' id' u' v') (hp : v.path = v'.path) :
    collection = collection' ∧ id = id' := by
  obtain ⟨front, segment, hv, hid⟩ := h.path
  obtain ⟨front', segment', hv', hid'⟩ := h'.path
  rw [hv, hv', Url.Path.segments.injEq] at hp
  obtain ⟨-, hlast⟩ := List.append_inj' hp rfl
  simp only [List.cons.injEq, and_true] at hlast
  obtain ⟨rfl, rfl⟩ := hlast
  exact ⟨rfl, Utf8.ofString_inj.1 (hid.symm.trans hid')⟩

theorem Names.requested (h : Names collection id u v) : Names collection id u v.requested := by
  unfold Url.requested
  split
  · exact ⟨h.scheme, by rw [Url.host?_withoutCredentials, h.host],
      by rw [Url.port?_withoutCredentials, h.port], h.path, h.query⟩
  · exact h

theorem Names.withoutFragment (h : Names collection id u v) :
    Names collection id u v.withoutFragment :=
  ⟨h.scheme, h.host, h.port, h.path, h.query⟩

/-! ## Paths -/

/-- A collection and a plain identifier are walked as two segments, whatever was walked before. -/
theorem walk_named (hc : collection = "tenants" ∨ collection = "hosts") (hid : Plain id)
    (moves : List (List Char)) :
    ∃ front, (Url.Path.walk .web [] (moves ++
        splitBy (Url.Path.isSeparator .web) (collection.toList ++ '/' :: id.toList))).reverse.map
          String.ofList =
      front ++ [collection, String.ofList (Url.Percent.encode Url.Percent.inPath id.toList)] := by
  have hcollection : splitBy (Url.Path.isSeparator .web) collection.toList = [collection.toList] ∧
      Url.Path.isDoubleDot collection.toList = false ∧
      Url.Path.isSingleDot collection.toList = false ∧
      Url.Percent.encode Url.Percent.inPath collection.toList = collection.toList := by
    rcases hc with rfl | rfl <;> decide
  obtain ⟨hwhole, hdouble, hsingle, hplain⟩ := hcollection
  have hparts : ∀ s ∈ [collection.toList, id.toList],
      Url.Path.isDoubleDot s = false ∧ Url.Path.isSingleDot s = false := by
    rintro s (_ | ⟨_, _ | ⟨_, ⟨⟩⟩⟩)
    · exact ⟨hdouble, hsingle⟩
    · exact hid.not_dots
  refine ⟨(moves.foldl (Url.Path.enter .web) []).reverse.map String.ofList, ?_⟩
  rw [splitBy_append_cons rfl, hwhole, splitBy_of_neg fun c hc => hid.not_isSeparator hc,
    List.singleton_append, Url.Path.walk_append .web (List.cons_ne_nil _ _),
    Url.Path.walk_of_plain _ hparts]
  simp [hplain]

/-- **A plain identifier is named by the URL that is spelled with it**, at every endpoint without
marks that ends in no edge. -/
theorem names_urlFor (hu : Url.parse endpoint = .ok u) (hs : u.scheme = "http" ∨ u.scheme = "https")
    (hmarks : ∀ c ∈ endpoint.toList, Url.endsPath c = false)
    (hlast : ∀ c ∈ endpoint.toList.getLast?, Url.isEdge c = false)
    (ho : op.subject? = some (collection, id)) (hid : Plain id) :
    ∃ v, Url.parse (urlFor endpoint op.path) = .ok v ∧ Names collection id u v := by
  obtain ⟨hc, hpath⟩ := Operation.path_of_subject? ho
  have hclosed : Url.isClosed endpoint.toList = true := by
    simp [Url.isClosed, Url.loose_eq_nil hlast]
  have hcollection : ∀ c ∈ collection.toList, Url.endsPath c = false := by
    rcases hc with rfl | rfl <;> simp [Url.endsPath]
  have hrest : ∀ c ∈ collection.toList ++ '/' :: id.toList, Url.endsPath c = false := by
    intro c hmem
    rcases List.mem_append.1 hmem with hmem | hmem
    · exact hcollection c hmem
    · rcases List.mem_cons.1 hmem with rfl | hmem
      · rfl
      · exact hid.not_endsPath hmem
  have hparse := Url.parse_extend hu hs hclosed (collection ++ "/" ++ id)
  rw [cleanBack_behind_collection hc, hid.cleanBack_eq] at hparse
  obtain ⟨hstart, hunmarked⟩ := Url.unmarked_behindAuthority hu hs hclosed hmarks
  obtain ⟨hquery, moves, hsegments⟩ := Url.path_of_unmarked hstart hunmarked hrest u
  obtain ⟨front, hfront⟩ := walk_named hc hid moves
  rw [hfront] at hsegments
  rw [urlFor, hpath, ← String.append_assoc]
  refine ⟨_, hparse, Url.scheme_withRest .., Url.host?_withRest .., Url.port?_withRest ..,
    ⟨front, _, hsegments, ?_⟩, hquery⟩
  rw [String.toList_ofList]
  exact Url.Percent.decode_encode fun c hc hp => absurd hp (hid.ne_percent hc)

/-! ## Requests -/

/-- The first request names what the URL of the operation names. -/
theorem names_of_head? {peer : Peer} {first : Request}
    (hv : Url.parse (urlFor endpoint op.path) = .ok v) (h : Names collection id u v)
    (hf : (perform peer endpoint op).requests.head? = some first) :
    first.method = op.method ∧ first.target.path = v.path ∧
      Names collection id u first.target := by
  obtain ⟨w, hw, hpath, -⟩ := target_of_head? hf
  obtain rfl : w = v := Except.ok.inj (hw.symm.trans hv)
  obtain ⟨p, hp, -, rfl⟩ := exists_prepared_of_head? hf
  obtain ⟨-, rfl⟩ := (prepare_eq_ok_iff hv).1 hp
  exact ⟨rfl, hpath, h.requested.withoutFragment⟩

/-- **Plain identifiers arrive as they are.** At every valid endpoint without marks that ends in no
edge, the URL that is spelled with a plain identifier names it, and so does the first request that
is sent; and URLs that name things by different operations have different paths. -/
theorem identifier_arrives {field : String} (hvalid : Validation.url field endpoint = .ok ())
    (hmarks : ∀ c ∈ endpoint.toList, c ≠ '?' ∧ c ≠ '#')
    (hlast : ∀ c ∈ endpoint.toList.getLast?, Url.isEdge c = false) :
    ∃ u, Url.parse endpoint = .ok u ∧
      (∀ op collection id, Operation.subject? op = some (collection, id) → Plain id →
        ∃ v, Url.parse (urlFor endpoint op.path) = .ok v ∧ Names collection id u v ∧
          ∀ (peer : Peer) (first : Request),
            (perform peer endpoint op).requests.head? = some first →
            first.method = .post ∧ first.target.path = v.path ∧
              Names collection id u first.target) ∧
      ∀ op op' collection collection' id id',
        Operation.subject? op = some (collection, id) → Plain id →
        Operation.subject? op' = some (collection', id') → Plain id' → op ≠ op' →
        ∀ v v', Url.parse (urlFor endpoint op.path) = .ok v →
          Url.parse (urlFor endpoint op'.path) = .ok v' → v.path ≠ v'.path := by
  obtain ⟨-, u, hu, hs⟩ := Validation.url_eq_ok_iff.1 hvalid
  have hplain : ∀ c ∈ endpoint.toList, Url.endsPath c = false := fun c hc => by
    simp [Url.endsPath, hmarks c hc]
  refine ⟨u, hu, fun op collection id ho hid => ?_, ?_⟩
  · obtain ⟨v, hv, hnames⟩ := names_urlFor hu hs hplain hlast ho hid
    refine ⟨v, hv, hnames, fun peer first hf => ?_⟩
    obtain ⟨hverb, hrest⟩ := names_of_head? hv hnames hf
    exact ⟨hverb.trans (Operation.method_of_subject? ho), hrest⟩
  · intro op op' collection collection' id id' ho hid ho' hid' hne v v' hv hv' hpath
    obtain ⟨w, hw, hnames⟩ := names_urlFor hu hs hplain hlast ho hid
    obtain ⟨w', hw', hnames'⟩ := names_urlFor hu hs hplain hlast ho' hid'
    obtain rfl : w = v := Except.ok.inj (hw.symm.trans hv)
    obtain rfl : w' = v' := Except.ok.inj (hw'.symm.trans hv')
    obtain ⟨rfl, rfl⟩ := hnames.eq_of_path hnames' hpath
    exact hne (Operation.subject?_inj ho ho')

/-- An identifier with a space in front, braces, a control and letters beyond ASCII, behind an
endpoint whose path leads back and ends in a slash. -/
theorem tenant_arrived : ∃ u v, Url.parse "http:/root@[::1]:5000\\a/./..//" = .ok u ∧
    Url.parse (urlFor "http:/root@[::1]:5000\\a/./..//"
      (Operation.migrateTenant " \x7bdé\x01|.\x7d").path) = .ok v ∧
    Names "tenants" " \x7bdé\x01|.\x7d" u v := by
  have hu : Url.parse "http:/root@[::1]:5000\\a/./..//" = .ok ⟨"http",
      some ⟨some ⟨"root", none⟩, some (.ipv6 [0, 0, 0, 0, 0, 0, 0, 1]), some 5000⟩,
      .segments ["", ""], none, none⟩ := by decide +kernel
  have hvalid : Validation.url "endpoint" "http:/root@[::1]:5000\\a/./..//" = .ok () :=
    Validation.url_eq_ok_iff.2 ⟨by decide, _, hu, .inl rfl⟩
  have hid : Plain " \x7bdé\x01|.\x7d" :=
    ⟨by decide, by decide, by decide, by simp, by simp [Url.isEdge]⟩
  obtain ⟨u, hu', harrives, -⟩ := identifier_arrives hvalid (by simp) (by simp [Url.isEdge])
  obtain ⟨v, hv, hnames, -⟩ := harrives (.migrateTenant _) _ _ rfl hid
  exact ⟨u, v, hu', hv, hnames⟩

end Client

end MigrationClient
