import MigrationClient.Config.Validation
import MigrationClient.Proofs.Client.Completion
import MigrationClient.Proofs.Url.Extending

/-!
# Where valid endpoints lead

An endpoint is validated by itself, but requested with the path of an operation put behind it as
it is. For most endpoints that adds the path and changes nothing else (`Reaches`), yet not for all:
the path may go into a query or a fragment, and what is cut off at the end of an endpoint spoils
its host or port once the path follows. **The operation reaches its path at the server of a valid
endpoint exactly if neither happens** (`reaches_iff_extensible`).
-/

namespace MigrationClient

open Text Http

/-- The URL as it is requested: credentials that are a login are sent apart from it. -/
def Url.requested (u : Url) : Url :=
  if u.clearCredentials?.isSome then u.withoutCredentials else u

@[simp] theorem Url.host?_withoutCredentials (u : Url) :
    u.withoutCredentials.host? = u.host? := by
  cases h : u.authority <;> simp [host?, withoutCredentials, h]

@[simp] theorem Url.port?_withoutCredentials (u : Url) :
    u.withoutCredentials.port? = u.port? := by
  cases h : u.authority <;> simp [port?, withoutCredentials, h]

namespace Client

/-- A URL at the same server whose path ends in that of an operation. -/
structure Reaches (op : Operation) (u v : Url) : Prop where
  scheme : v.scheme = u.scheme
  host : v.host? = u.host?
  port : v.port? = u.port?
  path : op.path.toList <:+ v.path.toText

/-- An endpoint that the path of an operation can be put behind: nothing is cut off at the end of
its authority, and it has no query and no fragment that would take the path in, unless its own path
ends in that of the operation. -/
structure Extensible (endpoint : String) (op : Operation) (u : Url) : Prop where
  closed : Url.isClosed endpoint.toList = true
  unmarked : (∀ c ∈ endpoint.toList, Url.endsPath c = false) ∨ op.path.toList <:+ u.path.toText

variable {endpoint : String} {op : Operation} {u v : Url}

/-- The path of an operation without an identifier is one plain segment. -/
theorem exists_segment (hop : op = .resources ∨ op = .reset) :
    ∃ word : String, op.path = "/" ++ word ∧
      '/' :: Url.Percent.encode Url.Percent.inPath word.toList = op.path.toList ∧
      Url.cleanBack word.toList = word.toList ∧
      (∀ c ∈ word.toList, Url.endsPath c = false ∧ Url.Path.isSeparator .web c = false) ∧
      Url.Path.isSingleDot word.toList = false ∧ Url.Path.isDoubleDot word.toList = false := by
  rcases hop with rfl | rfl
  · exact ⟨"resources", rfl, by decide, by decide, by simp [Url.endsPath, Url.Path.isSeparator],
      by decide, by decide⟩
  · exact ⟨"reset", rfl, by decide, by decide, by simp [Url.endsPath, Url.Path.isSeparator],
      by decide, by decide⟩

/-- Where an operation without an identifier leads at an endpoint. -/
theorem reaches_iff (hop : op = .resources ∨ op = .reset) (hu : Url.parse endpoint = .ok u)
    (hs : u.scheme = "http" ∨ u.scheme = "https") :
    (∃ v, Url.parse (urlFor endpoint op.path) = .ok v ∧ Reaches op u v) ↔
      Extensible endpoint op u := by
  obtain ⟨word, hpath, htext, hback, hplain, hsingle, hdouble⟩ := exists_segment hop
  have hurl : urlFor endpoint op.path = endpoint ++ "/" ++ word := by
    rw [urlFor, hpath, String.append_assoc]
  rw [hurl]
  constructor
  · rintro ⟨v, hv, hreaches⟩
    have hc : Url.isClosed endpoint.toList = true := by
      rw [← Bool.not_eq_false]
      exact fun hno => Url.parse_extend_ne_ok hu hs hno word v hv
    rw [Url.parse_extend hu hs hc, hback] at hv
    obtain rfl := Except.ok.inj hv
    refine ⟨hc, ?_⟩
    have hsuffix := hreaches.path
    rwa [← htext, Url.suffix_path_iff hu hs hc hplain hsingle hdouble, htext] at hsuffix
  · rintro ⟨hc, hmarks⟩
    refine ⟨_, Url.parse_extend hu hs hc word, Url.scheme_withRest .., Url.host?_withRest ..,
      Url.port?_withRest .., ?_⟩
    rw [hback, ← htext, Url.suffix_path_iff hu hs hc hplain hsingle hdouble, htext]
    exact hmarks

/-! ## Requests -/

theorem Reaches.requested (h : Reaches op u v) : Reaches op u v.requested := by
  unfold Url.requested
  split
  · exact ⟨h.scheme, by rw [Url.host?_withoutCredentials, h.host],
      by rw [Url.port?_withoutCredentials, h.port], h.path⟩
  · exact h

theorem Reaches.withoutFragment (h : Reaches op u v) : Reaches op u v.withoutFragment :=
  ⟨h.scheme, h.host, h.port, h.path⟩

theorem prepare_eq_ok_iff {text : String} (hv : Url.parse text = .ok v) {p : Prepared} :
    prepare text = .ok p ↔
      v.requested.isRequestable = true ∧ ⟨v.requested, v.clearCredentials?⟩ = p := by
  have hprepare : prepare text =
      if v.requested.isRequestable then .ok ⟨v.requested, v.clearCredentials?⟩
      else .error (.unsupportedUrl v.requested) := by
    rw [prepare, hv]
    rfl
  rw [hprepare]
  split <;> simp [*]

/-- A URL that an operation reaches can be requested if a request can name the host and is long
enough for the URL. -/
theorem isRequestable_iff (h : Reaches op u v) (hs : u.scheme = "http" ∨ u.scheme = "https")
    (hhost : u.host?.isSome = true) : v.requested.isRequestable = true ↔
      (∀ c ∈ (u.host?.map Url.Host.toText).getD [], Url.isUnrequestable c = false) ∧
        v.requested.toText.length ≤ Url.maxRequestLength := by
  have hscheme : v.requested.isHttp = true := by simpa [Url.isHttp, h.requested.scheme] using hs
  simp [Url.isRequestable, hscheme, h.requested.host, hhost]

/-- The first request of an operation goes where its URL leads. -/
theorem reaches_of_head? {peer : Peer} {first : Request}
    (hv : Url.parse (urlFor endpoint op.path) = .ok v) (h : Reaches op u v)
    (hf : (perform peer endpoint op).requests.head? = some first) :
    first.method = op.method ∧ Reaches op u first.target := by
  obtain ⟨p, hp, -, rfl⟩ := exists_prepared_of_head? hf
  obtain ⟨-, rfl⟩ := (prepare_eq_ok_iff hv).1 hp
  exact ⟨rfl, h.requested.withoutFragment⟩

/-- **The operation reaches its path at the server of a valid endpoint exactly if the endpoint is
extensible.** Then a request is made unless none can name the host or one would be too long, and
the first request goes to that path. -/
theorem reaches_iff_extensible {field : String} (hop : op = .resources ∨ op = .reset)
    (hvalid : Validation.url field endpoint = .ok ()) :
    ∃ u, Url.parse endpoint = .ok u ∧
      ((∃ v, Url.parse (urlFor endpoint op.path) = .ok v ∧ Reaches op u v) ↔
        Extensible endpoint op u) ∧
      ∀ v, Url.parse (urlFor endpoint op.path) = .ok v → Reaches op u v →
        ((∃ p, prepare (urlFor endpoint op.path) = .ok p) ↔
          (∀ c ∈ (u.host?.map Url.Host.toText).getD [], Url.isUnrequestable c = false) ∧
            v.requested.toText.length ≤ Url.maxRequestLength) ∧
        ∀ (peer : Peer) (first : Request),
          (perform peer endpoint op).requests.head? = some first →
          first.method = op.method ∧ Reaches op u first.target := by
  obtain ⟨-, u, hu, hs⟩ := Validation.url_eq_ok_iff.1 hvalid
  refine ⟨u, hu, reaches_iff hop hu hs, fun v hv h => ⟨?_, fun peer first => reaches_of_head? hv h⟩⟩
  rw [← isRequestable_iff h hs (Url.isSome_host? hu hs)]
  simp [prepare_eq_ok_iff hv]

/-- An endpoint with a user's name, a dropped character, and a space behind its path. -/
theorem reset_reached : ∃ u v, Url.parse "HTTP:\\\\root@[::1]:80\t80/a b/ " = .ok u ∧
    Url.parse (urlFor "HTTP:\\\\root@[::1]:80\t80/a b/ " Operation.reset.path) = .ok v ∧
    Reaches .reset u v := by
  have hu : Url.parse "HTTP:\\\\root@[::1]:80\t80/a b/ " = .ok ⟨"http",
      some ⟨some ⟨"root", none⟩, some (.ipv6 [0, 0, 0, 0, 0, 0, 0, 1]), some 8080⟩,
      .segments ["a%20b", ""], none, none⟩ := by decide +kernel
  have hvalid : Validation.url "endpoint" "HTTP:\\\\root@[::1]:80\t80/a b/ " = .ok () :=
    Validation.url_eq_ok_iff.2 ⟨by decide, _, hu, .inl rfl⟩
  obtain ⟨u, hu', hiff, -⟩ := reaches_iff_extensible (.inr rfl) hvalid
  obtain ⟨v, hv, hreaches⟩ := hiff.2 ⟨by decide +kernel, .inl (by simp [Url.endsPath])⟩
  exact ⟨u, v, hu', hv, hreaches⟩

/-- Behind a query mark the path is lost, and behind a space at the end of the port it leads
nowhere. -/
theorem reset_unreached :
    (Validation.url "endpoint" "http://[::1]:5000?" = .ok () ∧
      ∃ v, Url.parse (urlFor "http://[::1]:5000?" Operation.reset.path) = .ok v ∧
        v.path = .segments [""] ∧ v.query = some "/reset") ∧
    Validation.url "endpoint" "http://[::1]:5000 " = .ok () ∧
      Url.parse (urlFor "http://[::1]:5000 " Operation.reset.path) = .error .invalidPort := by
  have hu : Url.parse "http://[::1]:5000?" = .ok ⟨"http",
      some ⟨none, some (.ipv6 [0, 0, 0, 0, 0, 0, 0, 1]), some 5000⟩, .segments [""], some "",
      none⟩ := by decide +kernel
  have hu' : Url.parse "http://[::1]:5000 " = .ok ⟨"http",
      some ⟨none, some (.ipv6 [0, 0, 0, 0, 0, 0, 0, 1]), some 5000⟩, .segments [""], none,
      none⟩ := by decide +kernel
  have hv : Url.parse (urlFor "http://[::1]:5000?" Operation.reset.path) = .ok ⟨"http",
      some ⟨none, some (.ipv6 [0, 0, 0, 0, 0, 0, 0, 1]), some 5000⟩, .segments [""],
      some "/reset", none⟩ := by decide +kernel
  refine ⟨⟨?_, _, hv, rfl, rfl⟩, ?_, by decide +kernel⟩
  · exact Validation.url_eq_ok_iff.2 ⟨by decide, _, hu, .inl rfl⟩
  · exact Validation.url_eq_ok_iff.2 ⟨by decide, _, hu', .inl rfl⟩

end Client

end MigrationClient
