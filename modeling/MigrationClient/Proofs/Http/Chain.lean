import Mathlib.Data.List.Chain
import MigrationClient.Proofs.Http.Exchange
import MigrationClient.Proofs.Text.Utf8

/-!
# Chains of redirects

The requests of an exchange form a chain: each after the first goes to where the reply to those
before it leads, with the verb that the redirect leaves (`Chain`, `chain_follow`). A redirect
may turn any verb into `GET`, and none turns `GET` into another verb, so along a chain there is
no way back from reading to writing (`Chain.verbs`). What is sent over an open connection does not
tell of a URL that was requested over a secured one (`Chain.discreet`). The chain is cut off at the
limit exactly if it has got as long as that and still leads on (`tooManyRedirects_follow_iff`), and
so it does with every peer that never lets it end (`tooManyRedirects_of_restless`).
-/

namespace MigrationClient.Http

open Text

/-- Requests of which each leads to the next one. -/
inductive Chain (peer : Peer) : List Request → Prop
  | nil : Chain peer []
  | first (q : Request) : Chain peer [q]
  | led {front : List Request} {last : Request} {a : Answer} {next : Url} (login : Option Login) :
      Chain peer (front ++ [last]) → peer.reply (front ++ [last]) = .answer a →
      a.isReadable = true → a.location? last.target = some next → next.isHttp = true →
      Chain peer (front ++ [last] ++ [Request.make (last.method.redirected a.status) next login
        (refererFor last.target next)])

namespace Chain

variable {peer : Peer} {rs : List Request} {q : Request}

theorem of_concat (h : Chain peer (rs ++ [q])) : Chain peer rs := by
  generalize hl : rs ++ [q] = l at h
  cases h with
  | nil => simp at hl
  | first p =>
    obtain ⟨rfl, -⟩ := List.append_inj' (hl.trans (List.nil_append [p]).symm) rfl
    exact .nil
  | led login h =>
    obtain ⟨rfl, -⟩ := List.append_inj' hl rfl
    exact h

/-- **No `GET` is followed by another verb.** -/
theorem verbs (h : Chain peer rs) :
    rs.Pairwise fun q r => q.method = .get → r.method = .get := by
  induction h with
  | nil => exact .nil
  | first q => exact List.pairwise_singleton _ q
  | @led front last a next login _ _ _ _ _ ih =>
    refine List.pairwise_append.2 ⟨ih, List.pairwise_singleton _ _, fun r hr p hp hget => ?_⟩
    obtain rfl := List.mem_singleton.1 hp
    -- Whatever was read before, the last of them was read too, and the verb comes from that one.
    have hlast : last.method = .get := by
      rcases List.mem_append.1 hr with hr | hr
      · exact (List.pairwise_append.1 ih).2.2 r hr last List.mem_cons_self hget
      · obtain rfl := List.mem_singleton.1 hr
        exact hget
    rw [Request.method_make, hlast, Method.redirected_get]

/-- A chain that begins with reading is reading all along. -/
theorem verb_of_head? (h : Chain peer rs) (hq : ∀ q ∈ rs.head?, q.method = .get) :
    ∀ r ∈ rs, r.method = .get := by
  cases rs with
  | nil => simp
  | cons q rs =>
    have hfirst : q.method = .get := hq q rfl
    intro r hr
    rcases List.mem_cons.1 hr with rfl | hr
    · exact hfirst
    · exact List.rel_of_pairwise_cons h.verbs hr hfirst

/-- All along a chain there are URLs that can be requested, if the first one can. -/
theorem requestable (h : Chain peer rs) (hq : ∀ q ∈ rs.head?, q.target.isRequestable = true) :
    ∀ q ∈ rs, q.target.isRequestable = true := by
  induction h with
  | nil => simp
  | first q => simpa using hq
  | @led front last a next login _ _ _ hl hnext ih =>
    intro r hr
    rcases List.mem_append.1 hr with hr | hr
    · refine ih (fun q hhead => hq q ?_) r hr
      simpa [List.head?_append] using hhead
    · obtain rfl := List.mem_singleton.1 hr
      exact Url.isRequestable_withoutFragment (Answer.isRequestable_of_location? hl hnext)

/-- **What is secured is not told over an open connection.** -/
theorem discreet (h : Chain peer rs) :
    rs.IsChain fun q r => q.target.scheme = "https" → r.target.scheme = "http" →
      Header.find? r.headers "referer" = none := by
  induction h with
  | nil => exact .nil
  | first q => exact .singleton q
  | @led front last a next login _ _ _ _ _ ih =>
    refine List.isChain_append.2 ⟨ih, .singleton _, fun q hq r hr hold hnew => ?_⟩
    obtain rfl : last = q := by simpa using hq
    obtain rfl : _ = r := by simpa using hr
    have hnone : refererFor last.target next = none := if_pos ⟨hold, hnew⟩
    rw [hnone]
    exact Request.find?_referer_make ..

end Chain

section

variable (peer : Peer) (first : Url) (remaining : Nat) (sent : List Request) (method : Method)
  (url : Url) (login : Option Login) (referer : Option Url)

theorem chain_follow (h : Chain peer (sent ++ [Request.make method url login referer])) :
    Chain peer (follow peer first remaining sent method url login referer).requests := by
  fun_induction follow peer first remaining sent method url login referer
  case case1 => exact h.of_concat
  case case7 hreply hread next hnext _ hhttp ih =>
    refine ih ?_
    rw [← Request.make_referer_withoutFragment]
    exact h.led _ hreply (by simpa using hread) hnext hhttp
  all_goals exact h

/-- **At the limit a chain is cut off exactly if it leads on.** -/
theorem tooManyRedirects_follow_iff :
    (∃ last, (follow peer first remaining sent method url login referer).ending =
        .failed (.tooManyRedirects last)) ↔
      (follow peer first remaining sent method url login referer).requests.length =
          sent.length + remaining + 1 ∧
        (peer.leadsOn? (follow peer first remaining sent method url login referer).requests).isSome
          = true := by
  fun_induction follow peer first remaining sent method url login referer
  case case1 =>
    refine iff_of_false (by simp) fun h => ?_
    have hlength := h.1
    dsimp only at hlength
    omega
  case case7 ih =>
    rw [ih, List.length_append, List.length_singleton, Nat.succ_add_eq_add_succ]
  -- One request more was sent, and the reply to it tells whether it leads on.
  all_goals simp_all +zetaDelta [Peer.leadsOn?_concat, Peer.redirect?]

end

/-! ## Peers that never let a chain end -/

/-- From wherever there is a connection, the peer leads on to where there is one again. -/
def Peer.Restless (peer : Peer) : Prop :=
  ∀ sent url, peer.connects url = true →
    ∃ next, peer.redirect? sent url = some next ∧ peer.connects next = true

/-- **A restless peer is followed up to the limit**, where the chain is cut off. -/
theorem tooManyRedirects_of_restless {peer : Peer} (h : peer.Restless) {url : Url}
    (hc : peer.connects url = true) (first : Url) (remaining : Nat) (sent : List Request)
    (method : Method) (login : Option Login) (referer : Option Url) :
    ∃ last, (follow peer first remaining sent method url login referer).ending =
      .failed (.tooManyRedirects last) := by
  induction remaining generalizing sent method url login referer with
  | zero =>
    obtain ⟨next, hnext, -⟩ := h (sent ++ [Request.make method url login referer]) url hc
    obtain ⟨a, ha, hread, hl⟩ := Peer.redirect?_eq_some_iff.1 hnext
    unfold follow
    simp [hc, ha, hread, hl]
  | succ remaining ih =>
    obtain ⟨next, hnext, hled⟩ := h (sent ++ [Request.make method url login referer]) url hc
    obtain ⟨a, ha, hread, hl⟩ := Peer.redirect?_eq_some_iff.1 hnext
    unfold follow
    simp only [hc, ha, hread, hl, Peer.isHttp_of_connects hled, Bool.not_true, Bool.false_eq_true,
      if_false, if_true]
    exact ih hled ..

/-- A peer that sends every request on to the same place. -/
def Peer.circling : Peer :=
  .always ⟨⟨307, by decide, by decide⟩, none,
    [⟨Utf8.ofString "location", Utf8.ofString "http://[::1]:5000/"⟩], some []⟩

theorem Peer.restless_circling : circling.Restless := by
  intro sent url hc
  have hsplit : Url.splitScheme? (Url.clean "http://[::1]:5000/".toList) =
      some ("http".toList, "//[::1]:5000/".toList) := by decide
  have hjoin : (url.join "http://[::1]:5000/").toOption = some ⟨"http",
      some ⟨none, some (.ipv6 [0, 0, 0, 0, 0, 0, 0, 1]), some 5000⟩, .segments [""], none,
      none⟩ := by
    rw [Url.join_of_slashes hsplit (by decide)]
    decide +kernel
  have hnext : circling.redirect? sent url = some ⟨"http",
      some ⟨none, some (.ipv6 [0, 0, 0, 0, 0, 0, 0, 1]), some 5000⟩, .segments [""], none, none⟩ :=
    redirect?_eq_some_iff.2 ⟨_, rfl, by decide +kernel, Answer.location?_eq_some_iff.2
      ⟨by decide, _, _, _, by decide +kernel, Utf8.toString?_ofString _, hjoin, by decide +kernel⟩⟩
  exact ⟨_, hnext, rfl⟩

end MigrationClient.Http
