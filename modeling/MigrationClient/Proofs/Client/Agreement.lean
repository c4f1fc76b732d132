import MigrationClient.Proofs.Client.Call

/-!
# Everybody learns the same

The result of an operation can be learned in three ways: by awaiting the request, by a callback,
and by a command, which waits for the handle of its call and then looks at what its callback was
told. A handle resolves only after the callback has run, so a command that waited for it always
finds an outcome (`collected?_of_sound`), and **in whatever order the tasks run, all three tell the
same** (`observers_agree`).
-/

namespace MigrationClient.Client

open Http

/-- The calls that may come of an operation while no task is cancelled. -/
def Call.Reached (peer : Peer) (endpoint : String) (op : Operation) (c : Call) : Prop :=
  ∃ as, (∀ a ∈ as, a.isAbort = false) ∧
    (Call.start endpoint op).run? (perform peer endpoint op) as = some c

namespace Call

variable {p : Performance} {c d : Call} {peer : Peer} {endpoint : String} {op : Operation}

theorem sound_of_reached (h : c.Reached peer endpoint op) : c.Sound (perform peer endpoint op) := by
  obtain ⟨as, has, hc⟩ := h
  exact sound_run hc has (sound_start _ endpoint op)

/-- What the tasks do to a call that can be reached leads to another such call. -/
theorem Reached.run {as : List Action} (h : c.Reached peer endpoint op)
    (has : ∀ a ∈ as, a.isTask = true) (hd : c.run? (perform peer endpoint op) as = some d) :
    d.Reached peer endpoint op := by
  obtain ⟨before, hbefore, hc⟩ := h
  refine ⟨before ++ as, fun a ha => ?_, ?_⟩
  · rcases List.mem_append.1 ha with ha | ha
    · exact hbefore a ha
    · cases a <;> first | rfl | cases has _ ha
  · rw [run?] at hc ⊢
    rw [List.foldlM_append, hc]
    exact hd

/-- The request of a call is awaited with what it came to. -/
theorem awaited?_of_sound (hc : c.Sound p) : c.awaited? = c.request.map fun _ => p.result := by
  unfold awaited?
  rcases hc.request with hr | hr
  · rw [hr]
    rfl
  · rw [hr]
    rfl

/-- **Once the handle has resolved there is an outcome to collect**: the callback ran before. -/
theorem collected?_of_sound (hc : c.Sound p) (hw : c.receiver? = some (.callback false)) :
    c.collected? = c.handle?.map fun _ => .ok (.ofResult p.result) := by
  unfold collected?
  cases hh : c.handle? with
  | none => rfl
  | some how =>
    obtain ⟨who, hs, -⟩ := stage_of_handle? hh
    obtain rfl : who = .callback false := by simpa [receiver?, hs] using hw
    obtain rfl : how = .ok () := (hc.ended _ _ hs).2
    have hd : c.delivered = [.ofResult p.result] := by
      rw [hc.delivered, hs]
      rfl
    rw [hd]
    rfl

/-- No action of a task changes who is to be told, nor the caller's hold on the handle. -/
theorem receiver?_run {as : List Action} (has : ∀ a ∈ as, a.isTask = true)
    (h : c.run? p as = some d) : d.receiver? = c.receiver? ∧ d.hold = c.hold := by
  refine foldlM_keeps (m := Option) (P := fun d => d.receiver? = c.receiver? ∧ d.hold = c.hold)
    (fun s t a ha hst hs => ?_) h ⟨rfl, rfl⟩
  cases step?_eq_some_iff.1 hst with
  | finish => exact hs
  | deliver hstage =>
    rw [← hs.1, ← hs.2]
    simp [receiver?, tell, hstage]
  | _ => cases has _ ha

/-- **The tasks of a call can always run to their ends**, and then everybody has been told. -/
theorem exists_told (h : c.Reached peer endpoint op) : ∃ as d, (∀ a ∈ as, a.isTask = true) ∧
    c.run? (perform peer endpoint op) as = some d ∧
    d.awaited? = some (perform peer endpoint op).result ∧
    (∀ panics, c.receiver? = some (.callback panics) →
      d.delivered = [.ofResult (perform peer endpoint op).result]) ∧
    (c.receiver? = some (.callback false) → c.hold ≠ .dropped →
      d.collected? = some (.ok (.ofResult (perform peer endpoint op).result))) := by
  obtain ⟨as, d, has, hd, hidle⟩ := exists_idle (perform peer endpoint op) c
  have hsound := sound_of_reached (h.run has hd)
  have hsettled := settled_of_idle hsound hidle
  obtain ⟨hwho, hhold⟩ := receiver?_run has hd
  refine ⟨as, d, has, hd, ?_, fun panics hw => ?_, fun hw hh => ?_⟩
  · rw [awaited?_of_sound hsound, hsettled.request]
    rfl
  · exact hsettled.delivered _ (hwho.trans hw)
  · rw [collected?_of_sound hsound (hwho.trans hw),
      hsettled.resolved _ (hwho.trans hw) (hhold ▸ hh)]
    rfl

end Call

/-- **All observers agree.** A command always comes to an outcome. In whatever order the tasks of a
call for the same operation run, a callback is told this outcome and no other; awaiting the request
gives a response or an error exactly when that is what the outcome holds; and whoever waits for the
handle collects it. From wherever a call stands, its tasks can run to their ends, and then all
three have been told. -/
theorem observers_agree (peer : Peer) (endpoint : String) (op : Operation) :
    ∃ o, command peer endpoint op = .ok o ∧
      ∀ c, Call.Reached peer endpoint op c →
        (∀ told ∈ c.delivered, told = o) ∧
        (∀ x, c.awaited? = some x → (∀ r, x = .ok r ↔ o = ⟨none, some r⟩) ∧
          ∀ e, x = .error e ↔ o = ⟨some e, e.response?⟩) ∧
        (c.receiver? = some (.callback false) → ∀ x, c.collected? = some x → x = .ok o) ∧
        ∃ as d, (∀ a ∈ as, a.isTask = true) ∧ c.run? (perform peer endpoint op) as = some d ∧
          d.awaited?.isSome ∧
          (∀ panics, c.receiver? = some (.callback panics) → d.delivered = [o]) ∧
          (c.receiver? = some (.callback false) → c.hold ≠ .dropped →
            d.collected? = some (.ok o)) := by
  refine ⟨_, command_eq peer endpoint op, fun c hc => ?_⟩
  have hsound := Call.sound_of_reached hc
  obtain ⟨as, d, has, hd, ha, ht, hcol⟩ := Call.exists_told hc
  refine ⟨fun told h => ?_, fun x hx => ?_, fun hw x hx => ?_, as, d, has, hd, ?_, ht, hcol⟩
  · exact ((Call.orderly_of_sound hsound).own told h).2
  · rw [Call.awaited?_of_sound hsound] at hx
    obtain ⟨-, -, rfl⟩ := Option.map_eq_some_iff.1 hx
    exact ⟨fun r => (Outcome.ofResult_inj (y := .ok r)).symm,
      fun e => (Outcome.ofResult_inj (y := .error e)).symm⟩
  · rw [Call.collected?_of_sound hsound hw] at hx
    obtain ⟨-, -, rfl⟩ := Option.map_eq_some_iff.1 hx
    rfl
  · rw [ha]
    rfl

end MigrationClient.Client
