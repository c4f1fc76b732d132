import MigrationClient.Client.Session
import MigrationClient.Proofs.Client.Agreement
import MigrationClient.Proofs.Http.Exchange

/-!
# Calls side by side

However the tasks of several calls at one endpoint take turns, and whatever the callers let go of
meanwhile, each call goes its own course: a step of one leaves the others as they are
(`step?_eq_some`), so each has come of its own start by actions of its own (`apart_run`), and what
holds of a single call holds of all calls of a session. The main result, `callbacks_exactly_once`,
puts it together: **every callback is run at most once, with the outcome of its own request, and
exactly once when the tasks have nothing left to do.** Where the requests are those of the
operations that were started, this outcome is what a command for the operation comes to
(`told_of_performed`).
-/

namespace MigrationClient.Client.Session

open Http

def Event.isAbort : Event → Bool
  | start _ => false
  | act _ a => a.isAbort

def Event.isTask : Event → Bool
  | start _ => false
  | act _ a => a.isTask

/-- The operation that is started, if one is. -/
def Event.started? : Event → Option Operation
  | start op => some op
  | act _ _ => none

/-- No task of any call can take a step. -/
def Idle (results : Nat → Performance) (s : Session) : Prop :=
  ∀ e, e.isTask = true → s.step? results e = none

variable {results : Nat → Performance} {s t : Session} {e : Event} {es : List Event}

theorem step?_eq_some (h : s.step? results e = some t) :
    (∃ op, e = .start op ∧ t = { s with calls := s.calls ++ [Call.start s.endpoint op] }) ∨
    (∃ i a c d, e = .act i a ∧ s.calls[i]? = some c ∧ c.step? (results i) a = some d ∧
      t = { s with calls := s.calls.set i d }) := by
  cases e with
  | start op =>
    cases h
    exact .inl ⟨op, rfl, rfl⟩
  | act i a =>
    simp only [step?] at h
    split at h
    · cases h
    · next c hc =>
      obtain ⟨d, hd, rfl⟩ := Option.map_eq_some_iff.1 h
      exact .inr ⟨i, a, c, d, rfl, hc, hd, rfl⟩

/-- Each call has come of its own start, by actions of its own that are no cancellations. -/
def Apart (results : Nat → Performance) (s : Session) : Prop :=
  ∀ i (c : Call), s.calls[i]? = some c → ∃ as, (∀ a ∈ as, a.isAbort = false) ∧
    (Call.start s.endpoint c.operation).run? (results i) as = some c

theorem apart_step (h : s.step? results e = some t) (he : e.isAbort = false)
    (hs : Apart results s) : Apart results t := by
  rcases step?_eq_some h with ⟨op, rfl, rfl⟩ | ⟨i, a, c, d, rfl, hc, hd, rfl⟩
  · intro j b hb
    by_cases hj : j < s.calls.length
    · rw [List.getElem?_append_left hj] at hb
      exact hs j b hb
    · rw [List.getElem?_append_right (Nat.le_of_not_lt hj), List.getElem?_singleton] at hb
      split at hb
      · cases hb
        exact ⟨[], fun _ ha => (List.not_mem_nil ha).elim, rfl⟩
      · cases hb
  · intro j b hb
    by_cases hj : i = j
    · subst hj
      rw [List.getElem?_set_self (List.getElem?_eq_some_iff.1 hc).1] at hb
      cases hb
      obtain ⟨as, has, hrun⟩ := hs i c hc
      refine ⟨as ++ [a], ?_, ?_⟩
      · simpa [or_imp, forall_and] using ⟨has, he⟩
      · rw [Call.run?] at hrun
        simp [Call.run?, List.foldlM_append, (Call.about_step hd).2, hrun, hd]
    · rw [List.getElem?_set_ne hj] at hb
      exact hs j b hb

/-- **Under any schedule each call goes its own course.** -/
theorem apart_run {endpoint : String} (h : (begin endpoint).run? results es = some s)
    (hes : ∀ e ∈ es, e.isAbort = false) : Apart results s :=
  foldlM_keeps (m := Option) (fun _ _ e he hs => apart_step hs (hes e he)) h
    fun _ _ hc => by simp [begin] at hc

theorem Apart.sound (hs : Apart results s) {i : Nat} {c : Call} (hc : s.calls[i]? = some c) :
    c.Sound (results i) := by
  obtain ⟨as, has, hrun⟩ := hs i c hc
  exact Call.sound_run hrun has (Call.sound_start ..)

/-! ## Which calls there are -/

theorem endpoint_run {endpoint : String} (h : (begin endpoint).run? results es = some s) :
    s.endpoint = endpoint := by
  refine foldlM_keeps (m := Option) (P := fun s => s.endpoint = endpoint)
    (fun s t e _ hst hs => ?_) h rfl
  rcases step?_eq_some hst with ⟨op, rfl, rfl⟩ | ⟨i, a, c, d, rfl, hc, hd, rfl⟩
  · exact hs
  · exact hs

theorem operations_step (h : s.step? results e = some t) :
    t.calls.map (·.operation) = s.calls.map (·.operation) ++ e.started?.toList := by
  rcases step?_eq_some h with ⟨op, rfl, rfl⟩ | ⟨i, a, c, d, rfl, hc, hd, rfl⟩
  · simp [Event.started?, Call.start]
  · obtain ⟨hi, rfl⟩ := List.getElem?_eq_some_iff.1 hc
    have hm : i < (s.calls.map (·.operation)).length := by simpa using hi
    have hop : d.operation = (s.calls.map (·.operation))[i] := by
      rw [List.getElem_map, (Call.about_step hd).2]
    rw [List.map_set, hop, List.set_getElem_self]
    simp [Event.started?]

/-- Every operation that was started has its call, whatever was let go of. -/
theorem operations_run (h : s.run? results es = some t) :
    t.calls.map (·.operation) = s.calls.map (·.operation) ++ es.filterMap Event.started? := by
  induction es generalizing s with
  | nil =>
    cases h
    simp
  | cons e es ih =>
    rw [run?, List.foldlM_cons] at h
    obtain ⟨u, hu, ht⟩ := Option.bind_eq_some_iff.1 h
    rw [ih ht, operations_step hu, List.append_assoc, List.filterMap_cons]
    cases e.started? <;> rfl

/-! ## The end of a session -/

theorem idle_iff : Idle results s ↔
    ∀ i (c : Call), s.calls[i]? = some c → c.Idle (results i) := by
  constructor
  · intro h i c hc a ha
    have := h (.act i a) ha
    simpa [step?, hc] using this
  · intro h e he
    cases e with
    | start op => cases he
    | act i a =>
      simp only [step?]
      split
      · rfl
      · next c hc => rw [h i c hc a he]; rfl

/-- A run of one call is a run of the session. -/
theorem run?_act {i : Nat} {c d : Call} {as : List Action} (hc : s.calls[i]? = some c)
    (h : c.run? (results i) as = some d) :
    s.run? results (as.map (.act i)) = some { s with calls := s.calls.set i d } := by
  induction as generalizing s c with
  | nil =>
    cases h
    obtain ⟨hi, rfl⟩ := List.getElem?_eq_some_iff.1 hc
    simp [run?]
  | cons a as ih =>
    rw [Call.run?, List.foldlM_cons] at h
    obtain ⟨b, hb, hd⟩ := Option.bind_eq_some_iff.1 h
    have hi := (List.getElem?_eq_some_iff.1 hc).1
    have hstep : s.step? results (.act i a) = some { s with calls := s.calls.set i b } := by
      simp [step?, hc, hb]
    have hrest := ih (s := { s with calls := s.calls.set i b }) (List.getElem?_set_self hi) hd
    rw [List.map_cons, run?, List.foldlM_cons, hstep]
    simpa [run?] using hrest

/-- The tasks of all calls can always run to their ends. -/
theorem exists_idle (results : Nat → Performance) (s : Session) :
    ∃ es t, (∀ e ∈ es, e.isTask = true) ∧ s.run? results es = some t ∧ Idle results t := by
  -- The calls are settled one after the other; the ones below `n` stay as they are.
  have key : ∀ n ≤ s.calls.length, ∃ es t, (∀ e ∈ es, e.isTask = true) ∧
      s.run? results es = some t ∧ t.calls.length = s.calls.length ∧
      ∀ i < n, ∀ c : Call, t.calls[i]? = some c → c.Idle (results i) := by
    intro n hn
    induction n with
    | zero => exact ⟨[], s, by simp, rfl, rfl, by simp⟩
    | succ n ih =>
      obtain ⟨es, t, hes, ht, hlen, hi⟩ := ih (by omega)
      have hnt : n < t.calls.length := by omega
      obtain ⟨as, d, has, hd, hidle⟩ := Call.exists_idle (results n) t.calls[n]
      refine ⟨es ++ as.map (.act n), { t with calls := t.calls.set n d }, ?_, ?_, by simp [hlen], ?_⟩
      · simp only [List.mem_append, List.mem_map]
        rintro e (he | ⟨a, ha, rfl⟩)
        · exact hes e he
        · exact has a ha
      · rw [run?] at ht
        rw [run?, List.foldlM_append, ht]
        exact run?_act (List.getElem?_eq_getElem hnt) hd
      · intro i hin c hc
        by_cases hne : n = i
        · subst hne
          rw [List.getElem?_set_self hnt] at hc
          cases hc
          exact hidle
        · rw [List.getElem?_set_ne hne] at hc
          exact hi i (by omega) c hc
  obtain ⟨es, t, hes, ht, hlen, hi⟩ := key s.calls.length (Nat.le_refl _)
  refine ⟨es, t, hes, ht, idle_iff.2 fun i c hc => hi i ?_ c hc⟩
  have := (List.getElem?_eq_some_iff.1 hc).1
  omega

/-! ## What the requests come to -/

/-- Each of the operations that were started is performed at the endpoint, with whatever peer its
request meets. -/
def Performed (peers : Nat → Peer) (endpoint : String) (results : Nat → Performance)
    (ops : List Operation) : Prop :=
  ∀ i op, ops[i]? = some op → results i = perform (peers i) endpoint op

section

variable {peers : Nat → Peer} {endpoint : String} (hes : ∀ e ∈ es, e.isAbort = false)
  (hs : (begin endpoint).run? results es = some s)
  (hp : Performed peers endpoint results (es.filterMap Event.started?))
  {i : Nat} {c : Call} (hc : s.calls[i]? = some c)
include hes hs hp hc

/-- **A call among others is one that its operation could come to alone.** -/
theorem reached_of_performed : c.Reached (peers i) endpoint c.operation := by
  obtain ⟨as, has, hrun⟩ := apart_run hs hes i c hc
  have hop : (es.filterMap Event.started?)[i]? = some c.operation := by
    have hops := operations_run hs
    simp only [begin, List.map_nil, List.nil_append] at hops
    rw [← hops, List.getElem?_map, hc, Option.map_some]
  rw [endpoint_run hs, hp i c.operation hop] at hrun
  exact ⟨as, has, hrun⟩

/-- What a callback is told among other calls is what a command for the same operation comes to. -/
theorem told_of_performed :
    ∀ o ∈ c.delivered, command (peers i) endpoint c.operation = .ok o := by
  intro o ho
  have hsound := Call.sound_of_reached (reached_of_performed hes hs hp hc)
  rw [command_eq, ((Call.orderly_of_sound hsound).own o ho).2]

end

/-! ## Callbacks -/

/-- **Every callback is run exactly once, with its own outcome, under any schedule.** After any
events in which no task is cancelled, every operation that was started has its call; each call is
orderly; and when the tasks have nothing left to do, which they can always come to, each call is
settled. -/
theorem callbacks_exactly_once (results : Nat → Performance) (endpoint : String)
    (hes : ∀ e ∈ es, e.isAbort = false) (hs : (begin endpoint).run? results es = some s) :
    s.calls.map (·.operation) = es.filterMap Event.started? ∧
    (∀ i (c : Call), s.calls[i]? = some c → c.Orderly (results i)) ∧
    (Idle results s → ∀ i (c : Call), s.calls[i]? = some c → c.Settled (results i)) ∧
    ∃ rest t, (∀ e ∈ rest, e.isTask = true) ∧ s.run? results rest = some t ∧ Idle results t := by
  have hapart : Apart results s := apart_run hs hes
  refine ⟨?_, fun i c hc => Call.orderly_of_sound (hapart.sound hc), fun hidle i c hc => ?_,
    exists_idle results s⟩
  · simpa [begin] using operations_run hs
  · exact Call.settled_of_idle (hapart.sound hc) (idle_iff.1 hidle i c hc)

/-- Three calls in turns: the first callback panics, the second request is let go of, and the
third handle is. -/
def interleaving : List Event :=
  [.start .reset, .start .resources, .act 0 (.hand (.callback true)), .act 1 .release,
    .start (.migrateTenant "t"), .act 2 (.hand (.callback false)), .act 2 .drop, .act 1 .finish,
    .act 2 .finish, .act 0 .finish, .act 2 .deliver, .act 0 .deliver, .act 0 .join]

/-- What the three requests come to: the reset is refused, there are no resources, and the tenant is
taken up. -/
def interleaved : Nat → Performance
  | 0 => perform (.terse ⟨500, by decide, by decide⟩) "http://[::1]:5000" .reset
  | 1 => perform (.terse ⟨404, by decide, by decide⟩) "http://[::1]:5000" .resources
  | _ => perform (.terse ⟨202, by decide, by decide⟩) "http://[::1]:5000" (.migrateTenant "t")

theorem interleaving_settles :
    (∀ e ∈ interleaving, e.isAbort = false) ∧ ∃ s,
      (begin "http://[::1]:5000").run? interleaved interleaving = some s ∧
      s.calls.map (·.operation) = [.reset, .resources, .migrateTenant "t"] ∧
      (∀ (i : Nat) (c : Call), s.calls[i]? = some c → c.Settled (interleaved i)) ∧
      s.calls.map (fun c => c.requests.map fun r => (r.method, r.target.path)) =
        [[(.post, .segments ["reset"])], [(.get, .segments ["resources"])],
          [(.post, .segments ["tenants", "t"])]] ∧
      s.calls.map (fun c => c.delivered.map (·.exitCode)) = [[1], [], [0]] := by
  have hes : ∀ e ∈ interleaving, e.isAbort = false := by decide
  refine ⟨hes, _, rfl, rfl,
    (callbacks_exactly_once interleaved "http://[::1]:5000" hes rfl).2.2.1 ?_, ?_, ?_⟩
  · rintro (op | ⟨_ | _ | _ | i, a⟩) ha
    · cases ha
    all_goals cases a <;> rfl
  · decide +kernel
  · decide +kernel

end MigrationClient.Client.Session
