import MigrationClient.Client.Call
import MigrationClient.Proofs.Folding

/-!
# The course of a call

A call has two tasks, and the caller may let go of either of its holds at any moment: `Step` says
what each action makes of a call, and when it is possible (`step?_eq_some_iff`). As long as no task
is cancelled, where the call stands is told by its stage: nothing has been delivered until
the second task has told the receiver, and then exactly what the request came to (`Sound`).
Every action that is no cancellation keeps this (`sound_step`), so every run does (`sound_run`).
What is left to the tasks shrinks with each of their steps, and when nothing is left the
call is settled (`settled_of_idle`).
-/

namespace MigrationClient.Client

/-- The cancellation of a task. -/
def Action.isAbort : Action → Bool
  | cancel | abandon => true
  | _ => false

/-- A step of one of the two tasks; all other actions are the caller's. -/
def Action.isTask : Action → Bool
  | finish | deliver => true
  | _ => false

/-- How the handle resolves once the receiver has been told. -/
def Receiver.verdict (who : Receiver) : Joined Unit :=
  if who = .callback true then .error .panicked else .ok ()

/-- What the receiver has been told at a stage, if the request comes to `p`. -/
def Stage.told (p : Performance) : Stage → List Outcome
  | .ended who _ => if who.isCallback then [.ofResult p.result] else []
  | _ => []

namespace Call

/-- The receiver that the call was ended with. -/
def receiver? (c : Call) : Option Receiver :=
  match c.stage with
  | .ending who | .ended who _ => some who
  | _ => none

variable {p : Performance} {c d : Call} {a : Action}

/-! ## What an action does -/

/-- What an action makes of a call whose request comes to `p`, and when it is possible. -/
inductive Step (p : Performance) (c : Call) : Action → Call → Prop
  | finish : c.request = none →
      Step p c .finish { c with request := some (.ok p), log := c.log ++ p.events }
  | cancel : c.request = none → Step p c .cancel { c with request := some (.error .cancelled) }
  | release : c.stage = .held → Step p c .release { c with stage := .released }
  | hand {who} : c.stage = .held → Step p c (.hand who) { c with stage := .ending who }
  | deliver {who j} : c.stage = .ending who → c.request = some j →
      Step p c .deliver (c.tell who (.ofResult (awaited j)))
  | abandon {who} : c.stage = .ending who →
      Step p c .abandon { c with stage := .ended who (.error .cancelled) }
  | drop : c.receiver? ≠ none → c.hold = .held → Step p c .drop { c with hold := .dropped }
  | join {who how} : c.stage = .ended who how → c.hold = .held →
      Step p c .join { c with hold := .joined }

/-- **What a call can do** at a moment, by its actions. -/
theorem step?_eq_some_iff : c.step? p a = some d ↔ Step p c a d := by
  constructor
  · intro h
    cases a with
    | finish | cancel | release | hand who | deliver | abandon =>
      simp only [step?] at h
      split at h
      · cases h
        constructor <;> assumption
      · cases h
    | drop =>
      simp only [step?] at h
      split at h
      · next hs hh =>
        cases h
        exact .drop (by simp [receiver?, hs]) hh
      · next hs hh =>
        cases h
        exact .drop (by simp [receiver?, hs]) hh
      · cases h
    | join =>
      simp only [step?] at h
      split at h
      · next hs hh =>
        cases h
        exact .join hs hh
      · cases h
  · intro h
    cases h with
    | finish hr | cancel hr => simp only [step?, hr]
    | release hs | hand hs | abandon hs => simp only [step?, hs]
    | deliver hs hr => simp only [step?, hs, hr]
    | drop hw hh =>
      unfold receiver? at hw
      split at hw
      · next hs => simp only [step?, hs, hh]
      · next hs => simp only [step?, hs, hh]
      · exact absurd rfl hw
    | join hs hh => simp only [step?, hs, hh]

theorem step?_eq_none_iff : c.step? p a = none ↔ ∀ d, ¬ Step p c a d := by
  simp only [Option.eq_none_iff_forall_ne_some, ne_eq, step?_eq_some_iff]

/-! ## Where a call stands -/

/-- Where a call stands whose request comes to `p`, if none of its tasks was cancelled. -/
structure Sound (p : Performance) (c : Call) : Prop where
  request : c.request = none ∨ c.request = some (.ok p)
  delivered : c.delivered = c.stage.told p
  ended : ∀ who how, c.stage = .ended who how → c.request = some (.ok p) ∧ how = who.verdict

/-- What anybody can see of a call at any moment: its receiver was told at most once, not before
the request had ended, and what it was told is what the request came to. A handle that has
resolved tells that the receiver was told, and has panicked only because the receiver did. -/
structure Orderly (p : Performance) (c : Call) : Prop where
  once : c.delivered.length ≤ 1
  own : ∀ o ∈ c.delivered, c.request = some (.ok p) ∧ o = .ofResult p.result
  resolved : ∀ how, c.handle? = some how → ∃ who, c.stage = .ended who how ∧
    c.request = some (.ok p) ∧ c.delivered = if who.isCallback then [.ofResult p.result] else []
  panicked : ∀ how, c.handle? = some (.error how) →
    how = .panicked ∧ c.receiver? = some (.callback true)

theorem sound_start (p : Performance) (endpoint : String) (op : Operation) :
    Sound p (start endpoint op) where
  request := .inl rfl
  delivered := rfl
  ended _ _ h := nomatch h

theorem sound_step (h : c.step? p a = some d) (ha : a.isAbort = false) (hc : Sound p c) :
    Sound p d := by
  cases step?_eq_some_iff.1 h with
  | cancel | abandon => cases ha
  | finish => exact ⟨.inr rfl, hc.delivered, fun who how hs => ⟨rfl, (hc.ended who how hs).2⟩⟩
  | release hs | hand hs =>
    exact ⟨hc.request, by rw [hc.delivered, hs]; rfl, fun _ _ h => nomatch h⟩
  | @deliver who j hs hr =>
    obtain rfl : j = .ok p := by
      rcases hc.request with hn | hp
      · simp [hn] at hr
      · simpa [hp] using hr.symm
    refine ⟨.inr hr, ?_, fun _ _ he => ?_⟩
    · simp [tell, Stage.told, hc.delivered, hs, awaited]
    · cases he
      exact ⟨hr, rfl⟩
  | drop | join => exact ⟨hc.request, hc.delivered, hc.ended⟩

/-- **A run without cancellations keeps a call sound.** -/
theorem sound_run {as : List Action} (h : c.run? p as = some d)
    (has : ∀ a ∈ as, a.isAbort = false) (hc : Sound p c) : Sound p d :=
  foldlM_keeps (m := Option) (fun _ _ a ha hs => sound_step hs (has a ha)) h hc

/-- No action changes what the call is about. -/
theorem about_step (h : c.step? p a = some d) :
    d.endpoint = c.endpoint ∧ d.operation = c.operation := by
  cases step?_eq_some_iff.1 h
  all_goals exact ⟨rfl, rfl⟩

/-- No run changes what the call is about. -/
theorem about_run {as : List Action} (h : c.run? p as = some d) :
    d.endpoint = c.endpoint ∧ d.operation = c.operation :=
  foldlM_keeps (m := Option) (P := fun e => e.endpoint = c.endpoint ∧ e.operation = c.operation)
    (fun _ _ _ _ hs he => ⟨(about_step hs).1.trans he.1, (about_step hs).2.trans he.2⟩) h
    ⟨rfl, rfl⟩

theorem stage_of_handle? {how : Joined Unit} (h : c.handle? = some how) :
    ∃ who, c.stage = .ended who how ∧ c.hold ≠ .dropped := by
  unfold handle? at h
  split at h
  · next who _ hs hh =>
    cases h
    exact ⟨who, hs, by simp [hh]⟩
  · next who _ hs hh =>
    cases h
    exact ⟨who, hs, by simp [hh]⟩
  · cases h

theorem handle?_of_ended {who : Receiver} {how : Joined Unit} (h : c.stage = .ended who how)
    (hd : c.hold ≠ .dropped) : c.handle? = some how := by
  unfold handle?
  rw [h]
  cases hh : c.hold with
  | dropped => exact absurd hh hd
  | held | joined => rfl

theorem orderly_of_sound (hc : Sound p c) : Orderly p c := by
  have told : ∀ o ∈ c.delivered, ∃ who how, c.stage = .ended who how ∧ o = .ofResult p.result := by
    rw [hc.delivered]
    cases hs : c.stage with
    | ended who how =>
      intro o ho
      cases who with
      | nobody => cases ho
      | callback panics => exact ⟨_, _, rfl, List.mem_singleton.1 ho⟩
    | _ => exact fun o ho => nomatch ho
  refine ⟨?_, fun o ho => ?_, fun how hh => ?_, fun how hh => ?_⟩
  · rw [hc.delivered]
    cases c.stage with
    | ended who how => cases who <;> simp [Stage.told, Receiver.isCallback]
    | _ => simp [Stage.told]
  · obtain ⟨who, how, hs, rfl⟩ := told o ho
    exact ⟨(hc.ended who how hs).1, rfl⟩
  · obtain ⟨who, hs, -⟩ := stage_of_handle? hh
    exact ⟨who, hs, (hc.ended who how hs).1, by rw [hc.delivered, hs]; rfl⟩
  · obtain ⟨who, hs, -⟩ := stage_of_handle? hh
    have hv := (hc.ended who _ hs).2
    unfold Receiver.verdict at hv
    split at hv
    · next hw =>
      cases hv
      exact ⟨rfl, by simp [receiver?, hs, hw]⟩
    · cases hv

/-! ## The end of a call -/

/-- Where a call stands once its tasks have run to their ends. -/
structure Settled (p : Performance) (c : Call) : Prop where
  request : c.request = some (.ok p)
  issued : c.requests = p.requests
  delivered : ∀ who, c.receiver? = some who →
    c.delivered = if who.isCallback then [.ofResult p.result] else []
  resolved : ∀ who, c.receiver? = some who → c.hold ≠ .dropped → c.handle? = some who.verdict

/-- No task can take a step. -/
def Idle (p : Performance) (c : Call) : Prop := ∀ a, a.isTask = true → c.step? p a = none

theorem idle_iff : Idle p c ↔ c.request ≠ none ∧ ∀ who, c.stage ≠ .ending who := by
  simp only [Idle, step?_eq_none_iff]
  constructor
  · intro h
    have hr : c.request ≠ none := fun hr => h .finish rfl _ (.finish hr)
    refine ⟨hr, fun who hs => ?_⟩
    obtain ⟨j, hj⟩ := Option.ne_none_iff_exists'.1 hr
    exact h .deliver rfl _ (.deliver hs hj)
  · rintro ⟨hr, hs⟩ a ha d hd
    cases hd with
    | finish hn => exact hr hn
    | deliver he => exact hs _ he
    | _ => cases ha

/-- **A sound call whose tasks have nothing left to do is settled.** -/
theorem settled_of_idle (hc : Sound p c) (h : Idle p c) : Settled p c := by
  obtain ⟨hr, hs⟩ := idle_iff.1 h
  have ended : ∀ who, c.receiver? = some who → c.stage = .ended who who.verdict := by
    intro who hw
    unfold receiver? at hw
    split at hw
    · next w he => exact absurd he (hs w)
    · next w how he =>
      cases hw
      rw [he, (hc.ended _ _ he).2]
    · cases hw
  exact {
    request := hc.request.resolve_left hr
    issued := by simp [requests, hc.request.resolve_left hr]
    delivered := fun who hw => by rw [hc.delivered, ended who hw]; rfl
    resolved := fun who hw hd => handle?_of_ended (ended who hw) hd }

/-- The tasks of a call can always run to their ends. -/
theorem exists_idle (p : Performance) (c : Call) :
    ∃ as d, (∀ a ∈ as, a.isTask = true) ∧ c.run? p as = some d ∧ Idle p d := by
  -- The task of the request goes first, if it has not run; the other one may be waiting for it.
  obtain ⟨as, b, has, hb, hr⟩ : ∃ as b, (∀ a ∈ as, a.isTask = true) ∧
      c.run? p as = some b ∧ b.request ≠ none := by
    cases hr : c.request with
    | none => exact ⟨[.finish], _, by simp [Action.isTask], by simp [run?, step?, hr]; rfl, by simp⟩
    | some j => exact ⟨[], c, by simp, rfl, by simp [hr]⟩
  by_cases hs : ∃ who, b.stage = .ending who
  · obtain ⟨who, hs⟩ := hs
    obtain ⟨j, hj⟩ := Option.ne_none_iff_exists'.1 hr
    refine ⟨as ++ [.deliver], b.tell who (.ofResult (awaited j)), ?_, ?_, ?_⟩
    · simpa [or_imp, forall_and, Action.isTask] using has
    · simp only [run?] at hb
      simp [run?, List.foldlM_append, hb, step?, hs, hj]
    · exact idle_iff.2 ⟨hr, fun w h => nomatch h⟩
  · exact ⟨as, b, has, hb, idle_iff.2 ⟨hr, fun who h => hs ⟨who, h⟩⟩⟩

end Call

end MigrationClient.Client
