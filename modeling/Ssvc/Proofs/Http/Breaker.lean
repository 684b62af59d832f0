import Mathlib.Algebra.Order.Ring.Rat
import Ssvc.Http.Breaker

set_option autoImplicit false

/-! # A breaker and its history

A breaker keeps three fields and forgets the calls that set them. This module keeps the calls beside
the breaker and says what the fields stand for: how many failures there were since the last success,
when the latest of them was, and whether an attempt was granted after it. One invariant links the
two, every event preserves it, and from it follow the answers that a breaker gives after any run. -/

namespace Ssvc.Http.Breaker

open Time (Ticks)

variable {τ : Type}

/-! ## Calls -/

/-- What happens to a breaker: time passes, or it is called. -/
inductive Event (τ : Type) where
  | wait (span : τ)
  | attempt
  | success
  | failure

/-- A call that was made: an attempt with its answer, a success, or a failure with its moment. -/
inductive Call (τ : Type) where
  | attempt (granted : Bool)
  | success
  | failure (moment : τ)

/-- The failures since the last success, in calls of which the latest comes first. -/
def failuresInARow : List (Call τ) → Nat
  | [] => 0
  | .attempt _ :: earlier => failuresInARow earlier
  | .success :: _ => 0
  | .failure _ :: earlier => failuresInARow earlier + 1

/-- The moment of the latest failure. -/
def lastFailure? : List (Call τ) → Option τ
  | [] => none
  | .attempt _ :: earlier => lastFailure? earlier
  | .success :: earlier => lastFailure? earlier
  | .failure moment :: _ => some moment

/-- Whether an attempt was granted after the latest failure. -/
def grantedSinceFailure : List (Call τ) → Bool
  | [] => false
  | .attempt granted :: earlier => granted || grantedSinceFailure earlier
  | .success :: earlier => grantedSinceFailure earlier
  | .failure _ :: _ => false

theorem exists_lastFailure {calls : List (Call τ)} (h : 1 ≤ failuresInARow calls) :
    ∃ moment, lastFailure? calls = some moment := by
  induction calls with
  | nil => exact absurd h (by simp [failuresInARow])
  | cons call earlier ih =>
      cases call with
      | attempt granted => exact ih h
      | success => exact absurd h (by simp [failuresInARow])
      | failure moment => exact ⟨moment, rfl⟩

/-! ## Attempts -/

section

variable [Ticks τ]

theorem canAttempt_of_closed {breaker : Breaker τ} (h : breaker.openedAt = none) (now : τ) :
    breaker.canAttempt now = (true, breaker) := by
  simp only [canAttempt, h]

theorem canAttempt_of_open {breaker : Breaker τ} {openedAt : τ}
    (h : breaker.openedAt = some openedAt) (now : τ) :
    breaker.canAttempt now =
      if now - openedAt < breaker.openSeconds ∨ breaker.probing then (false, breaker)
      else (true, { breaker with probing := true }) := by
  simp only [canAttempt, h]

end

/-! ## Runs -/

/-- A breaker with the clock beside it and the calls it has had, the latest first. -/
structure Run (τ : Type) where
  now : τ
  breaker : Breaker τ
  calls : List (Call τ)

namespace Run

/-- A run that starts with a breaker that has seen nothing. -/
def start (threshold : Int) (openSeconds now : τ) : Run τ :=
  ⟨now, Breaker.new threshold openSeconds, []⟩

/-- What an event does: time passes on the clock, and a call is answered and kept. -/
def step [Ticks τ] (run : Run τ) : Event τ → Run τ
  | .wait span => { run with now := run.now + span }
  | .attempt =>
    let (granted, breaker) := run.breaker.canAttempt run.now
    { run with breaker, calls := .attempt granted :: run.calls }
  | .success =>
    { run with breaker := run.breaker.recordSuccess, calls := .success :: run.calls }
  | .failure =>
    { run with
      breaker := run.breaker.recordFailure run.now, calls := .failure run.now :: run.calls }

/-- The run after some events. -/
def after [Ticks τ] (run : Run τ) (events : List (Event τ)) : Run τ :=
  events.foldl step run

/-! ## The invariant -/

/-- The settings stay as they are, and the fields say what the calls say. -/
structure Agrees (threshold : Int) (openSeconds : τ) (run : Run τ) : Prop where
  threshold_eq : run.breaker.threshold = threshold
  openSeconds_eq : run.breaker.openSeconds = openSeconds
  failures_eq : run.breaker.failures = failuresInARow run.calls
  openedAt_eq : run.breaker.openedAt =
    if max threshold 1 ≤ failuresInARow run.calls then lastFailure? run.calls else none
  probing_eq : run.breaker.probing = (run.breaker.isOpen && grantedSinceFailure run.calls)

variable {threshold : Int} {openSeconds : τ} {run : Run τ}

theorem agrees_start (threshold : Int) (openSeconds now : τ) :
    Agrees threshold openSeconds (start threshold openSeconds now) := by
  refine ⟨rfl, rfl, rfl, ?_, rfl⟩
  rw [if_neg]
  · rfl
  · simp [start, failuresInARow]

section

variable [Ticks τ]

theorem agrees_attempt (h : Agrees threshold openSeconds run) :
    Agrees threshold openSeconds (run.step .attempt) := by
  obtain ⟨hthreshold, hseconds, hfailures, hopened, hprobing⟩ := h
  simp only [step]
  rcases hcase : run.breaker.openedAt with _ | openedAt
  · rw [canAttempt_of_closed hcase]
    refine ⟨hthreshold, hseconds, hfailures, hopened, ?_⟩
    rw [hprobing, isOpen, hcase]
    rfl
  · rw [canAttempt_of_open hcase]
    split
    · exact ⟨hthreshold, hseconds, hfailures, hopened, hprobing⟩
    · refine ⟨hthreshold, hseconds, hfailures, hopened, ?_⟩
      simp [isOpen, hcase, grantedSinceFailure]

theorem agrees_success (h : Agrees threshold openSeconds run) :
    Agrees threshold openSeconds (run.step .success) := by
  refine ⟨h.threshold_eq, h.openSeconds_eq, rfl, ?_, rfl⟩
  rw [if_neg]
  · rfl
  · simp [step, failuresInARow]

/-- A failure opens the breaker at its own moment once there are enough of them; before that the
breaker was not open, so no probe was under way. -/
theorem agrees_failure (h : Agrees threshold openSeconds run) :
    Agrees threshold openSeconds (run.step .failure) := by
  obtain ⟨hthreshold, hseconds, hfailures, hopened, hprobing⟩ := h
  simp only [step, recordFailure]
  split
  · next henough =>
      rw [hthreshold, hfailures] at henough
      refine ⟨hthreshold, hseconds, congrArg (· + 1) hfailures, ?_, by simp [grantedSinceFailure]⟩
      rw [if_pos]
      · rfl
      · rw [failuresInARow]
        omega
  · next hfew =>
      rw [hthreshold, hfailures] at hfew
      -- too few with this one, so there were too few before it and the breaker was not open
      have hclosed : run.breaker.openedAt = none := by
        rw [hopened, if_neg]
        omega
      refine ⟨hthreshold, hseconds, congrArg (· + 1) hfailures, ?_, ?_⟩
      · rw [if_neg]
        · exact hclosed
        · rw [failuresInARow]
          omega
      · rw [hprobing, isOpen, isOpen, hclosed]
        rfl

theorem agrees_step (h : Agrees threshold openSeconds run) (event : Event τ) :
    Agrees threshold openSeconds (run.step event) := by
  cases event with
  | wait span =>
      exact ⟨h.threshold_eq, h.openSeconds_eq, h.failures_eq, h.openedAt_eq, h.probing_eq⟩
  | attempt => exact agrees_attempt h
  | success => exact agrees_success h
  | failure => exact agrees_failure h

theorem agrees_after (h : Agrees threshold openSeconds run) (events : List (Event τ)) :
    Agrees threshold openSeconds (run.after events) := by
  induction events generalizing run with
  | nil => exact h
  | cons event rest ih => exact ih (agrees_step h event)

/-! ## What the invariant says -/

omit [Ticks τ] in
theorem isOpen_iff (h : Agrees threshold openSeconds run) :
    run.breaker.isOpen = true ↔ max threshold 1 ≤ failuresInARow run.calls := by
  rw [isOpen, h.openedAt_eq]
  split
  · next henough =>
      have hfailed : 1 ≤ failuresInARow run.calls := by omega
      obtain ⟨moment, hmoment⟩ := exists_lastFailure hfailed
      simp [hmoment, henough]
  · next hfew => simp [hfew]

omit [Ticks τ] in
theorem openedAt_eq_lastFailure (h : Agrees threshold openSeconds run)
    (hopen : run.breaker.isOpen = true) : run.breaker.openedAt = lastFailure? run.calls := by
  rw [h.openedAt_eq, if_pos ((isOpen_iff h).1 hopen)]

/-- An open breaker grants an attempt when enough time has passed since the latest failure and no
attempt was granted after it. -/
theorem canAttempt_iff_of_isOpen (h : Agrees threshold openSeconds run)
    (hopen : run.breaker.isOpen = true) :
    (run.breaker.canAttempt run.now).1 = true ↔
      ∃ moment, lastFailure? run.calls = some moment ∧ ¬ run.now - moment < openSeconds ∧
        grantedSinceFailure run.calls = false := by
  obtain ⟨moment, hmoment⟩ := Option.isSome_iff_exists.1 hopen
  have hprobing := h.probing_eq
  rw [hopen, Bool.true_and] at hprobing
  rw [canAttempt_of_open hmoment, ← openedAt_eq_lastFailure h hopen, hmoment, h.openSeconds_eq,
    hprobing]
  split
  · next hrefused =>
      refine ⟨fun hgranted => absurd hgranted (by simp), ?_⟩
      rintro ⟨latest, hlatest, helapsed, hprobe⟩
      cases hlatest
      rcases hrefused with hearly | hgranted
      · exact absurd hearly helapsed
      · rw [hprobe] at hgranted
        exact absurd hgranted (by simp)
  · next hgranted =>
      rw [not_or] at hgranted
      exact ⟨fun _ => ⟨moment, rfl, hgranted.1, Bool.eq_false_of_not_eq_true hgranted.2⟩,
        fun _ => rfl⟩

theorem canAttempt_iff (h : Agrees threshold openSeconds run) :
    (run.breaker.canAttempt run.now).1 = true ↔
      run.breaker.isOpen = false ∨
        ∃ moment, lastFailure? run.calls = some moment ∧ ¬ run.now - moment < openSeconds ∧
          grantedSinceFailure run.calls = false := by
  rcases hopen : run.breaker.isOpen with _ | _
  · have hclosed : run.breaker.openedAt = none := by
      rw [isOpen] at hopen
      exact Option.isNone_iff_eq_none.1 (Option.isSome_eq_false_iff.1 hopen)
    simp [canAttempt_of_closed hclosed]
  · rw [canAttempt_iff_of_isOpen h hopen]
    simp

end

/-! ## The answers after a run -/

/-- After any events a new breaker is open exactly when the failures in a row have reached the
threshold, counts them, probes only while it is open, and grants an attempt exactly when it is not
open, or enough time has passed since the latest failure and none was granted after it. -/
theorem answers_after (threshold : Int) (openSeconds start : Rat) (events : List (Event Rat)) :
    let run := (Run.start threshold openSeconds start).after events
    (run.breaker.isOpen = true ↔ max threshold 1 ≤ (failuresInARow run.calls : Int)) ∧
      run.breaker.failures = failuresInARow run.calls ∧
      (run.breaker.probing = true → run.breaker.isOpen = true) ∧
      ((run.breaker.canAttempt run.now).1 = true ↔
        run.breaker.isOpen = false ∨
          ∃ moment, lastFailure? run.calls = some moment ∧ openSeconds ≤ run.now - moment ∧
            grantedSinceFailure run.calls = false) := by
  intro run
  have h : Agrees threshold openSeconds run :=
    agrees_after (agrees_start threshold openSeconds start) events
  refine ⟨isOpen_iff h, h.failures_eq, ?_, ?_⟩
  · intro hprobing
    rw [h.probing_eq, Bool.and_eq_true] at hprobing
    exact hprobing.1
  · have hanswer := canAttempt_iff h
    simp only [show ∀ a b : Rat, ¬ a < b ↔ b ≤ a from fun _ _ => not_lt] at hanswer
    exact hanswer

end Run

end Ssvc.Http.Breaker
