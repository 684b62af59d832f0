import Ssvc.Proofs.Http.Probe
import Ssvc.Proofs.Traversal

set_option autoImplicit false

/-! # When there is no attempt to make

The attempts that a client may make are counted from its settings, and the last of them either
answers or fails for good. So they only run out if there are none to begin with, which is up to one
setting: a number of retries below zero is read like any other. Then a fetch that the breaker grants
ends without a request. With any other settings it makes one. Settings stay the same in a run, so
this holds of every session that is reached in it. -/

namespace Ssvc

/-- An object stands for itself, empty or not. -/
theorem Value.orElse_obj (fields : Fields) : (Value.obj fields).orElse (.obj []) = .obj fields := by
  cases fields <;> rfl

namespace Http

open Time (Ticks)

variable {τ : Type}

/-! ## The setting -/

namespace Retry

/-- Holds of the configurations that set the number of retries below zero. -/
def SetsNoAttempt (config : Value) : Prop :=
  ∃ fields value n, config = .obj fields ∧ fields.lookup "max_retries" = some value ∧
    whole value = .ok n ∧ n < 0

variable {config : Value} {retry : Retry}

/-- The number of retries is read from its own field, whatever the others say. -/
theorem setting_maxRetries_of_read (h : read config = .ok retry) :
    ∃ fields, config.orElse (.obj []) = .obj fields ∧
      setting fields "max_retries" standard.maxRetries whole = .ok retry.maxRetries := by
  simp only [read, Traversal.bind_eq_ok_iff] at h
  obtain ⟨fields, hfields, n, hn, _, _, _, _, _, _, _, _, hretry⟩ := h
  obtain rfl := Except.ok.inj hretry
  refine ⟨fields, ?_, hn⟩
  cases hconfig : config.orElse (.obj []) with
  | obj _ =>
      rw [hconfig] at hfields
      exact congrArg Value.obj (Except.ok.inj hfields)
  | null | bool _ | int _ | decimal _ | str _ | arr _ =>
      rw [hconfig] at hfields
      cases hfields

/-- Without the field there are retries, so a number below zero has been set. -/
theorem maxRetries_neg_iff (h : read config = .ok retry) :
    retry.maxRetries < 0 ↔ SetsNoAttempt config := by
  obtain ⟨fields, hconfig, hsetting⟩ := setting_maxRetries_of_read h
  constructor
  · intro hneg
    unfold setting at hsetting
    split at hsetting
    · next value hvalue =>
        refine ⟨fields, value, _, ?_, hvalue, hsetting, hneg⟩
        rw [Value.orElse] at hconfig
        split at hconfig
        · exact hconfig
        · obtain rfl := Value.obj.inj hconfig
          cases hvalue
    · rw [← Except.ok.inj hsetting] at hneg
      exact absurd hneg (by decide)
  · rintro ⟨_, value, n, rfl, hvalue, hwhole, hneg⟩
    rw [Value.orElse_obj] at hconfig
    obtain rfl := Value.obj.inj hconfig
    rw [setting, hvalue] at hsetting
    rwa [← Except.ok.inj (hwhole.symm.trans hsetting)]

theorem attempts_eq_zero_iff (h : read config = .ok retry) :
    retry.attempts = 0 ↔ SetsNoAttempt config := by
  rw [← maxRetries_neg_iff h, attempts]
  omega

end Retry

section

variable [Ticks τ] {session : Session τ} {url : String}

/-! ## A fetch -/

/-- Without an attempt the breaker is asked, and that is all. -/
theorem fetch_of_no_attempt (hasks : session.Asks url) (hnone : session.client.retry.attempts = 0)
    (headers : Value) :
    fetch url headers session
      = (.error (.exhausted session.client.name url), session.canAttempt.2) := by
  obtain ⟨hkept, hgranted⟩ := hasks
  have hasked : session.canAttempt = (true, session.canAttempt.2) := Prod.ext hgranted rfl
  have hretry : session.canAttempt.2.client.retry.attempts = 0 := hnone
  rw [fetch, hkept, request, hasked]
  dsimp only
  rw [hretry]
  rfl

/-- Attempts that have run out were asked for, and there were none. -/
theorem asks_of_exhausted {headers : Value} {name asked : String}
    (h : (fetch url headers session).1 = .error (.exhausted name asked)) :
    session.Asks url ∧ session.client.retry.attempts = 0 := by
  constructor
  · have hfetches := fetches_fetch session url headers
    rcases hfetch : fetch url headers session with ⟨result, after⟩
    rw [hfetch] at h hfetches
    obtain rfl : result = .error (.exhausted name asked) := h
    cases hfetches with
    | succeeded hasks _ _ | failed hasks _ _ | brokeOff hasks _ _ => exact hasks
  · cases (fetch_spec url headers session).2 _ h with
    | attempts hcause =>
        cases hcause with
        | exhausted _ _ hnone => exact hnone

/-! ## Runs -/

namespace Session

theorem retry_step (session : Session τ) (event : Event τ) :
    (session.step event).client.retry = session.client.retry := by
  cases event with
  | wait seconds micros => rfl
  | fetch url headers => exact (fetch_spec url headers session).1.retry_eq

theorem retry_after (session : Session τ) (events : List (Event τ)) :
    (session.after events).client.retry = session.client.retry := by
  induction events using List.reverseRecOn with
  | nil => rfl
  | append_singleton events event ih => rw [after_concat, retry_step, ih]

/-- **When the attempts run out.** The settings of a client are read from a configuration. Whatever
its breaker and the line to the server are like, and whatever has happened before, a fetch runs out
of attempts exactly if it asks for its address and the configuration sets a number of retries below
zero. Then it makes no request, waits for nothing and tells the breaker nothing. With any other
configuration every fetch that asks for its address makes a request. -/
theorem exhausted_iff (start : Session τ) (config : Value)
    (hread : Retry.read config = .ok start.client.retry) (events : List (Event τ)) (url : String)
    (headers : Value) :
    let reached := start.after events
    ((∃ name asked, (Http.fetch url headers reached).1 = .error (.exhausted name asked)) ↔
      reached.Asks url ∧ Retry.SetsNoAttempt config) ∧
    (reached.Asks url →
      (Retry.SetsNoAttempt config →
        Http.fetch url headers reached
          = (.error (.exhausted reached.client.name url), reached.canAttempt.2) ∧
        reached.canAttempt.2.host = reached.host) ∧
      (¬ Retry.SetsNoAttempt config →
        reached.host.requests ++ [reached.requestFor url headers]
          <+: (Http.fetch url headers reached).2.host.requests)) := by
  intro reached
  rw [← retry_after start events] at hread
  have hattempts := Retry.attempts_eq_zero_iff hread
  refine ⟨⟨?_, ?_⟩, fun hasks => ⟨fun hnone => ⟨?_, rfl⟩, fun hsome => ?_⟩⟩
  · rintro ⟨name, asked, hexhausted⟩
    exact (asks_of_exhausted hexhausted).imp_right hattempts.1
  · rintro ⟨hasks, hnone⟩
    exact ⟨_, _, congrArg Prod.fst (fetch_of_no_attempt hasks (hattempts.2 hnone) headers)⟩
  · exact fetch_of_no_attempt hasks (hattempts.2 hnone) headers
  · exact requests_fetch hasks (hattempts.not.2 hsome) headers

/-! ## A number below zero -/

omit [Ticks τ]

/-- A client that makes no attempt, with a new breaker. -/
def idle : Client Rat :=
  .new { Retry.standard with maxRetries := -1 }

/-- A line that works. -/
def steadyLine : Host Rat :=
  { shakyLine with replies := [.response ⟨200, [], "\x7b\x7d", ""⟩] }

/-- The number may be written as a text. Then the first fetch, which the breaker grants, has no
attempt to make. -/
theorem exhausted_iff_idle :
    Retry.read (.obj [("max_retries", .str "-1")]) = .ok idle.retry ∧
      Http.fetch "http://h/t" .null ⟨idle, steadyLine⟩
        = (.error (.exhausted standardName "http://h/t"), ⟨idle, steadyLine⟩) := by
  have hread : Retry.read (.obj [("max_retries", .str "-1")]) = .ok idle.retry := rfl
  have hnone : Retry.SetsNoAttempt (.obj [("max_retries", .str "-1")]) :=
    ⟨_, _, -1, rfl, rfl, rfl, by decide⟩
  have hasks : Session.Asks ⟨idle, steadyLine⟩ "http://h/t" := ⟨rfl, rfl⟩
  have hexhausted := exhausted_iff ⟨idle, steadyLine⟩ _ hread [] "http://h/t" .null
  exact ⟨hread, ((hexhausted.2 hasks).1 hnone).1⟩

/-- The settings are accepted, the breaker grants an attempt and the line works, and still no
request is made. -/
theorem exhausted_without_request :
    Retry.read (.obj [("max_retries", .int (-1))]) = .ok idle.retry ∧
      Session.Asks ⟨idle, steadyLine⟩ "http://h/t" ∧
      (Http.fetch "http://h/t" .null ⟨idle, steadyLine⟩).1
        = .error (.exhausted standardName "http://h/t") ∧
      (Http.fetch "http://h/t" .null ⟨idle, steadyLine⟩).2.host.requests = [] :=
  ⟨rfl, ⟨rfl, rfl⟩, rfl, rfl⟩

end Session

end

end Http

end Ssvc
