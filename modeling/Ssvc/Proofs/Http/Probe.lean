import Mathlib.Data.List.Basic
import Mathlib.Data.List.Induction
import Ssvc.Platform.Standard
import Ssvc.Proofs.Http.Telling

set_option autoImplicit false

/-! # What becomes of a probe

An open breaker grants one attempt as a probe and waits to be told how it went. A probe that ends
with an error that the breaker is not told of is never given back, and the client is refused from
then on. In every other run each probe is given back, and an address is asked for again as soon as
the breaker has been open for long enough. One invariant says so of a run, and every event keeps
it. -/

namespace Ssvc.Http

open Time (Ticks)

variable {τ : Type}

section

variable [Ticks τ]

/-! ## Runs -/

namespace Session

/-- What happens to a session: time passes, or a document is fetched. -/
inductive Event (τ : Type) where
  | wait (seconds : τ) (micros : Int)
  | fetch (url : String) (headers : Value)

/-- The session after an event. -/
def step (session : Session τ) : Event τ → Session τ
  | .wait seconds micros => { session with host := session.host.advance seconds micros }
  | .fetch url headers => (Http.fetch url headers session).2

/-- The session after some events. -/
def after (session : Session τ) (events : List (Event τ)) : Session τ :=
  events.foldl step session

/-- The moment `now`, if a result is one that the breaker is told of as a failure. -/
def recordedAt {α : Type} (now : τ) : Except FetchError α → Option τ
  | .ok _ => none
  | .error error => if error.isRecorded then some now else none

/-- The moment of an event that the breaker was told of as a failure. -/
def failureAt? (session : Session τ) : Event τ → Option τ
  | .wait _ _ => none
  | .fetch url headers => recordedAt session.host.ticks (Http.fetch url headers session).1

/-- The moment of the latest failure that the breaker was told of in a run. -/
def lastFailure? (session : Session τ) : List (Event τ) → Option τ
  | [] => none
  | event :: rest => ((session.step event).lastFailure? rest).or (session.failureAt? event)

/-- Holds when fetching breaks off without a word to the breaker while that is open. -/
def LosesProbe (session : Session τ) (url : String) (headers : Value) : Prop :=
  session.client.breaker.isOpen = true ∧
    ∃ error, (Http.fetch url headers session).1 = .error error ∧ error.isSilent = true

/-- Holds of the runs in which some fetch loses its probe. -/
def LosesProbeIn (session : Session τ) (events : List (Event τ)) : Prop :=
  ∃ before url headers rest, events = before ++ .fetch url headers :: rest ∧
    (session.after before).LosesProbe url headers

theorem after_concat (session : Session τ) (events : List (Event τ)) (event : Event τ) :
    session.after (events ++ [event]) = (session.after events).step event := by
  simp [after]

theorem lastFailure_concat (session : Session τ) (events : List (Event τ)) (event : Event τ) :
    session.lastFailure? (events ++ [event])
      = ((session.after events).failureAt? event).or (session.lastFailure? events) := by
  induction events generalizing session with
  | nil => simp [lastFailure?, after]
  | cons first rest ih =>
      rw [List.cons_append, lastFailure?, ih, lastFailure?, Option.or_assoc]
      rfl

theorem losesProbeIn_concat_iff (session : Session τ) (events : List (Event τ)) (event : Event τ) :
    session.LosesProbeIn (events ++ [event]) ↔
      session.LosesProbeIn events ∨
        ∃ url headers, event = .fetch url headers ∧ (session.after events).LosesProbe url headers := by
  constructor
  · rintro ⟨before, url, headers, rest, hsplit, hloses⟩
    rcases List.eq_nil_or_concat' rest with rfl | ⟨rest, last, rfl⟩
    · obtain ⟨rfl, hlast⟩ := List.append_inj' hsplit rfl
      exact Or.inr ⟨url, headers, (List.cons.inj hlast).1, hloses⟩
    · rw [← List.cons_append, ← List.append_assoc] at hsplit
      obtain ⟨rfl, -⟩ := List.append_inj' hsplit rfl
      exact Or.inl ⟨before, url, headers, rest, rfl, hloses⟩
  · rintro (⟨before, url, headers, rest, rfl, hloses⟩ | ⟨url, headers, rfl, hloses⟩)
    · exact ⟨before, url, headers, rest ++ [event], by simp, hloses⟩
    · exact ⟨events, url, headers, [], rfl, hloses⟩

/-! ## A probe that is lost -/

/-- While a probe is under way, no event changes the client. -/
theorem client_step_of_probing {session : Session τ} (hsound : session.client.breaker.Sound)
    (hprobing : session.client.breaker.probing = true) (event : Event τ) :
    (session.step event).client = session.client := by
  cases event with
  | wait seconds micros => rfl
  | fetch url headers =>
      have hrefused : session.canAttempt.1 = false :=
        congrArg Prod.fst (Breaker.canAttempt_of_probing hsound hprobing session.host.ticks)
      have hfetches := fetches_fetch session url headers
      show (Http.fetch url headers session).2.client = session.client
      generalize Http.fetch url headers session = outcome at hfetches ⊢
      cases hfetches with
      | kept _ hafter => exact hafter
      | refused => rfl
      | succeeded hasks | failed hasks | brokeOff hasks =>
          exact absurd (hasks.2.symm.trans hrefused) (by simp)

theorem client_after_of_probing {session : Session τ} (hsound : session.client.breaker.Sound)
    (hprobing : session.client.breaker.probing = true) (events : List (Event τ)) :
    (session.after events).client = session.client := by
  induction events using List.reverseRecOn with
  | nil => rfl
  | append_singleton events event ih =>
      rw [after_concat, client_step_of_probing (by rwa [ih]) (by rwa [ih]), ih]

/-- From then on, whatever is not kept is refused, and refusing changes nothing. -/
theorem fetch_after_of_probing {session : Session τ} (hsound : session.client.breaker.Sound)
    (hprobing : session.client.breaker.probing = true) (events : List (Event τ)) (url : String)
    (headers : Value) (hkept : (session.after events).client.kept? url = none) :
    Http.fetch url headers (session.after events)
      = (.error (.circuitOpen session.client.name), session.after events) := by
  have hclient := client_after_of_probing hsound hprobing events
  have hrefused : (session.after events).canAttempt.1 = false := by
    refine congrArg Prod.fst (Breaker.canAttempt_of_probing ?_ ?_ _) <;> rwa [hclient]
  rw [fetch_of_refused hkept hrefused, hclient]

/-! ## The invariant -/

/-- What a run keeps: a sound breaker with its setting, which is open since the latest failure if it
is open, and which probes exactly if a probe was lost. -/
structure Keeps (openSeconds : τ) (start : Session τ) (events : List (Event τ)) : Prop where
  sound : (start.after events).client.breaker.Sound
  openSeconds_eq : (start.after events).client.breaker.openSeconds = openSeconds
  lastFailure_of_openedAt : ∀ moment, (start.after events).client.breaker.openedAt = some moment →
    start.lastFailure? events = some moment
  probing_iff : (start.after events).client.breaker.probing = true ↔ start.LosesProbeIn events

variable {openSeconds : τ} {start : Session τ} {events : List (Event τ)}

theorem Keeps.nil (start : Session τ) (threshold : Int) (openSeconds : τ) :
    Keeps openSeconds (start.withBreaker (.new threshold openSeconds)) [] where
  sound := Breaker.sound_new threshold openSeconds
  openSeconds_eq := rfl
  lastFailure_of_openedAt := nofun
  probing_iff := by
    refine iff_of_false nofun ?_
    rintro ⟨before, url, headers, rest, hsplit, -⟩
    simp at hsplit

/-- An event after which the client is what it was, and which told the breaker nothing. -/
theorem Keeps.of_client_eq (h : Keeps openSeconds start events) {event : Event τ}
    (hclient : ((start.after events).step event).client = (start.after events).client)
    (hfailure : (start.after events).failureAt? event = none)
    (hloses : ∀ url headers, event = .fetch url headers →
      ¬ (start.after events).LosesProbe url headers) :
    Keeps openSeconds start (events ++ [event]) where
  sound := by
    rw [after_concat, hclient]
    exact h.sound
  openSeconds_eq := by
    rw [after_concat, hclient]
    exact h.openSeconds_eq
  lastFailure_of_openedAt := by
    rw [after_concat, hclient, lastFailure_concat, hfailure]
    exact h.lastFailure_of_openedAt
  probing_iff := by
    rw [after_concat, hclient, losesProbeIn_concat_iff, h.probing_iff]
    refine ⟨Or.inl, ?_⟩
    rintro (hlost | ⟨url, headers, hevent, hlost⟩)
    · exact hlost
    · exact absurd hlost (hloses url headers hevent)

/-- A fetch that is granted goes on from a run without a lost probe, so it is all that decides
whether one is under way now. -/
theorem Keeps.of_asks (h : Keeps openSeconds start events) {url : String} {headers : Value}
    (hasks : (start.after events).Asks url) {breaker : Breaker τ}
    (hbreaker : ((start.after events).step (.fetch url headers)).client.breaker = breaker)
    (hsound : breaker.Sound)
    (hseconds : breaker.openSeconds = (start.after events).client.breaker.openSeconds)
    (hopened : ∀ moment, breaker.openedAt = some moment →
      ((start.after events).failureAt? (.fetch url headers)).or (start.lastFailure? events)
        = some moment)
    (hprobing : breaker.probing = true ↔ (start.after events).LosesProbe url headers) :
    Keeps openSeconds start (events ++ [.fetch url headers]) where
  sound := by
    rw [after_concat, hbreaker]
    exact hsound
  openSeconds_eq := by
    rw [after_concat, hbreaker, hseconds, h.openSeconds_eq]
  lastFailure_of_openedAt := by
    rw [after_concat, hbreaker, lastFailure_concat]
    exact hopened
  probing_iff := by
    have hkept : ¬ start.LosesProbeIn events := by
      rw [← h.probing_iff]
      intro hprobed
      have hrefused := congrArg Prod.fst (Breaker.canAttempt_of_probing h.sound hprobed
        (start.after events).host.ticks)
      exact Bool.false_ne_true (hrefused.symm.trans hasks.2)
    rw [after_concat, hbreaker, losesProbeIn_concat_iff, hprobing]
    refine ⟨fun hloses => Or.inr ⟨url, headers, rfl, hloses⟩, ?_⟩
    rintro (hlost | ⟨_, _, ⟨⟩, hloses⟩)
    · exact absurd hlost hkept
    · exact hloses

theorem Keeps.wait (h : Keeps openSeconds start events) (seconds : τ) (micros : Int) :
    Keeps openSeconds start (events ++ [.wait seconds micros]) :=
  h.of_client_eq rfl rfl nofun

/-- The five ways in which a fetch can go. -/
theorem Keeps.fetch (h : Keeps openSeconds start events) (url : String) (headers : Value) :
    Keeps openSeconds start (events ++ [.fetch url headers]) := by
  have hfetches := fetches_fetch (start.after events) url headers
  rcases hfetch : Http.fetch url headers (start.after events) with ⟨result, after⟩
  have hstep : (start.after events).step (.fetch url headers) = after := congrArg Prod.snd hfetch
  have hfailure : (start.after events).failureAt? (.fetch url headers)
      = recordedAt (start.after events).host.ticks result := by
    rw [failureAt?, hfetch]
  have hloses : (start.after events).LosesProbe url headers ↔
      (start.after events).client.breaker.isOpen = true ∧
        ∃ error, result = .error error ∧ error.isSilent = true := by
    rw [LosesProbe, hfetch]
  have hasked := Breaker.sound_canAttempt h.sound (start.after events).host.ticks
  rw [hfetch] at hfetches
  cases hfetches with
  | kept _ hafter =>
      refine h.of_client_eq (hstep ▸ hafter) hfailure ?_
      rintro _ _ ⟨⟩
      rw [hloses]
      rintro ⟨-, error, ⟨⟩, -⟩
  | refused =>
      refine h.of_client_eq (congrArg Session.client hstep) hfailure ?_
      rintro _ _ ⟨⟩
      rw [hloses]
      rintro ⟨-, error, ⟨⟩, ⟨⟩⟩
  | succeeded hasks hafter herror =>
      refine h.of_asks hasks (hstep ▸ hafter) (Breaker.sound_recordSuccess _) rfl nofun ?_
      refine iff_of_false nofun ?_
      rw [hloses]
      rintro ⟨-, error, hresult, hsilent⟩
      exact Bool.false_ne_true ((herror error hresult).2.symm.trans hsilent)
  | failed hasks hrecorded hafter =>
      refine h.of_asks hasks (hstep ▸ hafter) (Breaker.sound_recordFailure hasked _) ?_ ?_ ?_
      · rw [Breaker.openSeconds_recordFailure]
        exact Breaker.openSeconds_canAttempt _ _
      · intro moment hopened
        rw [hfailure, recordedAt, if_pos hrecorded, Option.some_or]
        rcases Breaker.openedAt_recordFailure hasked (start.after events).host.ticks with
          hnone | hnow
        · exact absurd (hnone.symm.trans hopened) nofun
        · exact hnow.symm.trans hopened
      · refine iff_of_false (Bool.eq_false_iff.1 (Breaker.probing_recordFailure hasked _)) ?_
        rw [hloses]
        rintro ⟨-, error, ⟨⟩, hsilent⟩
        rw [FetchError.isRecorded_of_isSilent hsilent] at hrecorded
        cases hrecorded
  | brokeOff hasks hsilent hafter =>
      refine h.of_asks hasks (hstep ▸ hafter) hasked (Breaker.openSeconds_canAttempt _ _) ?_ ?_
      · intro moment hopened
        rw [hfailure, recordedAt, FetchError.isRecorded_of_isSilent hsilent]
        exact h.lastFailure_of_openedAt moment
          ((Breaker.openedAt_canAttempt _ _).symm.trans hopened)
      · rw [hloses]
        refine (Bool.eq_iff_iff.1 (Breaker.probing_of_granted h.sound hasks.2)).trans ?_
        exact ⟨fun hopen => ⟨hopen, _, rfl, hsilent⟩, And.left⟩

theorem Keeps.after (h : Keeps openSeconds start []) (events : List (Event τ)) :
    Keeps openSeconds start events := by
  induction events using List.reverseRecOn with
  | nil => exact h
  | append_singleton events event ih =>
      cases event with
      | wait seconds micros => exact ih.wait seconds micros
      | fetch url headers => exact ih.fetch url headers

/-- **When a probe is given back.** In a run that starts with a new breaker, a probe is under way
after some events exactly if one of the fetches broke off without a word to the breaker while that
was open. From then on everything that is not kept is refused for good. Otherwise an address that is
not kept is asked for over the network as soon as the breaker's time has passed since the latest
failure that it was told of. -/
theorem probing_after_iff (start : Session τ) (threshold : Int) (openSeconds : τ)
    (events : List (Event τ)) :
    let start := start.withBreaker (.new threshold openSeconds)
    let reached := start.after events
    (reached.client.breaker.probing = true ↔ start.LosesProbeIn events) ∧
    (reached.client.breaker.probing = true → ∀ later url headers,
      (reached.after later).client.kept? url = none →
      Http.fetch url headers (reached.after later)
        = (.error (.circuitOpen reached.client.name), reached.after later)) ∧
    (reached.client.breaker.probing = false →
      (∀ moment, start.lastFailure? events = some moment →
        ¬ reached.host.ticks - moment < openSeconds) →
      reached.client.retry.attempts ≠ 0 → ∀ url headers, reached.client.kept? url = none →
      reached.host.requests ++ [reached.requestFor url headers]
        <+: (Http.fetch url headers reached).2.host.requests) := by
  intro start reached
  have h : Keeps openSeconds start events := (Keeps.nil _ threshold openSeconds).after events
  refine ⟨h.probing_iff, fun hprobing later url headers hkept => ?_, ?_⟩
  · exact fetch_after_of_probing h.sound hprobing later url headers hkept
  · intro hprobing helapsed hattempts url headers hkept
    refine requests_fetch ⟨hkept, ?_⟩ hattempts headers
    refine Breaker.canAttempt_of_elapsed hprobing fun moment hopened => ?_
    rw [h.openSeconds_eq]
    exact helapsed moment (h.lastFailure_of_openedAt moment hopened)

/-! ## A breakdown during a probe -/

omit [Ticks τ]

/-- A client that makes one attempt, with a breaker that opens at the first failure for ten
seconds. -/
def impatient : Client Rat :=
  ⟨standardName, { Retry.standard with maxRetries := 0 }, .new 1 10, true, []⟩

/-- A line that refuses, then breaks down, and then works. -/
def shakyLine : Host Rat where
  platform := .untiring
  clock := ⟨2024, 5, 2, 14, 23, 11, 500000, some 0⟩
  ticks := 1000
  chance := 0
  replies := [.failure (.connection "refused"), .failure (.outside ⟨.value, "bad response"⟩),
    .response ⟨200, [], "\x7b\x7d", ""⟩]
  requests := []
  waits := []
  disk := .empty
  notes := []

/-- Two fetches, each followed by as many seconds as the breaker stays open. -/
def twoFetches : List (Event Rat) :=
  [.fetch "http://h/t" .null, .wait 10 10000000, .fetch "http://h/t" .null, .wait 10 10000000]

/-- The client's settings can be read from a configuration. When its second fetch breaks down, the
breaker goes on probing, and although its time has passed since the only failure, the address is
refused whatever happens later. -/
theorem probing_after_breakdown :
    let reached := Session.after ⟨impatient, shakyLine⟩ twoFetches
    Retry.read (.obj [("max_retries", .int 0)]) = .ok impatient.retry ∧
      impatient.breaker = .new 1 10 ∧
      Session.lastFailure? ⟨impatient, shakyLine⟩ twoFetches = some 1000 ∧
      10 ≤ reached.host.ticks - 1000 ∧
      reached.client.breaker.probing = true ∧
      ∀ later, (Http.fetch "http://h/t" .null (reached.after later)).1
        = .error (.circuitOpen standardName) := by
  intro reached
  have hprobing : reached.client.breaker.probing = true := by decide +kernel
  have hsound : reached.client.breaker.Sound := by
    refine ⟨fun _ => ?_, fun _ => ?_⟩ <;> decide +kernel
  have hkept : reached.client.kept? "http://h/t" = none :=
    Option.isNone_iff_eq_none.1 (by decide +kernel)
  have hname : reached.client.name = standardName := by decide +kernel
  refine ⟨rfl, rfl, by decide +kernel, by decide +kernel, hprobing, fun later => ?_⟩
  have hclient := client_after_of_probing hsound hprobing later
  rw [fetch_after_of_probing hsound hprobing later "http://h/t" .null (by rwa [hclient]), hname]

end Session

end

end Ssvc.Http
