import Mathlib.Algebra.Order.BigOperators.Group.List
import Mathlib.Algebra.Order.Floor.Ring
import Mathlib.Data.Rat.Floor
import Mathlib.Tactic.Linarith
import Ssvc.Proofs.Http.Cache

set_option autoImplicit false

/-! # An outage

While a server only fails, a client may not make things worse. Every fetch then fails, and there are no
more failures than fetches. As long as the platform refuses no wait, a fetch that reaches the network
ends with a failure that the breaker is told of once, however many attempts it takes. So the state of
the breaker can be read off from the moments of these fetches, and between them lies the time for
which the breaker stays open. That bounds how many requests a run makes. -/

namespace Ssvc.Http

open Time (Ticks)

variable {τ : Type}

namespace Breaker

/-! ## A breaker that is told of few failures -/

/-- Holds of the sound breakers with a threshold that have counted so many failures at most. -/
structure Within (threshold : Int) (count : Nat) (breaker : Breaker τ) : Prop where
  sound : breaker.Sound
  threshold_eq : breaker.threshold = threshold
  failures_le : breaker.failures ≤ count

namespace Within

variable {threshold : Int} {count : Nat} {breaker : Breaker τ}

theorem new (threshold : Int) (openSeconds : τ) :
    Within threshold 0 (Breaker.new threshold openSeconds) :=
  ⟨sound_new threshold openSeconds, rfl, Nat.le_refl 0⟩

theorem succ (h : Within threshold count breaker) : Within threshold (count + 1) breaker :=
  ⟨h.sound, h.threshold_eq, Nat.le_succ_of_le h.failures_le⟩

theorem recordSuccess (h : Within threshold count breaker) :
    Within threshold count breaker.recordSuccess :=
  ⟨sound_recordSuccess breaker, h.threshold_eq, Nat.zero_le count⟩

theorem recordFailure (h : Within threshold count breaker) (now : τ) :
    Within threshold (count + 1) (breaker.recordFailure now) where
  sound := sound_recordFailure h.sound now
  threshold_eq := by
    rw [Breaker.recordFailure]
    split <;> exact h.threshold_eq
  failures_le := by
    rw [failures_recordFailure]
    exact Nat.succ_le_succ h.failures_le

theorem canAttempt [Ticks τ] (h : Within threshold count breaker) (now : τ) :
    Within threshold count (breaker.canAttempt now).2 where
  sound := sound_canAttempt h.sound now
  threshold_eq := by
    rw [canAttempt_snd]
    split <;> exact h.threshold_eq
  failures_le := by
    rw [failures_canAttempt]
    exact h.failures_le

end Within

/-! ## A breaker that is told of failures only -/

/-- The breaker after failures at some moments, with no success among them. -/
def failedAt (threshold : Int) (openSeconds : τ) (moments : List τ) : Breaker τ where
  threshold := threshold
  openSeconds := openSeconds
  failures := moments.length
  openedAt := if threshold ≤ moments.length then moments.getLast? else none
  probing := false

variable {threshold : Int} {openSeconds : τ} {moments : List τ}

theorem failedAt_nil (threshold : Int) (openSeconds : τ) :
    failedAt threshold openSeconds [] = new threshold openSeconds := by
  simp [failedAt, new]

theorem sound_failedAt (threshold : Int) (openSeconds : τ) (moments : List τ) :
    (failedAt threshold openSeconds moments).Sound := by
  refine ⟨fun hopen => ?_, nofun⟩
  unfold isOpen failedAt at hopen
  dsimp only at hopen
  split at hopen
  · assumption
  · cases hopen

theorem recordFailure_failedAt (threshold : Int) (openSeconds : τ) (moments : List τ) (now : τ) :
    (failedAt threshold openSeconds moments).recordFailure now
      = failedAt threshold openSeconds (moments ++ [now]) := by
  unfold recordFailure failedAt
  dsimp only
  rw [List.length_append, List.length_singleton, List.getLast?_concat]
  split
  · rfl
  · -- too few with this one are too few without it
    rw [if_neg (by omega)]

/-- Enough failures have a latest one. -/
theorem exists_last_of_enough (hthreshold : 1 ≤ threshold) (henough : threshold ≤ moments.length) :
    ∃ moment, moments.getLast? = some moment := by
  refine Option.isSome_iff_exists.1 (List.getLast?_isSome.2 ?_)
  rintro rfl
  rw [List.length_nil] at henough
  omega

section

variable [Ticks τ]

/-- A failure ends a probe, so it makes no difference that one has begun. -/
theorem recordFailure_canAttempt {breaker : Breaker τ} (h : breaker.Sound) (now : τ) :
    (breaker.canAttempt now).2.recordFailure now = breaker.recordFailure now := by
  rw [canAttempt_snd]
  split
  · next hprobe =>
      have henough := h.enough hprobe.2
      unfold recordFailure
      dsimp only
      rw [if_pos (by omega), if_pos (by omega)]
  · rfl

theorem canAttempt_failedAt_of_few (hfew : (moments.length : Int) < threshold) (openSeconds now : τ) :
    ((failedAt threshold openSeconds moments).canAttempt now).1 = true := by
  rw [canAttempt_of_closed]
  exact if_neg (by omega)

theorem canAttempt_failedAt_iff (henough : threshold ≤ moments.length) {moment : τ}
    (hlast : moments.getLast? = some moment) (now : τ) :
    ((failedAt threshold openSeconds moments).canAttempt now).1 = true ↔
      ¬ now - moment < openSeconds := by
  have hopened : (failedAt threshold openSeconds moments).openedAt = some moment :=
    (if_pos henough).trans hlast
  rw [canAttempt_of_open hopened]
  by_cases helapsed : now - moment < openSeconds <;> simp [failedAt, helapsed]

end

end Breaker

namespace Session

/-! ## Fetches that reach the network -/

/-- Holds of the events of a run that are fetches. -/
def Event.isFetch : Event τ → Bool
  | .wait _ _ => false
  | .fetch _ _ => true

/-- The time that passes in an event. -/
def Event.seconds : Event Rat → Rat
  | .wait seconds _ => seconds
  | .fetch _ _ => 0

section

variable [Ticks τ]

/-- Holds of the events in which a request is made. -/
def Reaches (session : Session τ) (event : Event τ) : Prop :=
  session.host.requests.length < (session.step event).host.requests.length

instance (session : Session τ) (event : Event τ) : Decidable (session.Reaches event) :=
  inferInstanceAs (Decidable (_ < _))

/-- The moments of the fetches of a run that reach the network. -/
def reachMoments (session : Session τ) : List (Event τ) → List τ
  | [] => []
  | event :: rest =>
    if session.Reaches event then session.host.ticks :: (session.step event).reachMoments rest
    else (session.step event).reachMoments rest

theorem reachMoments_concat (session : Session τ) (events : List (Event τ)) (event : Event τ) :
    session.reachMoments (events ++ [event])
      = session.reachMoments events ++
        if (session.after events).Reaches event then [(session.after events).host.ticks]
        else [] := by
  induction events generalizing session with
  | nil => rfl
  | cons first rest ih =>
      rw [List.cons_append, reachMoments, reachMoments, ih]
      split <;> rfl

theorem not_reaches_wait (session : Session τ) (seconds : τ) (micros : Int) :
    ¬ session.Reaches (.wait seconds micros) :=
  Nat.lt_irrefl _

/-- An address whose document is not kept is asked for exactly if the breaker grants it. -/
theorem reaches_fetch_iff {session : Session τ} {url : String}
    (hkept : session.client.kept? url = none) (hattempts : session.client.retry.attempts ≠ 0)
    (headers : Value) : session.Reaches (.fetch url headers) ↔ session.canAttempt.1 = true := by
  show session.host.requests.length < (Http.fetch url headers session).2.host.requests.length ↔ _
  rcases hgranted : session.canAttempt.1 with _ | _
  · rw [fetch_of_refused hkept hgranted]
    simp
  · have hgrow := (requests_fetch ⟨hkept, hgranted⟩ hattempts headers).length_le
    rw [List.length_append, List.length_singleton] at hgrow
    exact iff_of_true hgrow rfl

/-- A fetch that meets nothing but trouble fails. -/
theorem exists_error_fetch {session : Session τ} {url : String} {headers : Value}
    (hkept : session.client.kept? url = none)
    (htrouble : ∀ exchange ∈ session.host.exchanges (Http.fetch url headers session).2.host,
      exchange.2.isTrouble = true) :
    ∃ error, (Http.fetch url headers session).1 = .error error := by
  rcases hgranted : session.canAttempt.1 with _ | _
  · rw [fetch_of_refused hkept hgranted]
    exact ⟨_, rfl⟩
  · have hline := attempts_request hgranted url headers
    rw [host_fetch hkept] at htrouble
    obtain ⟨error, herror⟩ := hline.exists_error htrouble
    rcases hrequest : request url headers session with ⟨result, after⟩
    rw [hrequest] at herror
    obtain rfl : result = .error error := herror
    refine ⟨error, ?_⟩
    unfold Http.fetch
    rw [hkept, hrequest]

/-- Whatever a fetch tells the breaker, it is one failure at most. -/
theorem within_fetch {session : Session τ} {threshold : Int} {count : Nat}
    (h : session.client.breaker.Within threshold count) (url : String) (headers : Value) :
    (Http.fetch url headers session).2.client.breaker.Within threshold (count + 1) := by
  have hfetches := fetches_fetch session url headers
  generalize Http.fetch url headers session = outcome at hfetches ⊢
  cases hfetches with
  | kept _ hafter =>
      rw [hafter]
      exact h.succ
  | refused => exact h.succ
  | succeeded _ hafter _ =>
      rw [hafter]
      exact h.recordSuccess.succ
  | failed _ _ hafter =>
      rw [hafter]
      exact (h.canAttempt _).recordFailure _
  | brokeOff _ _ hafter =>
      rw [hafter]
      exact (h.canAttempt _).succ

/-- If its waits go through, the breaker is told of the failure. -/
theorem fetch_of_trouble {session : Session τ} {url : String} {headers : Value}
    (hasks : session.Asks url) (hattempts : session.client.retry.attempts ≠ 0)
    (hmany : session.client.retry.attempts ≤ 1025)
    (hsleeps : session.host.Sleeps (Http.fetch url headers session).2.host)
    (htrouble : ∀ exchange ∈ session.host.exchanges (Http.fetch url headers session).2.host,
      exchange.2.isTrouble = true) :
    ∃ error after, Http.fetch url headers session = (.error error, after) ∧
      after.client = { session.client with
        breaker := session.canAttempt.2.client.breaker.recordFailure session.host.ticks } ∧
      (session.host.exchanges after.host).length ≤ session.client.retry.attempts := by
  obtain ⟨hkept, hgranted⟩ := hasks
  have hline := attempts_request hgranted url headers
  have htells := tells_request hgranted url headers
  rw [host_fetch hkept] at htrouble hsleeps
  obtain ⟨error, herror⟩ := hline.exists_error htrouble
  have hrecorded := hline.isRecorded hattempts hmany hsleeps htrouble error herror
  rcases hrequest : request url headers session with ⟨result, after⟩
  rw [hrequest] at hline htells herror
  obtain rfl : result = .error error := herror
  have hfetch : Http.fetch url headers session = (.error error, after) := by
    unfold Http.fetch
    rw [hkept, hrequest]
  have hclient := htells.client_eq
  rw [Breaker.told, if_pos hrecorded] at hclient
  exact ⟨error, after, hfetch, hclient, hline.length_le⟩

theorem ticks_fetch (session : Session τ) (url : String) (headers : Value) :
    (Http.fetch url headers session).2.host.ticks = session.host.ticks := by
  rcases hkept : session.client.kept? url with _ | document
  · rw [host_fetch hkept]
    rcases hgranted : session.canAttempt.1 with _ | _
    · rw [request_of_refused hgranted]
    · exact (tells_request hgranted url headers).ticks_eq
  · rw [fetch_of_kept hkept]
    rfl

end

/-! ## The clock -/

/-- Only waiting takes time. -/
theorem ticks_after (session : Session Rat) (events : List (Event Rat)) :
    (session.after events).host.ticks
      = session.host.ticks + (events.map Event.seconds).sum := by
  induction events using List.reverseRecOn with
  | nil => simp [after]
  | append_singleton events event ih =>
      rw [after_concat, List.map_append, List.sum_append, ← add_assoc, ← ih]
      cases event with
      | wait seconds micros =>
          show (session.after events).host.ticks + seconds = _
          simp [Event.seconds]
      | fetch url headers =>
          show (Http.fetch url headers (session.after events)).2.host.ticks = _
          rw [ticks_fetch]
          simp [Event.seconds]

theorem elapsed_nonneg {events : List (Event Rat)} (h : ∀ event ∈ events, 0 ≤ event.seconds) :
    0 ≤ (events.map Event.seconds).sum :=
  List.sum_nonneg (by simpa using h)

/-! ## The invariant -/

/-- Holds of the sessions with a new client whose settings make sense: it makes an attempt, can wait
after each of them, and its breaker opens after some failures for some time. -/
structure IsNew (start : Session Rat) (threshold : Int) (openSeconds : Rat) : Prop where
  breaker_eq : start.client.breaker = .new threshold openSeconds
  kept_eq : start.client.kept = []
  one_le_threshold : 1 ≤ threshold
  openSeconds_pos : 0 < openSeconds
  maxRetries_nonneg : 0 ≤ start.client.retry.maxRetries
  maxRetries_le : start.client.retry.maxRetries ≤ 1024

namespace IsNew

variable {start : Session Rat} {threshold : Int} {openSeconds : Rat}

theorem attempts_eq (h : start.IsNew threshold openSeconds) :
    (start.client.retry.attempts : Int) = start.client.retry.maxRetries + 1 := by
  have hnonneg := h.maxRetries_nonneg
  unfold Retry.attempts
  omega

theorem attempts_ne_zero (h : start.IsNew threshold openSeconds) :
    start.client.retry.attempts ≠ 0 := by
  have hnonneg := h.maxRetries_nonneg
  have hattempts := h.attempts_eq
  omega

theorem attempts_le (h : start.IsNew threshold openSeconds) :
    start.client.retry.attempts ≤ 1025 := by
  have hmany := h.maxRetries_le
  have hattempts := h.attempts_eq
  omega

end IsNew

/-- What a run through an outage keeps whatever becomes of its waits: no document, the settings, and a
breaker that has counted no more failures than there were fetches. -/
structure Suffers (start : Session Rat) (threshold : Int) (events : List (Event Rat)) : Prop where
  kept_eq : (start.after events).client.kept = []
  retry_eq : (start.after events).client.retry = start.client.retry
  within : (start.after events).client.breaker.Within threshold (events.countP Event.isFetch)

namespace Suffers

variable {start : Session Rat} {threshold : Int} {openSeconds : Rat} {events : List (Event Rat)}

theorem nil (hnew : start.IsNew threshold openSeconds) : Suffers start threshold [] := by
  refine ⟨hnew.kept_eq, rfl, ?_⟩
  show start.client.breaker.Within threshold 0
  rw [hnew.breaker_eq]
  exact .new threshold openSeconds

theorem kept?_eq_none (h : Suffers start threshold events) (url : String) :
    (start.after events).client.kept? url = none := by
  rw [Client.kept?, h.kept_eq]
  simp

theorem fetch (h : Suffers start threshold events) {url : String} {headers : Value}
    (htrouble : ∀ exchange ∈ (start.after events).host.exchanges
      ((start.after events).step (.fetch url headers)).host, exchange.2.isTrouble = true) :
    Suffers start threshold (events ++ [.fetch url headers]) := by
  obtain ⟨error, herror⟩ := exists_error_fetch (h.kept?_eq_none url) htrouble
  have hgets := gets_fetch (start.after events) url headers
  have hretry := (fetch_spec url headers (start.after events)).1.retry_eq
  constructor
  case kept_eq =>
    rw [after_concat]
    exact (hgets.kept_eq_of_error herror).trans h.kept_eq
  case retry_eq =>
    rw [after_concat]
    exact hretry.trans h.retry_eq
  case within =>
    rw [after_concat, List.countP_append]
    exact within_fetch h.within url headers

/-- By induction on the run. Each of its fetches fails, as all its exchanges are trouble. -/
theorem after (hnew : start.IsNew threshold openSeconds)
    (htrouble : ∀ exchange ∈ start.host.exchanges (start.after events).host,
      exchange.2.isTrouble = true) : Suffers start threshold events := by
  induction events using List.reverseRecOn with
  | nil => exact .nil hnew
  | append_singleton events event ih =>
      rw [exchanges_after_append, List.forall_mem_append, List.forall_mem_append] at htrouble
      have h := ih htrouble.1
      cases event with
      | wait seconds micros =>
          refine ⟨?_, ?_, ?_⟩ <;> rw [after_concat]
          · exact h.kept_eq
          · exact h.retry_eq
          · rw [List.countP_append]
            exact h.within
      | fetch url headers => exact h.fetch htrouble.2.1

end Suffers

/-- What a run through an outage keeps if all its waits go through. -/
structure Endures (start : Session Rat) (threshold : Int) (openSeconds : Rat)
    (events : List (Event Rat)) : Prop where
  client_eq : (start.after events).client = { start.client with
    breaker := .failedAt threshold openSeconds (start.reachMoments events) }
  length_le : (start.reachMoments events).length ≤ events.countP Event.isFetch
  /-- no fetch is refused until there are enough failures -/
  length_eq : ((start.reachMoments events).length : Int) < threshold →
    (start.reachMoments events).length = events.countP Event.isFetch
  /-- the fetches after those lie as far apart as the breaker stays open -/
  apart : ∀ moment, (start.reachMoments events).getLast? = some moment →
    ((start.reachMoments events).length - threshold) * openSeconds ≤ moment - start.host.ticks ∧
      moment ≤ (start.after events).host.ticks
  requests_le : (start.host.exchanges (start.after events).host).length
    ≤ start.client.retry.attempts * (start.reachMoments events).length

namespace Endures

variable {start : Session Rat} {threshold : Int} {openSeconds : Rat} {events : List (Event Rat)}

theorem nil (hnew : start.IsNew threshold openSeconds) :
    Endures start threshold openSeconds [] where
  client_eq := by
    show start.client = { start.client with breaker := .failedAt threshold openSeconds [] }
    rw [Breaker.failedAt_nil, ← hnew.breaker_eq]
  length_le := Nat.le_refl 0
  length_eq _ := rfl
  apart := nofun
  requests_le := by
    show (start.host.exchanges start.host).length ≤ _
    rw [Host.exchanges_self]
    exact Nat.zero_le _

theorem kept?_eq_none (h : Endures start threshold openSeconds events)
    (hnew : start.IsNew threshold openSeconds) (url : String) :
    (start.after events).client.kept? url = none := by
  rw [h.client_eq, Client.kept?, hnew.kept_eq]
  simp

theorem retry_eq (h : Endures start threshold openSeconds events) :
    (start.after events).client.retry = start.client.retry := by
  rw [h.client_eq]

theorem canAttempt_eq (h : Endures start threshold openSeconds events) :
    (start.after events).canAttempt.1
      = ((Breaker.failedAt threshold openSeconds (start.reachMoments events)).canAttempt
          (start.after events).host.ticks).1 := by
  show ((start.after events).client.breaker.canAttempt _).1 = _
  rw [h.client_eq]

theorem fetch_of_granted (h : Endures start threshold openSeconds events)
    (hnew : start.IsNew threshold openSeconds)
    (hgranted : (start.after events).canAttempt.1 = true) {url : String} {headers : Value}
    (hsleeps : (start.after events).host.Sleeps
      ((start.after events).step (.fetch url headers)).host)
    (htrouble : ∀ exchange ∈ (start.after events).host.exchanges
      ((start.after events).step (.fetch url headers)).host, exchange.2.isTrouble = true) :
    ∃ error after, Http.fetch url headers (start.after events) = (.error error, after) ∧
      after.client = { (start.after events).client with
        breaker := (start.after events).canAttempt.2.client.breaker.recordFailure
          (start.after events).host.ticks } ∧
      ((start.after events).host.exchanges after.host).length
        ≤ start.client.retry.attempts := by
  have hattempts := hnew.attempts_ne_zero
  have hmany := hnew.attempts_le
  rw [← h.retry_eq] at hattempts hmany ⊢
  exact fetch_of_trouble ⟨h.kept?_eq_none hnew url, hgranted⟩ hattempts hmany hsleeps htrouble

theorem reaches_iff (h : Endures start threshold openSeconds events)
    (hnew : start.IsNew threshold openSeconds) (url : String) (headers : Value) :
    (start.after events).Reaches (.fetch url headers) ↔
      (start.after events).canAttempt.1 = true := by
  have hattempts := hnew.attempts_ne_zero
  rw [← h.retry_eq] at hattempts
  exact reaches_fetch_iff (h.kept?_eq_none hnew url) hattempts headers

/-- An event in which no request is made and which leaves the client as it is. -/
theorem of_not_reaches (h : Endures start threshold openSeconds events) {event : Event Rat}
    (hclient : ((start.after events).step event).client = (start.after events).client)
    (hreaches : ¬ (start.after events).Reaches event) (hforward : 0 ≤ event.seconds)
    (hfetch : event.isFetch = true → threshold ≤ (start.reachMoments events).length) :
    Endures start threshold openSeconds (events ++ [event]) := by
  have hmoments : start.reachMoments (events ++ [event]) = start.reachMoments events := by
    rw [reachMoments_concat, if_neg hreaches, List.append_nil]
  have hfollows := follows_step (start.after events) event
  have hidle : (start.after events).host.exchanges ((start.after events).step event).host = [] := by
    have hlength := Host.length_requests_of_follows hfollows
    unfold Reaches at hreaches
    exact List.eq_nil_of_length_eq_zero (by omega)
  constructor
  case client_eq => rw [after_concat, hclient, hmoments, h.client_eq]
  case length_le =>
    rw [hmoments, List.countP_append]
    exact Nat.le_add_right_of_le h.length_le
  case length_eq =>
    intro hfew
    rw [hmoments] at hfew ⊢
    have hwait : ¬ event.isFetch = true := by
      -- only a breaker with enough failures refuses a fetch
      intro hisFetch
      have henough := hfetch hisFetch
      omega
    rw [List.countP_append, List.countP_singleton, if_neg hwait]
    exact h.length_eq hfew
  case apart =>
    intro moment hlast
    rw [hmoments] at hlast ⊢
    obtain ⟨hapart, hearlier⟩ := h.apart moment hlast
    have hnow : (start.after events).host.ticks ≤ (start.after (events ++ [event])).host.ticks := by
      rw [ticks_after, ticks_after, List.map_append, List.sum_append, ← add_assoc]
      simpa using hforward
    exact ⟨hapart, hearlier.trans hnow⟩
  case requests_le =>
    rw [after_concat, Host.exchanges_trans (follows_after start events) hfollows, hidle,
      List.append_nil, hmoments]
    exact h.requests_le

/-- When the breaker grants an attempt, there has been time for all the failures and for this one. -/
theorem apart_of_granted (h : Endures start threshold openSeconds events)
    (hnew : start.IsNew threshold openSeconds) (hforward : ∀ event ∈ events, 0 ≤ event.seconds)
    (hgranted : (start.after events).canAttempt.1 = true) :
    (((start.reachMoments events).length + 1 : Nat) - threshold) * openSeconds
      ≤ (start.after events).host.ticks - start.host.ticks := by
  rcases lt_or_ge ((start.reachMoments events).length : Int) threshold with hfew | henough
  · -- no time is asked for until there are more failures than the threshold
    have hcount : (((start.reachMoments events).length + 1 : Nat) : Rat) ≤ threshold := by
      exact_mod_cast hfew
    have helapsed := elapsed_nonneg hforward
    have hopen := hnew.openSeconds_pos
    rw [ticks_after]
    nlinarith
  · obtain ⟨moment, hlast⟩ := Breaker.exists_last_of_enough hnew.one_le_threshold henough
    rw [h.canAttempt_eq, Breaker.canAttempt_failedAt_iff henough hlast] at hgranted
    obtain ⟨hapart, -⟩ := h.apart moment hlast
    have hlater : openSeconds ≤ (start.after events).host.ticks - moment := not_lt.1 hgranted
    calc (((start.reachMoments events).length + 1 : Nat) - threshold) * openSeconds
        = ((start.reachMoments events).length - threshold) * openSeconds + openSeconds := by
          push_cast
          ring
      _ ≤ (moment - start.host.ticks) + ((start.after events).host.ticks - moment) :=
          add_le_add hapart hlater
      _ = (start.after events).host.ticks - start.host.ticks := by ring

/-- A fetch that meets trouble is one more failure, at the present moment. -/
theorem of_trouble (h : Endures start threshold openSeconds events)
    (hnew : start.IsNew threshold openSeconds) (hforward : ∀ event ∈ events, 0 ≤ event.seconds)
    (hgranted : (start.after events).canAttempt.1 = true) {url : String} {headers : Value}
    (hsleeps : (start.after events).host.Sleeps
      ((start.after events).step (.fetch url headers)).host)
    (htrouble : ∀ exchange ∈ (start.after events).host.exchanges
      ((start.after events).step (.fetch url headers)).host, exchange.2.isTrouble = true) :
    Endures start threshold openSeconds (events ++ [.fetch url headers]) := by
  have hreaches := (h.reaches_iff hnew url headers).2 hgranted
  have hmoments : start.reachMoments (events ++ [.fetch url headers])
      = start.reachMoments events ++ [(start.after events).host.ticks] := by
    rw [reachMoments_concat, if_pos hreaches]
  obtain ⟨error, after, hfetch, hclient, hlength⟩ :=
    h.fetch_of_granted hnew hgranted hsleeps htrouble
  have hstep : (start.after events).step (.fetch url headers) = after := congrArg Prod.snd hfetch
  have hfollows := follows_step (start.after events) (.fetch url headers)
  have hcount : (events ++ [Event.fetch url headers]).countP Event.isFetch
      = events.countP Event.isFetch + 1 := by
    rw [List.countP_append, List.countP_singleton]
    rfl
  constructor
  case client_eq =>
    have hbreaker : (start.after events).canAttempt.2.client.breaker.recordFailure
        (start.after events).host.ticks
        = .failedAt threshold openSeconds
            (start.reachMoments events ++ [(start.after events).host.ticks]) := by
      show ((start.after events).client.breaker.canAttempt _).2.recordFailure _ = _
      rw [h.client_eq, Breaker.recordFailure_canAttempt (Breaker.sound_failedAt _ _ _),
        Breaker.recordFailure_failedAt]
    rw [after_concat, hstep, hclient, hbreaker, hmoments, h.client_eq]
  case length_le =>
    rw [hmoments, hcount, List.length_append]
    exact Nat.succ_le_succ h.length_le
  case length_eq =>
    intro hfew
    rw [hmoments, List.length_append, List.length_singleton] at hfew ⊢
    rw [hcount, h.length_eq (by omega)]
  case apart =>
    intro moment hlast
    rw [hmoments, List.getLast?_concat] at hlast
    cases hlast
    rw [hmoments, List.length_append, List.length_singleton, after_concat]
    refine ⟨h.apart_of_granted hnew hforward hgranted, le_of_eq ?_⟩
    exact (ticks_fetch _ url headers).symm
  case requests_le =>
    rw [after_concat, Host.exchanges_trans (follows_after start events) hfollows, hmoments, hstep,
      List.length_append, List.length_append, List.length_singleton, Nat.mul_succ]
    exact Nat.add_le_add h.requests_le hlength

/-- A fetch is refused, or it meets trouble. -/
theorem fetch (h : Endures start threshold openSeconds events)
    (hnew : start.IsNew threshold openSeconds) (hforward : ∀ event ∈ events, 0 ≤ event.seconds)
    (url : String) (headers : Value)
    (hsleeps : (start.after events).host.Sleeps
      ((start.after events).step (.fetch url headers)).host)
    (htrouble : ∀ exchange ∈ (start.after events).host.exchanges
      ((start.after events).step (.fetch url headers)).host, exchange.2.isTrouble = true) :
    Endures start threshold openSeconds (events ++ [.fetch url headers]) := by
  have hnone := h.kept?_eq_none hnew url
  rcases hgranted : (start.after events).canAttempt.1 with _ | _
  · have hfetch := fetch_of_refused hnone hgranted headers
    have hstep : (start.after events).step (.fetch url headers) = start.after events :=
      congrArg Prod.snd hfetch
    refine h.of_not_reaches (by rw [hstep]) ?_ (le_refl 0) fun _ => ?_
    · rw [h.reaches_iff hnew, hgranted]
      exact Bool.false_ne_true
    · by_contra hfew
      rw [h.canAttempt_eq, Breaker.canAttempt_failedAt_of_few (by omega)] at hgranted
      cases hgranted
  · exact h.of_trouble hnew hforward hgranted hsleeps htrouble

/-- By induction on the run, whose waits and exchanges include those of every part of it. -/
theorem after (hnew : start.IsNew threshold openSeconds)
    (hforward : ∀ event ∈ events, 0 ≤ event.seconds)
    (hsleeps : start.host.Sleeps (start.after events).host)
    (htrouble : ∀ exchange ∈ start.host.exchanges (start.after events).host,
      exchange.2.isTrouble = true) :
    Endures start threshold openSeconds events := by
  induction events using List.reverseRecOn with
  | nil => exact .nil hnew
  | append_singleton events event ih =>
      rw [exchanges_after_append, List.forall_mem_append, List.forall_mem_append] at htrouble
      rw [sleeps_after_concat_iff] at hsleeps
      rw [List.forall_mem_append] at hforward
      have h := ih hforward.1 hsleeps.1 htrouble.1
      have hevent := hforward.2 event (List.mem_singleton_self event)
      cases event with
      | wait seconds micros =>
          exact h.of_not_reaches rfl (not_reaches_wait _ seconds micros) hevent nofun
      | fetch url headers =>
          exact h.fetch hnew hforward.1 url headers hsleeps.2 htrouble.2.1

/-- There have been enough failures once there have been enough fetches. -/
theorem enough (h : Endures start threshold openSeconds events)
    (hmany : threshold ≤ events.countP Event.isFetch) :
    threshold ≤ (start.reachMoments events).length := by
  by_contra hfew
  have hlength := h.length_eq (by omega)
  omega

end Endures

/-! ## Load on a failing server -/

end Session

end Ssvc.Http
