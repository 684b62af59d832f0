import Ssvc.Proofs.Http.Breaker
import Ssvc.Proofs.Http.Client

set_option autoImplicit false

/-! # What fetching tells the breaker

Every way out of fetching tells the breaker something, or nothing: a response is a success, a
request that failed for good is a failure, and some errors break the attempts off without a word.
One attempt is followed from its request to its end; for all attempts together it goes by induction
on how many are left. What a fetch can be is then said once, in five cases, and nothing after this
module looks into `fetch` itself. -/

namespace Ssvc.Http

open Time (Ticks)

variable {τ : Type}

/-! ## What a breaker is told -/

/-- Holds of the errors that the breaker is told of as a failure. -/
def FetchError.isRecorded : FetchError → Bool
  | .send error => error.isAboutRequest
  | .status _ _ => true
  | .circuitOpen _ | .badBody _ _ | .exhausted _ _ | .delayTooLarge | .badWait _ | .badDate _ => false

/-- Holds of the errors that break attempts off without a word to the breaker: something other than
the request has failed, a wait is out of bounds or refused, or there was no attempt to make. -/
def FetchError.isSilent : FetchError → Bool
  | .send error => !error.isAboutRequest
  | .exhausted _ _ | .delayTooLarge | .badWait _ | .badDate _ => true
  | .circuitOpen _ | .status _ _ | .badBody _ _ => false

theorem FetchError.isRecorded_of_isSilent {error : FetchError} (h : error.isSilent = true) :
    error.isRecorded = false := by
  cases error <;> simp_all [isSilent, isRecorded]

namespace Breaker

/-- The breaker after attempts that have ended with a result. -/
def told (breaker : Breaker τ) (now : τ) : Except FetchError Response → Breaker τ
  | .ok _ => breaker.recordSuccess
  | .error error => if error.isRecorded then breaker.recordFailure now else breaker

theorem recordSuccess_recordFailure (breaker : Breaker τ) (now : τ) :
    (breaker.recordFailure now).recordSuccess = breaker.recordSuccess := by
  unfold recordFailure
  dsimp only
  split <;> rfl

/-- Holds of the breakers that are open only after enough failures, and probe only while open. -/
structure Sound (breaker : Breaker τ) : Prop where
  enough : breaker.isOpen = true → breaker.threshold ≤ breaker.failures
  isOpen_of_probing : breaker.probing = true → breaker.isOpen = true

variable {breaker : Breaker τ}

theorem sound_new (threshold : Int) (openSeconds : τ) : (new threshold openSeconds).Sound :=
  ⟨nofun, nofun⟩

theorem sound_recordSuccess (breaker : Breaker τ) : breaker.recordSuccess.Sound :=
  ⟨nofun, nofun⟩

/-- A failure ends a probe: while the breaker is open there have been enough failures already. -/
theorem probing_recordFailure (h : breaker.Sound) (now : τ) :
    (breaker.recordFailure now).probing = false := by
  unfold recordFailure
  dsimp only
  split
  · rfl
  · next hfew =>
      refine Bool.eq_false_iff.2 fun hprobing => hfew ?_
      have henough := h.enough (h.isOpen_of_probing hprobing)
      omega

theorem openedAt_recordFailure (h : breaker.Sound) (now : τ) :
    (breaker.recordFailure now).openedAt = none ∨
      (breaker.recordFailure now).openedAt = some now := by
  unfold recordFailure
  dsimp only
  split
  · exact Or.inr rfl
  · next hfew =>
      refine Or.inl (Option.not_isSome_iff_eq_none.1 fun hopen => hfew ?_)
      have henough := h.enough hopen
      omega

theorem sound_recordFailure (h : breaker.Sound) (now : τ) : (breaker.recordFailure now).Sound := by
  refine ⟨fun hopen => ?_, fun hprobing => ?_⟩
  · unfold recordFailure at hopen ⊢
    dsimp only at hopen ⊢
    split
    · assumption
    · next hfew =>
        rw [if_neg hfew] at hopen
        have henough := h.enough hopen
        dsimp only
        omega
  · rw [probing_recordFailure h now] at hprobing
    cases hprobing

theorem failures_recordFailure (breaker : Breaker τ) (now : τ) :
    (breaker.recordFailure now).failures = breaker.failures + 1 := by
  unfold recordFailure
  dsimp only
  split <;> rfl

theorem openSeconds_recordFailure (breaker : Breaker τ) (now : τ) :
    (breaker.recordFailure now).openSeconds = breaker.openSeconds := by
  unfold recordFailure
  dsimp only
  split <;> rfl

section

variable [Ticks τ]

/-- A breaker that probes grants nothing. -/
theorem canAttempt_of_probing (h : breaker.Sound) (hprobing : breaker.probing = true) (now : τ) :
    breaker.canAttempt now = (false, breaker) := by
  obtain ⟨openedAt, hopened⟩ := Option.isSome_iff_exists.1 (h.isOpen_of_probing hprobing)
  rw [canAttempt_of_open hopened, if_pos (Or.inr hprobing)]

/-- Whatever is answered, at most a probe begins, and it does so exactly if an open breaker grants
an attempt. -/
theorem canAttempt_snd (breaker : Breaker τ) (now : τ) :
    (breaker.canAttempt now).2 =
      if (breaker.canAttempt now).1 = true ∧ breaker.isOpen = true then
        { breaker with probing := true }
      else breaker := by
  unfold isOpen
  rcases hopened : breaker.openedAt with _ | openedAt
  · simp [canAttempt_of_closed hopened]
  · rw [canAttempt_of_open hopened]
    split <;> simp [hopened]

theorem recordSuccess_canAttempt (breaker : Breaker τ) (now : τ) :
    (breaker.canAttempt now).2.recordSuccess = breaker.recordSuccess := by
  rw [canAttempt_snd]
  split <;> rfl

theorem openedAt_canAttempt (breaker : Breaker τ) (now : τ) :
    (breaker.canAttempt now).2.openedAt = breaker.openedAt := by
  rw [canAttempt_snd]
  split <;> rfl

theorem failures_canAttempt (breaker : Breaker τ) (now : τ) :
    (breaker.canAttempt now).2.failures = breaker.failures := by
  rw [canAttempt_snd]
  split <;> rfl

theorem openSeconds_canAttempt (breaker : Breaker τ) (now : τ) :
    (breaker.canAttempt now).2.openSeconds = breaker.openSeconds := by
  rw [canAttempt_snd]
  split <;> rfl

/-- An attempt that is granted is a probe exactly if the breaker is open. -/
theorem probing_of_granted (h : breaker.Sound) {now : τ}
    (hgranted : (breaker.canAttempt now).1 = true) :
    (breaker.canAttempt now).2.probing = breaker.isOpen := by
  rw [canAttempt_snd]
  rcases hopen : breaker.isOpen with _ | _
  · rw [if_neg (by simp)]
    exact Bool.eq_false_iff.2 fun hprobing =>
      Bool.false_ne_true (hopen.symm.trans (h.isOpen_of_probing hprobing))
  · rw [if_pos ⟨hgranted, rfl⟩]

theorem sound_canAttempt (h : breaker.Sound) (now : τ) : (breaker.canAttempt now).2.Sound := by
  rw [canAttempt_snd]
  split
  · next hprobe => exact ⟨h.enough, fun _ => hprobe.2⟩
  · exact h

/-- Without a probe under way, an attempt is granted as soon as the breaker has been open for long
enough. -/
theorem canAttempt_of_elapsed {now : τ} (hprobing : breaker.probing = false)
    (helapsed : ∀ openedAt, breaker.openedAt = some openedAt →
      ¬ now - openedAt < breaker.openSeconds) :
    (breaker.canAttempt now).1 = true := by
  rcases hopened : breaker.openedAt with _ | openedAt
  · rw [canAttempt_of_closed hopened]
  · rw [canAttempt_of_open hopened, if_neg]
    rw [hprobing]
    simpa using helapsed openedAt hopened

end

end Breaker

/-! ## Attempts -/

/-- What the steps of an attempt leave as it is until the attempts have ended: the client and its
clock. Requests are only added. -/
structure Session.Quiet (before after : Session τ) : Prop where
  client_eq : after.client = before.client
  ticks_eq : after.host.ticks = before.host.ticks
  requests_grow : before.host.requests <+: after.host.requests

namespace Session.Quiet

theorem of_rests {before after : Session τ} (h : before.Rests after) : Quiet before after where
  client_eq := h.client_eq
  ticks_eq := h.ticks_eq
  requests_grow := h.requests_eq ▸ List.prefix_refl _

end Session.Quiet

/-- What is asked of a server for an address. -/
def Session.requestFor (session : Session τ) (url : String) (headers : Value) : Request :=
  ⟨url, headers, session.client.retry.timeout⟩

/-- Sending adds one request. -/
theorem send_spec (session : Session τ) (url : String) (headers : Value) :
    (session.send url headers).2.client = session.client ∧
      (session.send url headers).2.host.ticks = session.host.ticks ∧
      (session.send url headers).2.host.requests
        = session.host.requests ++ [session.requestFor url headers] := by
  unfold Session.send Host.send
  rcases session.host.replies with _ | ⟨first, rest⟩ <;> exact ⟨rfl, rfl, rfl⟩

theorem Session.Quiet.send (session : Session τ) (url : String) (headers : Value) :
    Session.Quiet session (session.send url headers).2 := by
  obtain ⟨hclient, hticks, hrequests⟩ := send_spec session url headers
  exact ⟨hclient, hticks, hrequests ▸ List.prefix_append _ _⟩

/-- Holds of the outcomes of attempts that have told the breaker how they ended, and have changed
nothing else about the client. -/
structure Session.Tells (session : Session τ) (outcome : Outcome τ Response) : Prop where
  client_eq : outcome.2.client = { session.client with
    breaker := session.client.breaker.told session.host.ticks outcome.1 }
  ticks_eq : outcome.2.host.ticks = session.host.ticks
  requests_grow : session.host.requests <+: outcome.2.host.requests
  /-- an error is one that the breaker is told of, or one that it is not -/
  isRecorded_or_isSilent :
    ∀ error, outcome.1 = .error error → error.isRecorded = true ∨ error.isSilent = true

namespace Session.Tells

variable {session : Session τ} {outcome : Outcome τ Response}

theorem of_quiet {later : Session τ} (hquiet : session.Quiet later) (h : later.Tells outcome) :
    session.Tells outcome where
  client_eq := by rw [h.client_eq, hquiet.client_eq, hquiet.ticks_eq]
  ticks_eq := h.ticks_eq.trans hquiet.ticks_eq
  requests_grow := hquiet.requests_grow.trans h.requests_grow
  isRecorded_or_isSilent := h.isRecorded_or_isSilent

theorem of_silent {error : FetchError} (h : error.isSilent = true) :
    session.Tells (.error error, session) where
  client_eq := by
    rw [Breaker.told, FetchError.isRecorded_of_isSilent h]
    rfl
  ticks_eq := rfl
  requests_grow := List.prefix_refl _
  isRecorded_or_isSilent := by
    rintro _ ⟨⟩
    exact Or.inr h

theorem of_recorded {error : FetchError} (h : error.isRecorded = true) :
    session.Tells (.error error, session.recordFailure) where
  client_eq := by
    rw [Breaker.told, if_pos h]
    rfl
  ticks_eq := rfl
  requests_grow := List.prefix_refl _
  isRecorded_or_isSilent := by
    rintro _ ⟨⟩
    exact Or.inl h

theorem settle (url : String) (response : Response) (session : Session τ) :
    session.Tells (Http.settle url response session) := by
  unfold Http.settle
  split
  · exact ⟨rfl, rfl, List.prefix_refl _, nofun⟩
  · split
    · exact of_recorded rfl
    · refine ⟨?_, rfl, List.prefix_refl _, nofun⟩
      -- a failure makes no difference once a success is told after it
      rw [Breaker.told, ← Breaker.recordSuccess_recordFailure _ session.host.ticks]
      rfl

end Session.Tells

/-- What an attempt does once its request has been sent, if the attempts after it tell the breaker how
they end. -/
theorem Session.Attempted.tells {session : Session τ} {url : String} {headers : Value}
    {left attempt : Nat} {outcome : Outcome τ Response}
    (h : session.Attempted url headers left attempt outcome)
    (hnext : ∀ waited : Session τ, waited.Tells (tryFrom url headers left (attempt + 1) waited)) :
    (session.send url headers).2.Tells outcome := by
  cases h with
  | brokeOff hsend hother =>
      rw [hsend]
      exact .of_silent (by simp [FetchError.isSilent, hother])
  | failed hsend habout _ =>
      rw [hsend]
      exact .of_recorded habout
  | @settled response sent hsend _ =>
      rw [hsend]
      exact .settle url response sent
  | undated hsend hrests _ | endless hsend hrests _ _ =>
      rw [hsend]
      exact .of_quiet (.of_rests hrests) (.of_silent rfl)
  | @refused _ _ waiting _ seconds _ hsend hrests _ _ =>
      rw [hsend]
      exact .of_quiet (.of_rests (hrests.trans (.waited waiting seconds))) (.of_silent rfl)
  | @again _ _ waiting _ seconds hsend hrests _ _ _ =>
      rw [hsend]
      exact .of_quiet (.of_rests (hrests.trans (.waited waiting seconds))) (hnext _)

/-- By induction on the attempts that are left. -/
theorem tells_tryFrom (url : String) (headers : Value) (left attempt : Nat) (session : Session τ) :
    session.Tells (tryFrom url headers left attempt session) := by
  induction left generalizing attempt session with
  | zero => exact .of_silent rfl
  | succ left ih =>
      have hattempted := attempted_tryFrom url headers left attempt session
      exact .of_quiet (.send session url headers) (hattempted.tells (ih (attempt + 1)))

/-- The first attempt reaches the network, whatever becomes of it. -/
theorem requests_tryFrom (url : String) (headers : Value) {left : Nat} (hleft : left ≠ 0)
    (attempt : Nat) (session : Session τ) :
    session.host.requests ++ [session.requestFor url headers]
      <+: (tryFrom url headers left attempt session).2.host.requests := by
  obtain ⟨left, rfl⟩ := Nat.exists_eq_succ_of_ne_zero hleft
  obtain ⟨-, -, hrequests⟩ := send_spec session url headers
  rw [← hrequests]
  have hattempted := attempted_tryFrom url headers left attempt session
  exact (hattempted.tells (tells_tryFrom url headers left (attempt + 1))).requests_grow

/-! ## Documents -/

section

variable [Ticks τ]

/-- Holds of the addresses that a session has to ask for, and may. -/
def Session.Asks (session : Session τ) (url : String) : Prop :=
  session.client.kept? url = none ∧ session.canAttempt.1 = true

/-- What a fetch can be: the document is kept, the breaker refuses, or the attempts that it grants
end in one of three ways. -/
inductive Session.Fetches (session : Session τ) (url : String) : Outcome τ Value → Prop
  | kept {document : Value} {after : Session τ} (hkept : session.client.kept? url = some document)
      (hafter : after.client = session.client) : Fetches session url (.ok document, after)
  | refused (hkept : session.client.kept? url = none) (hrefused : session.canAttempt.1 = false) :
      Fetches session url (.error (.circuitOpen session.client.name), session)
  | succeeded {result : Except FetchError Value} {after : Session τ} (hasks : session.Asks url)
      (hafter : after.client.breaker = session.client.breaker.recordSuccess)
      (herror : ∀ error, result = .error error → error.isRecorded = false ∧ error.isSilent = false) :
      Fetches session url (result, after)
  | failed {error : FetchError} {after : Session τ} (hasks : session.Asks url)
      (hrecorded : error.isRecorded = true)
      (hafter : after.client.breaker
        = session.canAttempt.2.client.breaker.recordFailure session.host.ticks) :
      Fetches session url (.error error, after)
  | brokeOff {error : FetchError} {after : Session τ} (hasks : session.Asks url)
      (hsilent : error.isSilent = true)
      (hafter : after.client.breaker = session.canAttempt.2.client.breaker) :
      Fetches session url (.error error, after)

/-- A session that is refused stays as it is. -/
theorem canAttempt_of_refused {session : Session τ} (h : session.canAttempt.1 = false) :
    session.canAttempt = (false, session) := by
  have hbreaker : (session.client.breaker.canAttempt session.host.ticks).2
      = session.client.breaker := by
    rw [Breaker.canAttempt_snd, if_neg]
    rintro ⟨hgranted, -⟩
    exact Bool.false_ne_true (h.symm.trans hgranted)
  refine Prod.ext h ?_
  show session.withBreaker (session.client.breaker.canAttempt session.host.ticks).2 = session
  rw [hbreaker]
  rfl

omit [Ticks τ] in
theorem breaker_keep (client : Client τ) (url : String) (document : Value) :
    (client.keep url document).breaker = client.breaker := by
  unfold Client.keep
  split <;> rfl

/-- A request that is granted has told the breaker how it ended. -/
theorem tells_request {session : Session τ} (hgranted : session.canAttempt.1 = true) (url : String)
    (headers : Value) : session.canAttempt.2.Tells (request url headers session) := by
  have hasked : session.canAttempt = (true, session.canAttempt.2) := Prod.ext hgranted rfl
  unfold request
  rw [hasked]
  exact tells_tryFrom url headers _ 0 _

theorem request_of_refused {session : Session τ} (h : session.canAttempt.1 = false) (url : String)
    (headers : Value) :
    request url headers session = (.error (.circuitOpen session.client.name), session) := by
  unfold request
  rw [canAttempt_of_refused h]

theorem fetch_of_kept {session : Session τ} {url : String} {document : Value}
    (hkept : session.client.kept? url = some document) (headers : Value) :
    fetch url headers session = (.ok document, session.note .debug ("cache hit for " ++ url)) := by
  unfold fetch
  rw [hkept]

theorem fetch_of_refused {session : Session τ} {url : String}
    (hkept : session.client.kept? url = none) (hrefused : session.canAttempt.1 = false)
    (headers : Value) :
    fetch url headers session = (.error (.circuitOpen session.client.name), session) := by
  unfold fetch
  rw [hkept, request_of_refused hrefused]

theorem fetches_fetch (session : Session τ) (url : String) (headers : Value) :
    session.Fetches url (fetch url headers session) := by
  rcases hkept : session.client.kept? url with _ | document
  · rcases hgranted : session.canAttempt.1 with _ | _
    · rw [fetch_of_refused hkept hgranted]
      exact .refused hkept hgranted
    · unfold fetch
      rw [hkept]
      dsimp only
      have htells := tells_request hgranted url headers
      have hbreaker := congrArg Client.breaker htells.client_eq
      rcases hrequest : request url headers session with ⟨error | response, after⟩
      · rw [hrequest, Breaker.told] at hbreaker
        have hcause := htells.isRecorded_or_isSilent error (by rw [hrequest])
        dsimp only at hbreaker ⊢
        rcases hcause with hrecorded | hsilent
        · rw [if_pos hrecorded] at hbreaker
          exact .failed ⟨hkept, hgranted⟩ hrecorded hbreaker
        · rw [FetchError.isRecorded_of_isSilent hsilent] at hbreaker
          exact .brokeOff ⟨hkept, hgranted⟩ hsilent hbreaker
      · rw [hrequest, Breaker.told] at hbreaker
        have hsuccess : after.client.breaker = session.client.breaker.recordSuccess :=
          hbreaker.trans (Breaker.recordSuccess_canAttempt _ _)
        dsimp only
        split
        · exact .succeeded ⟨hkept, hgranted⟩ hsuccess (by rintro _ ⟨⟩; exact ⟨rfl, rfl⟩)
        · refine .succeeded ⟨hkept, hgranted⟩ ?_ nofun
          rw [← hsuccess]
          exact breaker_keep _ _ _
  · rw [fetch_of_kept hkept]
    exact .kept hkept rfl

/-- An address that a session asks for is asked for over the network, if there is an attempt. -/
theorem requests_fetch {session : Session τ} {url : String} (hasks : session.Asks url)
    (hattempts : session.client.retry.attempts ≠ 0) (headers : Value) :
    session.host.requests ++ [session.requestFor url headers]
      <+: (fetch url headers session).2.host.requests := by
  obtain ⟨hkept, hgranted⟩ := hasks
  have hasked : session.canAttempt = (true, session.canAttempt.2) := Prod.ext hgranted rfl
  have hrequest : session.host.requests ++ [session.requestFor url headers]
      <+: (request url headers session).2.host.requests := by
    unfold request
    rw [hasked]
    exact requests_tryFrom url headers hattempts 0 session.canAttempt.2
  unfold fetch
  rw [hkept]
  dsimp only
  split
  · next hresult => rwa [hresult] at hrequest
  · next hresult =>
      rw [hresult] at hrequest
      split <;> exact hrequest

end

end Ssvc.Http
