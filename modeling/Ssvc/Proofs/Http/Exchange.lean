import Ssvc.Proofs.Http.Probe

set_option autoImplicit false

/-! # What goes over the line

A host keeps the requests that were made, but not what came back for them. As every request takes the
next reply, each new one can be put beside its reply again. It keeps the waits that were asked for as
well, so it can be told whether all of them went through. What a fetch does on the line is said here
once: it asks for one address, as often as there are attempts at most, and a response that it gives
is a reply to such a request. -/

namespace Ssvc

/-! ## Requests and their replies -/

namespace Host

variable {τ : Type}

/-- What comes back for the next request but `i`. -/
def answer (host : Host τ) (i : Nat) : Http.Reply :=
  host.replies[i]?.getD (.failure (.connection "no response queued"))

/-- The requests that were made from one state of the host to another, each with its reply. -/
def exchanges (before after : Host τ) : List (Http.Request × Http.Reply) :=
  (after.requests.drop before.requests.length).mapIdx fun i request => (request, before.answer i)

/-- The waits that were asked for from one state of the host to another. -/
def waitsTo (before after : Host τ) : List Float :=
  after.waits.drop before.waits.length

/-- Holds if all waits that were asked for from one state of the host to another went through. -/
def Sleeps (before after : Host τ) : Prop :=
  ∀ seconds ∈ before.waitsTo after, before.platform.sleepFault? seconds = none

/-- Holds of a host and what it becomes on the same platform when requests are made, each of which
takes a reply, and waits are asked for. -/
structure Follows (before after : Host τ) : Prop where
  line : ∃ made, after.requests = before.requests ++ made ∧
    after.replies = before.replies.drop made.length
  waits_grow : before.waits <+: after.waits
  platform_eq : after.platform = before.platform

variable {first second third : Host τ}

theorem answer_drop {made : List Http.Request}
    (h : second.replies = first.replies.drop made.length) (i : Nat) :
    second.answer i = first.answer (i + made.length) := by
  rw [answer, answer, h, List.getElem?_drop, Nat.add_comm]

theorem exchanges_of_requests {made : List Http.Request}
    (h : second.requests = first.requests ++ made) :
    first.exchanges second = made.mapIdx fun i request => (request, first.answer i) := by
  rw [exchanges, h, List.drop_left]

/-- Holds of the hosts between which nothing goes over the line. -/
structure Idle (before after : Host τ) : Prop where
  requests_eq : after.requests = before.requests
  replies_eq : after.replies = before.replies
  waits_grow : before.waits <+: after.waits
  platform_eq : after.platform = before.platform

theorem Idle.follows (h : first.Idle second) : first.Follows second where
  line := ⟨[], by rw [h.requests_eq, List.append_nil], h.replies_eq⟩
  waits_grow := h.waits_grow
  platform_eq := h.platform_eq

theorem Idle.exchanges_eq (h : first.Idle second) : first.exchanges second = [] := by
  rw [exchanges, h.requests_eq, List.drop_length, List.mapIdx_nil]

theorem Idle.refl (host : Host τ) : host.Idle host :=
  ⟨rfl, rfl, List.prefix_refl _, rfl⟩

theorem Follows.refl (host : Host τ) : host.Follows host :=
  (Idle.refl host).follows

theorem exchanges_self (host : Host τ) : host.exchanges host = [] :=
  (Idle.refl host).exchanges_eq

theorem Follows.trans (h : first.Follows second) (h' : second.Follows third) :
    first.Follows third := by
  obtain ⟨made, hrequests, hreplies⟩ := h.line
  obtain ⟨later, hrequests', hreplies'⟩ := h'.line
  refine ⟨⟨made ++ later, ?_, ?_⟩, h.waits_grow.trans h'.waits_grow,
    h'.platform_eq.trans h.platform_eq⟩
  · rw [hrequests', hrequests, List.append_assoc]
  · rw [hreplies', hreplies, List.drop_drop, List.length_append]

/-- What goes over the line in two stages goes over it in all. -/
theorem exchanges_trans (h : first.Follows second) (h' : second.Follows third) :
    first.exchanges third = first.exchanges second ++ second.exchanges third := by
  obtain ⟨made, hrequests, hreplies⟩ := h.line
  obtain ⟨later, hrequests', -⟩ := h'.line
  have hall : third.requests = first.requests ++ (made ++ later) := by
    rw [hrequests', hrequests, List.append_assoc]
  rw [exchanges_of_requests hall, exchanges_of_requests hrequests,
    exchanges_of_requests hrequests', List.mapIdx_append]
  -- the second stage takes the replies that the first one has left
  simp only [answer_drop hreplies]

/-- The waits of two stages are the waits in all. -/
theorem sleeps_trans_iff (h : first.Follows second) (h' : second.Follows third) :
    first.Sleeps third ↔ first.Sleeps second ∧ second.Sleeps third := by
  obtain ⟨asked, hasked⟩ := h.waits_grow
  obtain ⟨later, hlater⟩ := h'.waits_grow
  have hall : first.waitsTo third = first.waitsTo second ++ second.waitsTo third := by
    rw [waitsTo, waitsTo, waitsTo, ← hlater, ← hasked, List.drop_left, List.append_assoc,
      List.drop_left, ← List.append_assoc, List.drop_left]
  simp only [Sleeps, hall, List.forall_mem_append, h.platform_eq]

/-- Sending makes one request, and the reply that it gives is the one that goes with it. -/
theorem follows_send (host : Host τ) (request : Http.Request) :
    host.Follows (host.send request).2 ∧
      host.exchanges (host.send request).2 = [(request, (host.send request).1)] := by
  have hrequests : (host.send request).2.requests = host.requests ++ [request] := by
    unfold send
    rcases host.replies <;> rfl
  rw [exchanges_of_requests hrequests]
  unfold send
  rcases hreplies : host.replies with _ | ⟨first, rest⟩
  · exact ⟨⟨⟨[request], rfl, by rw [hreplies]; rfl⟩, List.prefix_refl _, rfl⟩,
      by simp [answer, hreplies]⟩
  · exact ⟨⟨⟨[request], rfl, by rw [hreplies]; rfl⟩, List.prefix_refl _, rfl⟩,
      by simp [answer, hreplies]⟩

theorem length_requests_of_follows (h : first.Follows second) :
    second.requests.length = first.requests.length + (first.exchanges second).length := by
  obtain ⟨made, hrequests, -⟩ := h.line
  rw [exchanges_of_requests hrequests, hrequests, List.length_append, List.length_mapIdx]

end Host

namespace Http

open Time (Ticks)

variable {τ : Type}

/-! ## Attempts -/

/-- Holds of the replies that tell of trouble without saying how long to wait: the request failed, or
the response has the status of an error. -/
def Reply.isTrouble : Reply → Bool
  | .failure error => error.isAboutRequest
  | .response answer =>
    400 ≤ answer.status && answer.status < 600 && (answer.header? "Retry-After").isNone

theorem Reply.isTrouble_response_iff (answer : Response) :
    (Reply.response answer).isTrouble = true ↔
      400 ≤ answer.status ∧ answer.status < 600 ∧ answer.header? "Retry-After" = none := by
  simp [isTrouble, and_assoc]

namespace Session

/-- Holds of a session and what it becomes when a request is made and gets some reply. -/
structure Sent (session : Session τ) (url : String) (headers : Value) (reply : Reply)
    (after : Session τ) : Prop where
  follows : session.host.Follows after.host
  exchanges_eq : session.host.exchanges after.host = [(session.requestFor url headers, reply)]

/-- What attempts do on the line when `left` of them are left, the last of which has the number before
`last`. -/
structure Attempts (session : Session τ) (url : String) (headers : Value) (left last : Nat)
    (outcome : Outcome τ Response) : Prop where
  follows : session.host.Follows outcome.2.host
  request_eq : ∀ exchange ∈ session.host.exchanges outcome.2.host,
    exchange.1 = session.requestFor url headers
  length_le : (session.host.exchanges outcome.2.host).length ≤ left
  /-- a response is what came back for one of the requests -/
  mem_of_ok : ∀ response, outcome.1 = .ok response →
    ∃ exchange ∈ session.host.exchanges outcome.2.host, exchange.2 = .response response
  /-- from nothing but trouble comes an error -/
  exists_error :
    (∀ exchange ∈ session.host.exchanges outcome.2.host, exchange.2.isTrouble = true) →
    ∃ error, outcome.1 = .error error
  /-- the breaker is told of it, unless a wait did not go through -/
  isRecorded : left ≠ 0 → last ≤ 1025 → session.host.Sleeps outcome.2.host →
    (∀ exchange ∈ session.host.exchanges outcome.2.host, exchange.2.isTrouble = true) →
    ∀ error, outcome.1 = .error error → error.isRecorded = true

variable {session sent : Session τ} {url : String} {headers : Value} {reply : Reply}

theorem sent_of_send (h : session.send url headers = (reply, sent)) :
    session.Sent url headers reply sent := by
  obtain ⟨rfl, rfl⟩ := Prod.mk.inj h
  obtain ⟨hfollows, hexchanges⟩ :=
    Host.follows_send session.host (session.requestFor url headers)
  exact ⟨hfollows, hexchanges⟩

theorem Sent.of_idle {after : Session τ} (h : session.Sent url headers reply sent)
    (hidle : sent.host.Idle after.host) : session.Sent url headers reply after where
  follows := h.follows.trans hidle.follows
  exchanges_eq := by
    rw [Host.exchanges_trans h.follows hidle.follows, h.exchanges_eq, hidle.exchanges_eq,
      List.append_nil]

theorem Sent.of_rests {after : Session τ} (h : session.Sent url headers reply sent)
    (hrests : sent.Rests after) : session.Sent url headers reply after :=
  h.of_idle ⟨hrests.requests_eq, hrests.replies_eq, hrests.waits_grow, hrests.platform_eq⟩

/-- A wait that was refused did not go through. -/
theorem Sent.not_sleeps {waiting : Session τ} {seconds : Float} {fault : SleepFault}
    (h : session.Sent url headers reply waiting)
    (hfault : waiting.host.platform.sleepFault? seconds = some fault) :
    ¬ session.host.Sleeps (waiting.waited seconds).host := by
  intro hsleeps
  -- the wait that was refused is the last one that was asked for
  obtain ⟨asked, hasked⟩ := h.follows.waits_grow
  have hmem : seconds ∈ session.host.waitsTo (waiting.waited seconds).host := by
    rw [Host.waitsTo, waited, ← hasked, List.append_assoc, List.drop_left]
    exact List.mem_append_right asked (List.mem_singleton_self seconds)
  rw [h.follows.platform_eq, hsleeps seconds hmem] at hfault
  cases hfault

namespace Attempts

variable {left last : Nat}

/-- Attempts that end with the reply to a request. -/
theorem ended {result : Except FetchError Response} {after : Session τ}
    (hsent : session.Sent url headers reply after)
    (hok : ∀ response, result = .ok response → reply = .response response)
    (herror : reply.isTrouble = true → ∃ error, result = .error error)
    (hrecorded : last ≤ 1025 → session.host.Sleeps after.host → reply.isTrouble = true →
      ∀ error, result = .error error → error.isRecorded = true) :
    session.Attempts url headers (left + 1) last (result, after) where
  follows := hsent.follows
  request_eq := by
    rw [hsent.exchanges_eq]
    simp
  length_le := by
    rw [hsent.exchanges_eq]
    simp
  mem_of_ok response hresult := by
    rw [hsent.exchanges_eq]
    exact ⟨_, List.mem_singleton_self _, hok response hresult⟩
  exists_error hall := by
    rw [hsent.exchanges_eq] at hall
    exact herror (hall _ (List.mem_singleton_self _))
  isRecorded _ hlast hsleeps hall := by
    rw [hsent.exchanges_eq] at hall
    exact hrecorded hlast hsleeps (hall _ (List.mem_singleton_self _))

theorem failed {error : FetchError} {after : Session τ}
    (hsent : session.Sent url headers reply after)
    (hrecorded : last ≤ 1025 → session.host.Sleeps after.host → reply.isTrouble = true →
      error.isRecorded = true) :
    session.Attempts url headers (left + 1) last (.error error, after) := by
  refine ended hsent nofun (fun _ => ⟨error, rfl⟩) fun hlast hsleeps htrouble => ?_
  rintro _ ⟨⟩
  exact hrecorded hlast hsleeps htrouble

theorem answered {response : Response} {after : Session τ}
    (hsent : session.Sent url headers (.response response) after)
    (hfine : (Reply.response response).isTrouble ≠ true) :
    session.Attempts url headers (left + 1) last (.ok response, after) := by
  refine ended hsent ?_ (fun htrouble => absurd htrouble hfine) fun _ _ _ => nofun
  rintro _ ⟨⟩
  rfl

/-- Attempts that go on after a request. -/
theorem again {waited : Session τ} {outcome : Outcome τ Response}
    (hsent : session.Sent url headers reply waited) (hclient : waited.client = session.client)
    (hleft : left ≠ 0) (h : waited.Attempts url headers left last outcome) :
    session.Attempts url headers (left + 1) last outcome := by
  have hexchanges : session.host.exchanges outcome.2.host
      = (session.requestFor url headers, reply) :: waited.host.exchanges outcome.2.host := by
    rw [Host.exchanges_trans hsent.follows h.follows, hsent.exchanges_eq, List.singleton_append]
  have hrequest : waited.requestFor url headers = session.requestFor url headers := by
    rw [requestFor, requestFor, hclient]
  constructor
  case follows => exact hsent.follows.trans h.follows
  case request_eq =>
    rw [hexchanges, List.forall_mem_cons]
    exact ⟨rfl, hrequest ▸ h.request_eq⟩
  case length_le =>
    rw [hexchanges]
    exact Nat.succ_le_succ h.length_le
  case mem_of_ok =>
    intro response hresult
    obtain ⟨exchange, hmem, hreply⟩ := h.mem_of_ok response hresult
    exact ⟨exchange, hexchanges ▸ List.mem_cons_of_mem _ hmem, hreply⟩
  case exists_error =>
    intro hall
    rw [hexchanges, List.forall_mem_cons] at hall
    exact h.exists_error hall.2
  case isRecorded =>
    intro _ hlast hsleeps hall
    rw [hexchanges, List.forall_mem_cons] at hall
    rw [Host.sleeps_trans_iff hsent.follows h.follows] at hsleeps
    exact h.isRecorded hleft hlast hsleeps.2 hall.2

theorem settle {response : Response} (hsent : session.Sent url headers (.response response) sent) :
    session.Attempts url headers (left + 1) last (settle url response sent) := by
  unfold Http.settle
  split
  · refine answered (hsent.of_idle (.refl _)) ?_
    rw [Ne, Reply.isTrouble_response_iff]
    omega
  · split
    · exact failed (hsent.of_idle (.refl _)) fun _ _ _ => rfl
    · refine answered (hsent.of_idle (.refl _)) ?_
      rw [Ne, Reply.isTrouble_response_iff]
      omega

end Attempts

theorem Attempted.attempts {left attempt : Nat} {outcome : Outcome τ Response}
    (h : session.Attempted url headers left attempt outcome)
    (hnext : ∀ waited : Session τ, waited.Attempts url headers left (attempt + (left + 1))
      (tryFrom url headers left (attempt + 1) waited)) :
    session.Attempts url headers (left + 1) (attempt + (left + 1)) outcome := by
  cases h with
  | brokeOff hsend hother =>
      refine .failed (sent_of_send hsend) fun _ _ htrouble => ?_
      exact absurd (hother.symm.trans htrouble) Bool.false_ne_true
  | failed hsend _ _ =>
      exact .failed ((sent_of_send hsend).of_idle (.refl _)) fun _ _ htrouble => htrouble
  | settled hsend _ => exact .settle (sent_of_send hsend)
  | undated hsend hrests hdate =>
      refine .failed ((sent_of_send hsend).of_rests hrests) fun _ _ htrouble => ?_
      -- trouble does not say how long to wait, so that is not what could not be read
      rw [((Reply.isTrouble_response_iff _).1 htrouble).2.2] at hdate
      cases hdate
  | endless hsend hrests hleft hmany =>
      exact .failed ((sent_of_send hsend).of_rests hrests) fun hlast _ _ => by omega
  | @refused _ _ waiting _ seconds _ hsend hrests _ hfault =>
      have hsent := (sent_of_send hsend).of_rests hrests
      refine .failed (hsent.of_rests (.waited waiting seconds)) fun _ hsleeps _ => ?_
      exact absurd hsleeps (hsent.not_sleeps hfault)
  | @again _ sent waiting _ seconds hsend hrests hleft _ _ =>
      obtain ⟨hclient, -⟩ := send_spec session url headers
      rw [hsend] at hclient
      have hwaited := hrests.trans (.waited waiting seconds)
      exact .again ((sent_of_send hsend).of_rests hwaited) (hwaited.client_eq.trans hclient) hleft
        (hnext _)

/-- By induction on the attempts that are left, one request after the other. -/
theorem attempts_tryFrom (url : String) (headers : Value) (left attempt : Nat)
    (session : Session τ) :
    session.Attempts url headers left (attempt + left)
      (tryFrom url headers left attempt session) := by
  induction left generalizing attempt session with
  | zero =>
      have hnone := Host.exchanges_self session.host
      exact ⟨.refl _, by simp [tryFrom, hnone], by simp [tryFrom, hnone], by simp [tryFrom],
        fun _ => ⟨_, rfl⟩, by simp⟩
  | succ left ih =>
      refine (attempted_tryFrom url headers left attempt session).attempts fun waited => ?_
      have hrest := ih (attempt + 1) waited
      rwa [Nat.add_right_comm] at hrest

/-! ## Fetches -/

section

variable [Ticks τ]

theorem attempts_request {session : Session τ} (hgranted : session.canAttempt.1 = true)
    (url : String) (headers : Value) :
    session.Attempts url headers session.client.retry.attempts session.client.retry.attempts
      (request url headers session) := by
  have hasked : session.canAttempt = (true, session.canAttempt.2) := Prod.ext hgranted rfl
  have hattempts := attempts_tryFrom url headers session.client.retry.attempts 0
    session.canAttempt.2
  rw [Nat.zero_add] at hattempts
  unfold request
  rw [hasked]
  -- asking the breaker leaves the host and the settings as they are
  exact ⟨hattempts.follows, hattempts.request_eq, hattempts.length_le, hattempts.mem_of_ok,
    hattempts.exists_error, hattempts.isRecorded⟩

theorem follows_request (session : Session τ) (url : String) (headers : Value) :
    session.host.Follows (request url headers session).2.host := by
  rcases hgranted : session.canAttempt.1 with _ | _
  · rw [request_of_refused hgranted]
    exact .refl _
  · exact (attempts_request hgranted url headers).follows

/-- An address whose document is not kept is asked for, and that is all that goes over the line. -/
theorem host_fetch {session : Session τ} {url : String}
    (hkept : session.client.kept? url = none) (headers : Value) :
    (Http.fetch url headers session).2.host = (request url headers session).2.host := by
  unfold Http.fetch
  rw [hkept]
  dsimp only
  split
  · next hrequest => rw [hrequest]
  · next hrequest =>
      rw [hrequest]
      split <;> rfl

theorem follows_fetch (session : Session τ) (url : String) (headers : Value) :
    session.host.Follows (Http.fetch url headers session).2.host := by
  rcases hkept : session.client.kept? url with _ | document
  · rw [host_fetch hkept]
    exact follows_request session url headers
  · rw [fetch_of_kept hkept]
    exact Host.Idle.follows ⟨rfl, rfl, List.prefix_refl _, rfl⟩

theorem follows_step (session : Session τ) (event : Event τ) :
    session.host.Follows (session.step event).host := by
  cases event with
  | wait seconds micros => exact Host.Idle.follows ⟨rfl, rfl, List.prefix_refl _, rfl⟩
  | fetch url headers => exact follows_fetch session url headers

theorem follows_after (session : Session τ) (events : List (Event τ)) :
    session.host.Follows (session.after events).host := by
  induction events using List.reverseRecOn with
  | nil => exact .refl _
  | append_singleton events event ih =>
      rw [after_concat]
      exact ih.trans (follows_step _ event)

/-- The waits of a run are those before its last event and those in it. -/
theorem sleeps_after_concat_iff (session : Session τ) (events : List (Event τ))
    (event : Event τ) :
    session.host.Sleeps (session.after (events ++ [event])).host ↔
      session.host.Sleeps (session.after events).host ∧
        (session.after events).host.Sleeps ((session.after events).step event).host := by
  rw [after_concat]
  exact Host.sleeps_trans_iff (follows_after session events) (follows_step _ event)

/-- What goes over the line in a run is what goes over it before an event, in it and after it. -/
theorem exchanges_after_append (session : Session τ) (before : List (Event τ)) (event : Event τ)
    (rest : List (Event τ)) :
    session.host.exchanges (session.after (before ++ event :: rest)).host
      = session.host.exchanges (session.after before).host
        ++ ((session.after before).host.exchanges ((session.after before).step event).host
          ++ ((session.after before).step event).host.exchanges
            (((session.after before).step event).after rest).host) := by
  have hstep := follows_step (session.after before) event
  have hrest := follows_after ((session.after before).step event) rest
  have hafter : session.after (before ++ event :: rest)
      = ((session.after before).step event).after rest := List.foldl_append
  rw [hafter, Host.exchanges_trans (follows_after session before) (hstep.trans hrest),
    Host.exchanges_trans hstep hrest]

end

end Session

end Http

end Ssvc
