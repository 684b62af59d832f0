import Ssvc.Http.Client

set_option autoImplicit false

/-! # How fetching ends

A client makes a bounded number of attempts, and each of them takes one reply from the queue. What
one attempt comes to is said here once, in seven cases, and no attempt is followed step by step
after that. It tells what a step of fetching leaves as it is, and what each error goes back to: the
settings, the platform, a reply, or what a reply has in it. For all attempts together it follows by
induction on how many are left. -/

namespace Ssvc.Http

open Time (Ticks)

variable {τ : Type}

/-! ## What stays as it is -/

/-- What a step of fetching leaves as it is: the platform, chance, the clock, the disk and the settings.
Replies are only taken. -/
structure Session.Frame (before after : Session τ) : Prop where
  platform_eq : after.host.platform = before.host.platform
  chance_eq : after.host.chance = before.host.chance
  retry_eq : after.client.retry = before.client.retry
  clock_eq : after.host.clock = before.host.clock
  disk_eq : after.host.disk = before.host.disk
  replies_subset : after.host.replies ⊆ before.host.replies

namespace Session.Frame

theorem refl (session : Session τ) : Frame session session :=
  ⟨rfl, rfl, rfl, rfl, rfl, List.Subset.refl _⟩

theorem trans {first second third : Session τ} (h : Frame first second)
    (h' : Frame second third) : Frame first third where
  platform_eq := h'.platform_eq.trans h.platform_eq
  chance_eq := h'.chance_eq.trans h.chance_eq
  retry_eq := h'.retry_eq.trans h.retry_eq
  clock_eq := h'.clock_eq.trans h.clock_eq
  disk_eq := h'.disk_eq.trans h.disk_eq
  replies_subset := List.Subset.trans h'.replies_subset h.replies_subset

/-- Whatever becomes of the breaker. -/
theorem withBreaker (session : Session τ) (breaker : Breaker τ) :
    Frame session (session.withBreaker breaker) :=
  ⟨rfl, rfl, rfl, rfl, rfl, List.Subset.refl _⟩

/-- Whether or not a document is kept. -/
theorem keep (session : Session τ) (url : String) (document : Value) :
    Frame session { session with client := session.client.keep url document } := by
  refine ⟨rfl, rfl, ?_, rfl, rfl, List.Subset.refl _⟩
  show (session.client.keep url document).retry = session.client.retry
  unfold Client.keep
  split <;> rfl

end Session.Frame

/-! ## One attempt -/

/-- There is a delay after every attempt whose number is not too large. -/
theorem isSome_delay {attempt : Nat} (h : attempt < 1024) (retry : Retry) (chance : Float)
    (asked : Option Float) : (retry.delay? attempt chance asked).isSome = true := by
  rw [Retry.delay?, Retry.doublings?, if_pos h]
  rfl

namespace Session

/-- The session after a wait was asked for, whether or not it went through. -/
def waited (session : Session τ) (seconds : Float) : Session τ :=
  { session with host := { session.host with waits := session.host.waits ++ [seconds] } }

/-- The three ways in which waiting can go. -/
theorem wait_eq (session : Session τ) (attempt : Nat) (asked : Option Float) :
    session.wait attempt asked =
      match session.client.retry.delay? attempt session.host.chance asked with
      | none => (.error .delayTooLarge, session)
      | some seconds =>
        match session.host.platform.sleepFault? seconds with
        | some fault => (.error (.badWait fault), session.waited seconds)
        | none => (.ok (), session.waited seconds) := by
  unfold wait Host.wait
  rcases session.client.retry.delay? attempt session.host.chance asked with _ | seconds
  · rfl
  · dsimp only
    cases session.host.platform.sleepFault? seconds <;> rfl

/-- Holds of the sessions between which there are only notes and waits. -/
structure Rests (before after : Session τ) : Prop where
  client_eq : after.client = before.client
  platform_eq : after.host.platform = before.host.platform
  chance_eq : after.host.chance = before.host.chance
  clock_eq : after.host.clock = before.host.clock
  ticks_eq : after.host.ticks = before.host.ticks
  disk_eq : after.host.disk = before.host.disk
  requests_eq : after.host.requests = before.host.requests
  replies_eq : after.host.replies = before.host.replies
  waits_grow : before.host.waits <+: after.host.waits

namespace Rests

variable {first second third : Session τ}

theorem trans (h : Rests first second) (h' : Rests second third) : Rests first third where
  client_eq := h'.client_eq.trans h.client_eq
  platform_eq := h'.platform_eq.trans h.platform_eq
  chance_eq := h'.chance_eq.trans h.chance_eq
  clock_eq := h'.clock_eq.trans h.clock_eq
  ticks_eq := h'.ticks_eq.trans h.ticks_eq
  disk_eq := h'.disk_eq.trans h.disk_eq
  requests_eq := h'.requests_eq.trans h.requests_eq
  replies_eq := h'.replies_eq.trans h.replies_eq
  waits_grow := h.waits_grow.trans h'.waits_grow

theorem note (session : Session τ) (level : Log.Level) (text : String) :
    Rests session (session.note level text) :=
  ⟨rfl, rfl, rfl, rfl, rfl, rfl, rfl, rfl, List.prefix_refl _⟩

theorem waited (session : Session τ) (seconds : Float) : Rests session (session.waited seconds) :=
  ⟨rfl, rfl, rfl, rfl, rfl, rfl, rfl, rfl, List.prefix_append _ _⟩

theorem askedBy {response : Response} {result : Except FetchError (Option Float)}
    (h : Http.askedBy response first = (result, second)) : Rests first second := by
  unfold Http.askedBy at h
  split at h <;> obtain ⟨-, rfl⟩ := Prod.mk.inj h <;>
    exact ⟨rfl, rfl, rfl, rfl, rfl, rfl, rfl, rfl, List.prefix_refl _⟩

theorem frame (h : Rests first second) : Frame first second where
  platform_eq := h.platform_eq
  chance_eq := h.chance_eq
  retry_eq := congrArg Client.retry h.client_eq
  clock_eq := h.clock_eq
  disk_eq := h.disk_eq
  replies_subset := h.replies_eq ▸ List.Subset.refl _

end Rests

/-- What an attempt comes to when `left` more of them may follow: a failure that is not about the
request, a failure for good, a response that is not tried again, a wait that cannot be read, cannot be
counted or is refused, or another attempt after a wait. -/
inductive Attempted (session : Session τ) (url : String) (headers : Value) (left attempt : Nat) :
    Outcome τ Response → Prop
  | brokeOff {error : SendError} {sent : Session τ}
      (hsend : session.send url headers = (.failure error, sent))
      (hother : error.isAboutRequest = false) :
      Attempted session url headers left attempt (.error (.send error), sent)
  | failed {error : SendError} {sent : Session τ}
      (hsend : session.send url headers = (.failure error, sent))
      (habout : error.isAboutRequest = true) (hleft : left = 0) :
      Attempted session url headers left attempt (.error (.send error), sent.recordFailure)
  | settled {response : Response} {sent : Session τ}
      (hsend : session.send url headers = (.response response, sent))
      (hfinal : isRetryable response.status = false ∨ left = 0) :
      Attempted session url headers left attempt (settle url response sent)
  | undated {response : Response} {problem : Time.MailDate.Problem} {sent waiting : Session τ}
      (hsend : session.send url headers = (.response response, sent)) (hrests : sent.Rests waiting)
      (hdate : readAsked waiting.host.clock (response.header? "Retry-After") = .error problem) :
      Attempted session url headers left attempt (.error (.badDate problem), waiting)
  | endless {reply : Reply} {sent waiting : Session τ}
      (hsend : session.send url headers = (reply, sent)) (hrests : sent.Rests waiting)
      (hleft : left ≠ 0) (hmany : 1024 ≤ attempt) :
      Attempted session url headers left attempt (.error .delayTooLarge, waiting)
  | refused {reply : Reply} {sent waiting : Session τ} {asked : Option Float} {seconds : Float}
      {fault : SleepFault}
      (hsend : session.send url headers = (reply, sent)) (hrests : sent.Rests waiting)
      (hdelay : waiting.client.retry.delay? attempt waiting.host.chance asked = some seconds)
      (hfault : waiting.host.platform.sleepFault? seconds = some fault) :
      Attempted session url headers left attempt (.error (.badWait fault), waiting.waited seconds)
  | again {reply : Reply} {sent waiting : Session τ} {asked : Option Float} {seconds : Float}
      (hsend : session.send url headers = (reply, sent)) (hrests : sent.Rests waiting)
      (hleft : left ≠ 0)
      (hdelay : waiting.client.retry.delay? attempt waiting.host.chance asked = some seconds)
      (hslept : waiting.host.platform.sleepFault? seconds = none) :
      Attempted session url headers left attempt
        (tryFrom url headers left (attempt + 1) (waiting.waited seconds))

end Session

theorem askedBy_error {response : Response} {session after : Session τ} {error : FetchError}
    (h : askedBy response session = (.error error, after)) :
    ∃ problem, error = .badDate problem ∧
      readAsked after.host.clock (response.header? "Retry-After") = .error problem := by
  unfold askedBy at h
  split at h
  · next problem hproblem =>
      cases h
      exact ⟨problem, rfl, hproblem⟩
  · cases h
  · cases h

theorem attempted_waitThen {session sent waiting : Session τ} {url : String} {headers : Value}
    {left attempt : Nat} {reply : Reply} (hsend : session.send url headers = (reply, sent))
    (hrests : sent.Rests waiting) (hleft : left ≠ 0) (asked : Option Float) :
    session.Attempted url headers left attempt
      (waitThen attempt asked waiting (tryFrom url headers left (attempt + 1))) := by
  rw [waitThen, Session.wait_eq]
  rcases hdelay : waiting.client.retry.delay? attempt waiting.host.chance asked with _ | seconds
  · refine .endless hsend hrests hleft (Nat.le_of_not_lt fun hfew => ?_)
    have hsome := isSome_delay hfew waiting.client.retry waiting.host.chance asked
    rw [hdelay] at hsome
    cases hsome
  · dsimp only
    rcases hfault : waiting.host.platform.sleepFault? seconds with _ | fault
    · exact .again hsend hrests hleft hdelay hfault
    · exact .refused hsend hrests hdelay hfault

/-- An attempt is followed from its request on. -/
theorem attempted_tryFrom (url : String) (headers : Value) (left attempt : Nat)
    (session : Session τ) :
    session.Attempted url headers left attempt
      (tryFrom url headers (left + 1) attempt session) := by
  rw [tryFrom]
  split
  · next error sent hsend =>
      split
      · next hother => exact .brokeOff hsend (by simpa using hother)
      · next habout =>
          split
          · next hleft => exact .failed hsend (by simpa using habout) hleft
          · next hleft => exact attempted_waitThen hsend (.note sent _ _) hleft none
  · next response sent hsend =>
      split
      · next hagain =>
          rw [Bool.and_eq_true, decide_eq_true_eq] at hagain
          split
          · next error after hasked =>
              obtain ⟨problem, rfl, hdate⟩ := askedBy_error hasked
              exact .undated hsend ((Session.Rests.note sent _ _).trans (.askedBy hasked)) hdate
          · next asked after hasked =>
              have hrests := (Session.Rests.note sent _ _).trans (.askedBy hasked)
              exact attempted_waitThen hsend hrests hagain.2 asked
      · next hfinal =>
          refine .settled hsend ?_
          rw [Bool.and_eq_true, decide_eq_true_eq] at hfinal
          by_cases hleft : left = 0
          · exact Or.inr hleft
          · exact Or.inl (Bool.eq_false_iff.2 fun hretryable => hfinal ⟨hretryable, hleft⟩)

theorem frame_send {session sent : Session τ} {url : String} {headers : Value} {reply : Reply}
    (h : session.send url headers = (reply, sent)) : session.Frame sent := by
  unfold Session.send Host.send at h
  rcases hreplies : session.host.replies with _ | ⟨first, rest⟩
  · rw [hreplies] at h
    obtain ⟨-, rfl⟩ := Prod.mk.inj h
    exact ⟨rfl, rfl, rfl, rfl, rfl, List.nil_subset _⟩
  · rw [hreplies] at h
    obtain ⟨-, rfl⟩ := Prod.mk.inj h
    refine ⟨rfl, rfl, rfl, rfl, rfl, ?_⟩
    rw [hreplies]
    exact List.subset_cons_self first rest

/-- What comes back waited in the queue, unless the queue is exhausted. -/
theorem mem_replies_of_send {session sent : Session τ} {url : String} {headers : Value}
    {reply : Reply} (h : session.send url headers = (reply, sent))
    (hconnected : ∀ message, reply ≠ .failure (.connection message)) :
    reply ∈ session.host.replies := by
  unfold Session.send Host.send at h
  rcases hreplies : session.host.replies with _ | ⟨first, rest⟩
  · rw [hreplies] at h
    obtain ⟨rfl, -⟩ := Prod.mk.inj h
    exact absurd rfl (hconnected _)
  · rw [hreplies] at h
    obtain ⟨rfl, -⟩ := Prod.mk.inj h
    exact List.mem_cons_self

theorem SendError.exists_outside {error : SendError} (h : error.isAboutRequest = false) :
    ∃ fault, error = .outside fault := by
  cases error with
  | outside fault => exact ⟨fault, rfl⟩
  | connection _ | timeout _ | request _ => cases h

/-! ## Attempts -/

/-- What an error goes back to when there are `left` attempts, the last of which has the number
before `last`: there is none to make, there are too many, a wait is refused, or a reply. -/
inductive AttemptCause (retry : Retry) (host : Host τ) (left last : Nat) : FetchError → Prop
  | exhausted (name url : String) (hnone : left = 0) :
      AttemptCause retry host left last (.exhausted name url)
  | delay (hmany : 1025 < last) : AttemptCause retry host left last .delayTooLarge
  | wait {attempt : Nat} {asked : Option Float} {seconds : Float} {fault : SleepFault}
      (hdelay : retry.delay? attempt host.chance asked = some seconds)
      (hfault : host.platform.sleepFault? seconds = some fault) :
      AttemptCause retry host left last (.badWait fault)
  | about {error : SendError} (habout : error.isAboutRequest = true) :
      AttemptCause retry host left last (.send error)
  | outside {fault : OutsideFault} (hreply : Reply.failure (.outside fault) ∈ host.replies) :
      AttemptCause retry host left last (.send (.outside fault))
  | status (response : Response) (url : String) :
      AttemptCause retry host left last (.status response url)
  | date {response : Response} {problem : Time.MailDate.Problem}
      (hreply : Reply.response response ∈ host.replies)
      (hdate : readAsked host.clock (response.header? "Retry-After") = .error problem) :
      AttemptCause retry host left last (.badDate problem)

/-- What has a cause later on has it from the start, if it is not for want of attempts. -/
theorem AttemptCause.of_frame {before after : Session τ} {left last : Nat} {error : FetchError}
    (hframe : before.Frame after) (hleft : left ≠ 0)
    (h : AttemptCause after.client.retry after.host left last error) :
    AttemptCause before.client.retry before.host (left + 1) last error := by
  cases h with
  | exhausted _ _ hnone => exact absurd hnone hleft
  | delay hmany => exact .delay hmany
  | wait hdelay hfault =>
      rw [hframe.retry_eq, hframe.chance_eq] at hdelay
      rw [hframe.platform_eq] at hfault
      exact .wait hdelay hfault
  | about habout => exact .about habout
  | outside hreply => exact .outside (hframe.replies_subset hreply)
  | status response url => exact .status response url
  | date hreply hdate =>
      rw [hframe.clock_eq] at hdate
      exact .date (hframe.replies_subset hreply) hdate

/-- Holds of the outcomes that leave as it is what fetching leaves, and give a response from the
queue or an error that has a cause. -/
def IsDue (session : Session τ) (left last : Nat) (outcome : Outcome τ Response) : Prop :=
  session.Frame outcome.2 ∧
    match outcome.1 with
    | .ok response => Reply.response response ∈ session.host.replies
    | .error error => AttemptCause session.client.retry session.host left last error

namespace IsDue

variable {session : Session τ} {left last : Nat}

theorem of_error {after : Session τ} {error : FetchError} (hframe : session.Frame after)
    (h : AttemptCause session.client.retry session.host left last error) :
    IsDue session left last (.error error, after) :=
  ⟨hframe, h⟩

theorem of_frame {after : Session τ} {outcome : Outcome τ Response} (hframe : session.Frame after)
    (hleft : left ≠ 0) (h : IsDue after left last outcome) :
    IsDue session (left + 1) last outcome := by
  obtain ⟨result, final⟩ := outcome
  obtain ⟨hafter, hresult⟩ := h
  refine ⟨hframe.trans hafter, ?_⟩
  cases result with
  | error error => exact AttemptCause.of_frame hframe hleft hresult
  | ok response => exact hframe.replies_subset hresult

theorem settle {sent : Session τ} (hframe : session.Frame sent) (url : String)
    {response : Response} (hreply : Reply.response response ∈ session.host.replies) :
    IsDue session left last (settle url response sent) := by
  unfold Http.settle
  split
  · exact ⟨hframe.trans (.withBreaker sent _), hreply⟩
  · split
    · exact .of_error (hframe.trans (.withBreaker sent _)) (.status response url)
    · exact ⟨hframe.trans (.withBreaker sent _), hreply⟩

end IsDue

theorem Session.Attempted.isDue {session : Session τ} {url : String} {headers : Value}
    {left attempt : Nat} {outcome : Outcome τ Response}
    (h : session.Attempted url headers left attempt outcome)
    (hnext : ∀ waited : Session τ, IsDue waited left (attempt + (left + 1))
      (tryFrom url headers left (attempt + 1) waited)) :
    IsDue session (left + 1) (attempt + (left + 1)) outcome := by
  cases h with
  | brokeOff hsend hother =>
      obtain ⟨fault, rfl⟩ := SendError.exists_outside hother
      exact .of_error (frame_send hsend) (.outside (mem_replies_of_send hsend nofun))
  | @failed error sent hsend habout _ =>
      exact .of_error ((frame_send hsend).trans (.withBreaker sent _)) (.about habout)
  | settled hsend _ => exact .settle (frame_send hsend) url (mem_replies_of_send hsend nofun)
  | undated hsend hrests hdate =>
      have hframe := (frame_send hsend).trans hrests.frame
      rw [hframe.clock_eq] at hdate
      exact .of_error hframe (.date (mem_replies_of_send hsend nofun) hdate)
  | endless hsend hrests hleft hmany =>
      exact .of_error ((frame_send hsend).trans hrests.frame) (.delay (by omega))
  | refused hsend hrests hdelay hfault =>
      have hframe := (frame_send hsend).trans hrests.frame
      rw [hframe.retry_eq, hframe.chance_eq] at hdelay
      rw [hframe.platform_eq] at hfault
      exact .of_error (hframe.trans (Rests.waited _ _).frame) (.wait hdelay hfault)
  | @again _ _ waiting _ seconds hsend hrests hleft _ _ =>
      have hframe := (frame_send hsend).trans (hrests.trans (.waited waiting seconds)).frame
      exact (hnext _).of_frame hframe hleft

/-- By induction on the attempts that are left, whatever the session is by then. -/
theorem isDue_tryFrom (url : String) (headers : Value) (left attempt : Nat) (session : Session τ) :
    IsDue session left (attempt + left) (tryFrom url headers left attempt session) := by
  induction left generalizing attempt session with
  | zero => exact .of_error (.refl session) (.exhausted _ _ rfl)
  | succ left ih =>
      refine (attempted_tryFrom url headers left attempt session).isDue fun waited => ?_
      have hrest := ih (attempt + 1) waited
      rwa [Nat.add_right_comm] at hrest

/-! ## Documents -/

/-- What an error while fetching goes back to: the breaker, the attempts, or a response that is no
document. -/
inductive FetchCause (client : Client τ) (host : Host τ) : FetchError → Prop
  | circuitOpen (name : String) : FetchCause client host (.circuitOpen name)
  | attempts {error : FetchError}
      (h : AttemptCause client.retry host client.retry.attempts client.retry.attempts error) :
      FetchCause client host error
  | body {response : Response} {fault : Json.Fault}
      (hreply : Reply.response response ∈ host.replies)
      (hread : Json.read response.body = .error fault) :
      FetchCause client host (.badBody fault response.body)

/-- Asking the breaker changes nothing but the breaker. -/
theorem frame_canAttempt [Ticks τ] {session asked : Session τ} {granted : Bool}
    (h : session.canAttempt = (granted, asked)) :
    session.Frame asked ∧ asked.host = session.host := by
  obtain ⟨-, rfl⟩ := Prod.mk.inj h
  exact ⟨.withBreaker session _, rfl⟩

theorem request_spec [Ticks τ] (url : String) (headers : Value) (session : Session τ) :
    session.Frame (request url headers session).2 ∧
      match (request url headers session).1 with
      | .ok response => Reply.response response ∈ session.host.replies
      | .error error => FetchCause session.client session.host error := by
  unfold request
  split
  · next asked hasked => exact ⟨(frame_canAttempt hasked).1, .circuitOpen _⟩
  · next asked hasked =>
      obtain ⟨hframe, hhost⟩ := frame_canAttempt hasked
      obtain ⟨hattempts, hresult⟩ := isDue_tryFrom url headers asked.client.retry.attempts 0 asked
      rw [Nat.zero_add, hframe.retry_eq, hhost] at hresult
      refine ⟨hframe.trans hattempts, ?_⟩
      rw [hframe.retry_eq]
      split at hresult
      · exact hresult
      · exact .attempts hresult

theorem fetch_spec [Ticks τ] (url : String) (headers : Value) (session : Session τ) :
    session.Frame (fetch url headers session).2 ∧
      ∀ error, (fetch url headers session).1 = .error error →
        FetchCause session.client session.host error := by
  unfold fetch
  split
  · exact ⟨(Session.Rests.note session _ _).frame, nofun⟩
  · obtain ⟨hframe, hresult⟩ := request_spec url headers session
    split
    · next error after hrequest =>
        rw [hrequest] at hframe hresult
        exact ⟨hframe, fun _ h => Except.error.inj h ▸ hresult⟩
    · next response after hrequest =>
        rw [hrequest] at hframe hresult
        split
        · next fault hread =>
            exact ⟨hframe, fun _ h => Except.error.inj h ▸ .body hresult hread⟩
        · exact ⟨hframe.trans (.keep after _ _), nofun⟩

end Ssvc.Http
