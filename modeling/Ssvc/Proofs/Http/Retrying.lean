import Mathlib.Data.List.TakeWhile
import Ssvc.Proofs.Http.Exchange

set_option autoImplicit false

/-! # Trying again

A request is tried again after some replies, as long as there are attempts left, and the first reply
that is not one of them settles it. So how often it is tried can be read off the replies that wait: one
more time than there are such replies in a row, unless the attempts run out before, or the platform
refuses a wait in between. What one attempt does when it is not the last is said once; the rest goes by
induction on how many replies are passed over. Only the reply that settles the request decides what a
fetch gives and what the breaker is told. -/

namespace Ssvc

/-! ## Replies -/

/-- The document in the body of a response. -/
def Http.Response.document (response : Http.Response) : Except Http.FetchError Value :=
  (Json.read response.body).mapError fun fault => .badBody fault response.body

namespace Http.Reply

/-- What a fetch gives when a reply settles it. -/
def settled (url : String) : Reply → Except FetchError Value
  | .failure error => .error (.send error)
  | .response answer => if answer.status < 400 then answer.document else .error (.status answer url)

end Http.Reply

namespace Host

variable {τ : Type}

end Host

namespace Http

open Time (Ticks)

variable {τ : Type}

/-! ## One attempt after the other -/

/-- How attempts end with a reply after which the request is not tried again. -/
def endWith (url : String) (reply : Reply) (session : Session τ) : Outcome τ Response :=
  match reply with
  | .failure error =>
    (.error (.send error), if error.isAboutRequest then session.recordFailure else session)
  | .response response => settle url response session

namespace Session

/-- What some requests for an address leave behind, with some waits among them. -/
structure Spends (session : Session τ) (url : String) (headers : Value) (requests : Nat)
    (waits : List Float) (after : Session τ) : Prop where
  client_eq : after.client = session.client
  ticks_eq : after.host.ticks = session.host.ticks
  platform_eq : after.host.platform = session.host.platform
  requests_eq : after.host.requests
    = session.host.requests ++ List.replicate requests (session.requestFor url headers)
  replies_eq : after.host.replies = session.host.replies.drop requests
  waits_eq : after.host.waits = session.host.waits ++ waits

variable {session later last : Session τ} {url : String} {headers : Value}

theorem Spends.trans {requests requests' : Nat} {waits waits' : List Float}
    (h : session.Spends url headers requests waits later)
    (h' : later.Spends url headers requests' waits' last) :
    session.Spends url headers (requests + requests') (waits ++ waits') last where
  client_eq := h'.client_eq.trans h.client_eq
  ticks_eq := h'.ticks_eq.trans h.ticks_eq
  platform_eq := h'.platform_eq.trans h.platform_eq
  requests_eq := by
    have hrequest : later.requestFor url headers = session.requestFor url headers := by
      rw [requestFor, requestFor, h.client_eq]
    rw [h'.requests_eq, h.requests_eq, hrequest, List.append_assoc, List.replicate_append_replicate]
  replies_eq := by rw [h'.replies_eq, h.replies_eq, List.drop_drop]
  waits_eq := by rw [h'.waits_eq, h.waits_eq, List.append_assoc]

theorem Spends.note {requests : Nat} {waits : List Float}
    (h : session.Spends url headers requests waits later) (level : Log.Level) (text : String) :
    session.Spends url headers requests waits (later.note level text) :=
  ⟨h.client_eq, h.ticks_eq, h.platform_eq, h.requests_eq, h.replies_eq, h.waits_eq⟩

theorem Spends.waited {requests : Nat} {waits : List Float}
    (h : session.Spends url headers requests waits later) (seconds : Float) :
    session.Spends url headers requests (waits ++ [seconds]) (later.waited seconds) := by
  refine ⟨h.client_eq, h.ticks_eq, h.platform_eq, h.requests_eq, h.replies_eq, ?_⟩
  show later.host.waits ++ [seconds] = session.host.waits ++ (waits ++ [seconds])
  rw [h.waits_eq, List.append_assoc]

/-- The replies that are left are those after the ones that were spent. -/
theorem Spends.answer_eq {requests : Nat} {waits : List Float}
    (h : session.Spends url headers requests waits later) (i : Nat) :
    later.host.answer i = session.host.answer (i + requests) := by
  rw [Host.answer, h.replies_eq, List.getElem?_drop, Nat.add_comm, Host.answer]

/-- A wait is asked for, as long as the attempt has not too large a number. If it goes through, the
attempts go on. -/
theorem Spends.waitThen {requests attempt : Nat} {waits : List Float}
    (h : session.Spends url headers requests waits later) (hfew : attempt < 1024)
    (asked : Option Float) (next : Session τ → Outcome τ Response) :
    ∃ seconds waited, session.Spends url headers requests (waits ++ [seconds]) waited ∧
      waitThen attempt asked later next =
        match session.host.platform.sleepFault? seconds with
        | some fault => (.error (.badWait fault), waited)
        | none => next waited := by
  obtain ⟨seconds, hseconds⟩ := Option.isSome_iff_exists.1
    (isSome_delay hfew later.client.retry later.host.chance asked)
  refine ⟨seconds, later.waited seconds, h.waited seconds, ?_⟩
  rw [Http.waitThen, wait_eq, hseconds, h.platform_eq]
  cases hfault : session.host.platform.sleepFault? seconds with
  | some fault => simp only [hfault]
  | none => simp only [hfault]

/-- What becomes of attempts that pass over `n` replies: they end with the reply after those, or a wait
before that is refused, and then that is how they end. -/
inductive Passes (session : Session τ) (url : String) (headers : Value) (n : Nat) :
    Outcome τ Response → Prop
  | through {waits : List Float} {sent : Session τ} (hlength : waits.length = n)
      (hslept : ∀ seconds ∈ waits, session.host.platform.sleepFault? seconds = none)
      (hspends : session.Spends url headers (n + 1) waits sent) :
      Passes session url headers n (endWith url (session.host.answer n) sent)
  | stopped {waits : List Float} {seconds : Float} {fault : SleepFault} {after : Session τ}
      (hlength : waits.length < n)
      (hslept : ∀ seconds ∈ waits, session.host.platform.sleepFault? seconds = none)
      (hfault : session.host.platform.sleepFault? seconds = some fault)
      (hspends : session.Spends url headers (waits.length + 1) (waits ++ [seconds]) after) :
      Passes session url headers n (.error (.badWait fault), after)

/-- Attempts go on after a reply that is passed over and a wait that goes through. -/
theorem Passes.succ {n : Nat} {seconds : Float} {outcome : Outcome τ Response}
    (hspends : session.Spends url headers 1 [seconds] later)
    (hslept : session.host.platform.sleepFault? seconds = none)
    (h : later.Passes url headers n outcome) : session.Passes url headers (n + 1) outcome := by
  -- the first request and its wait come before those of the other attempts
  cases h with
  | @through waits sent hlength hrest hlater =>
      rw [hspends.answer_eq]
      rw [hspends.platform_eq] at hrest
      have hall := hspends.trans hlater
      rw [Nat.add_comm 1] at hall
      have hlength : (seconds :: waits).length = n + 1 := congrArg Nat.succ hlength
      exact .through hlength (List.forall_mem_cons.2 ⟨hslept, hrest⟩) hall
  | @stopped waits _ _ _ hlength hrest hfault hlater =>
      rw [hspends.platform_eq] at hrest hfault
      have hall := hspends.trans hlater
      rw [Nat.add_comm 1] at hall
      have hlength : (seconds :: waits).length < n + 1 := Nat.succ_lt_succ hlength
      exact .stopped hlength (List.forall_mem_cons.2 ⟨hslept, hrest⟩) hfault hall

end Session

open Session

variable {session : Session τ} {url : String} {headers : Value}

section

variable [Ticks τ]

end

/-! ## A server that recovers -/

end Http

end Ssvc
