import Ssvc.Host
import Ssvc.Http.Breaker
import Ssvc.Http.Retry
import Ssvc.Json.Reader

set_option autoImplicit false

/-! # The client

Documents are fetched from servers as JSON. A request that fails is tried again as often as the
settings allow; a breaker keeps the client from asking a server that fails all the time; and a
document that was fetched once is kept. -/

namespace Ssvc.Http

open Time (Ticks)

variable {τ : Type}

/-- A client: its name in messages, its settings, its breaker and the documents that it keeps. -/
structure Client (τ : Type) where
  name : String
  retry : Retry
  breaker : Breaker τ
  keeps : Bool
  kept : List (String × Value)
  deriving Repr

/-- The name of a client when none is given. -/
def standardName : String := "decision_tree"

/-- A client with some settings, and all else as usual. -/
def Client.new [Ticks τ] (retry : Retry) : Client τ :=
  ⟨standardName, retry, Breaker.standard, true, []⟩

/-- Why a document cannot be fetched. -/
inductive FetchError where
  | circuitOpen (name : String)
  | send (error : SendError)
  | status (response : Response) (url : String)
  | badBody (fault : Json.Fault) (body : String)
  | exhausted (name url : String)
  | delayTooLarge
  | badWait (fault : SleepFault)
  | badDate (problem : Time.MailDate.Problem)
  deriving DecidableEq, Repr

/-- The side that is to blame for a status. -/
def blame (status : Int) : String :=
  if status < 500 then "Client" else "Server"

/-- The message of an error. -/
def FetchError.message : FetchError → String
  | .circuitOpen name => name ++ " circuit open"
  | .send error => error.message
  | .status response url =>
    toString response.status ++ " " ++ blame response.status ++ " Error: " ++ response.reason
      ++ " for url: " ++ url
  | .badBody fault body => fault.message body
  | .exhausted name url => name ++ ": request to " ++ url ++ " failed"
  | .delayTooLarge => "int too large to convert to float"
  | .badWait fault => fault.message
  | .badDate problem => problem.message

/-- A client with the surroundings that it acts on. -/
structure Session (τ : Type) where
  client : Client τ
  host : Host τ

/-- What an action gives, and what it leaves behind. -/
abbrev Outcome (τ α : Type) := Except FetchError α × Session τ

namespace Session

/-- Add a note of the client. -/
def note (session : Session τ) (level : Log.Level) (text : String) : Session τ :=
  { session with host := session.host.note [⟨level, .http, session.client.name ++ ": " ++ text⟩] }

/-- Change the breaker. -/
def withBreaker (session : Session τ) (breaker : Breaker τ) : Session τ :=
  { session with client := { session.client with breaker } }

/-- Tell the breaker about a failure. -/
def recordFailure (session : Session τ) : Session τ :=
  session.withBreaker (session.client.breaker.recordFailure session.host.ticks)

/-- Tell the breaker about a success. -/
def recordSuccess (session : Session τ) : Session τ :=
  session.withBreaker session.client.breaker.recordSuccess

/-- Ask the breaker for an attempt. -/
def canAttempt [Ticks τ] (session : Session τ) : Bool × Session τ :=
  let (granted, breaker) := session.client.breaker.canAttempt session.host.ticks
  (granted, session.withBreaker breaker)

/-- Make a request. -/
def send (session : Session τ) (url : String) (headers : Value) : Reply × Session τ :=
  let (reply, host) := session.host.send ⟨url, headers, session.client.retry.timeout⟩
  (reply, { session with host })

/-- Wait after an attempt, which fails if there is no such delay or it is refused. -/
def wait (session : Session τ) (attempt : Nat) (asked : Option Float) : Outcome τ Unit :=
  match session.client.retry.delay? attempt session.host.chance asked with
  | none => (.error .delayTooLarge, session)
  | some seconds =>
    let (result, host) := session.host.wait seconds
    (result.mapError .badWait, { session with host })

end Session

/-! ## Attempts -/

/-- The statuses after which a request is tried again. -/
def isRetryable (status : Int) : Bool :=
  [429, 500, 502, 503, 504].contains status

/-- The value of a header, whatever the case of its name; the last one counts. -/
def Response.header? (response : Response) (name : String) : Option String :=
  (response.headers.reverse.find? fun header => Text.lowerAscii header.1 = Text.lowerAscii name).map
    (·.2)

/-- Holds of the errors that are about a request, after which it is tried again. -/
def SendError.isAboutRequest : SendError → Bool
  | .connection _ => true
  | .timeout _ => true
  | .request _ => true
  | .outside _ => false

/-- Take a response that is not tried again. A status from 400 on is a failure; one from 600 on is
accepted all the same. -/
def settle (url : String) (response : Response) (session : Session τ) : Outcome τ Response :=
  if response.status < 400 then (.ok response, session.recordSuccess)
  else if response.status < 600 then (.error (.status response url), session.recordFailure)
  else (.ok response, session.recordFailure.recordSuccess)

/-- Wait after an attempt and go on. -/
def waitThen {α : Type} (attempt : Nat) (asked : Option Float) (session : Session τ)
    (next : Session τ → Outcome τ α) : Outcome τ α :=
  match session.wait attempt asked with
  | (.error error, session) => (.error error, session)
  | (.ok (), session) => next session

/-- What a response asks for, with a note if it cannot be read. -/
def askedBy (response : Response) (session : Session τ) : Outcome τ (Option Float) :=
  match readAsked session.host.clock (response.header? "Retry-After") with
  | .error problem => (.error (.badDate problem), session)
  | .ok .unreadable =>
    (.ok none, { session with host := session.host.note [⟨.debug, .http,
      "Unable to parse Retry-After header: " ++ (response.header? "Retry-After").getD ""⟩] })
  | .ok asked => (.ok asked.seconds?, session)

/-- Make up to `left` attempts, the next of which has the number `attempt`. -/
def tryFrom (url : String) (headers : Value) : Nat → Nat → Session τ → Outcome τ Response
  | 0, _, session => (.error (.exhausted session.client.name url), session)
  | left + 1, attempt, session =>
    match session.send url headers with
    | (.failure error, session) =>
      if !error.isAboutRequest then (.error (.send error), session)
      else if left = 0 then (.error (.send error), session.recordFailure)
      else
        waitThen attempt none
          (session.note .warning ("request to " ++ url ++ " failed (" ++ error.message
            ++ "), retrying"))
          (tryFrom url headers left (attempt + 1))
    | (.response response, session) =>
      if isRetryable response.status && left ≠ 0 then
        match askedBy response (session.note .warning
            ("HTTP " ++ toString response.status ++ " from " ++ url ++ ", retrying")) with
        | (.error error, session) => (.error error, session)
        | (.ok asked, session) =>
          waitThen attempt asked session (tryFrom url headers left (attempt + 1))
      else settle url response session

/-- Make a request, if the breaker grants it. -/
def request [Ticks τ] (url : String) (headers : Value) (session : Session τ) : Outcome τ Response :=
  match session.canAttempt with
  | (false, session) => (.error (.circuitOpen session.client.name), session)
  | (true, session) => tryFrom url headers session.client.retry.attempts 0 session

/-! ## Documents -/

/-- Keep a document for its address. -/
def Client.keep (client : Client τ) (url : String) (document : Value) : Client τ :=
  if client.keeps then { client with kept := (url, document) :: client.kept } else client

/-- The document that is kept for an address. -/
def Client.kept? (client : Client τ) (url : String) : Option Value :=
  if client.keeps then client.kept.lookup url else none

/-- Fetch a document. -/
def fetch [Ticks τ] (url : String) (headers : Value) (session : Session τ) : Outcome τ Value :=
  match session.client.kept? url with
  | some document => (.ok document, session.note .debug ("cache hit for " ++ url))
  | none =>
    match request url headers session with
    | (.error error, session) => (.error error, session)
    | (.ok response, session) =>
      match Json.read response.body with
      | .error fault => (.error (.badBody fault response.body), session)
      | .ok document => (.ok document, { session with client := session.client.keep url document })

end Ssvc.Http
