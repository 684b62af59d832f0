import Ssvc.Disk
import Ssvc.Log
import Ssvc.Platform
import Ssvc.Time.DateTime
import Ssvc.Time.Ticks
import Ssvc.Value

set_option autoImplicit false

/-! # The host

What surrounds a run: the clock, the disk, the log, the line to servers, and the platform that it
runs on. Replies wait in a queue, and what is asked and how long is waited is kept. Everything that
a run does to its surroundings is a change of this value. -/

namespace Ssvc

namespace Http

/-- Why a request has no response. -/
inductive SendError where
  | connection (message : String)
  | timeout (message : String)
  | request (message : String)
  /-- a failure that is not about the request -/
  | outside (fault : OutsideFault)
  deriving DecidableEq, Repr

/-- The message of an error. -/
def SendError.message : SendError → String
  | .connection message => message
  | .timeout message => message
  | .request message => message
  | .outside fault => fault.message

/-- A response of a server. -/
structure Response where
  status : Int
  headers : List (String × String)
  body : String
  reason : String
  deriving DecidableEq, Repr

/-- What comes back for a request. -/
inductive Reply where
  | response (response : Response)
  | failure (error : SendError)
  deriving DecidableEq, Repr

/-- A request that was made. -/
structure Request where
  url : String
  headers : Value
  timeout : Float
  deriving Repr

end Http

/-- The surroundings of a run. `ticks` is the reading of a clock that never goes back, and `waits`
has the waits that were asked for, also those that the platform refused. -/
structure Host (τ : Type) where
  platform : Platform
  clock : Time.DateTime
  ticks : τ
  chance : Float
  replies : List Http.Reply
  requests : List Http.Request
  waits : List Float
  disk : Disk
  notes : Log.Notes

namespace Host

variable {τ : Type}

/-- Add notes to the log. -/
def note (host : Host τ) (notes : Log.Notes) : Host τ :=
  { host with notes := host.notes ++ notes }

/-- Let time pass: some seconds on the clock that never goes back, and as many microseconds as they
have on the other one. -/
def advance [Time.Ticks τ] (seconds : τ) (micros : Int) (host : Host τ) : Host τ :=
  { host with clock := host.clock.plus micros, ticks := host.ticks + seconds }

/-- Wait, which takes no time on the clock, unless the platform refuses it. -/
def wait (host : Host τ) (seconds : Float) : Except SleepFault Unit × Host τ :=
  let asked := { host with waits := host.waits ++ [seconds] }
  match host.platform.sleepFault? seconds with
  | some fault => (.error fault, asked)
  | none => (.ok (), asked)

/-- Make a request and take the next reply; without one there is no connection. -/
def send (host : Host τ) (request : Http.Request) : Http.Reply × Host τ :=
  let asked := { host with requests := host.requests ++ [request] }
  match host.replies with
  | [] => (.failure (.connection "no response queued"), asked)
  | reply :: rest => (reply, { asked with replies := rest })

/-- The clock without its distance from universal time. -/
def civilClock (host : Host τ) : Time.DateTime :=
  { host.clock with offset := none }

end Host

end Ssvc
