import Ssvc.Explanation
import Ssvc.Loader
import Ssvc.Workflow.Aliases

set_option autoImplicit false

/-! # Failures

Everything that can keep triage from being set up or from answering. Each part of the library has
errors of its own; here they meet, so that a run has one message whatever went wrong. -/

namespace Ssvc

/-- Why triage fails. -/
inductive Failure where
  | noConfig (path : String)
  | missingKey (key : String)
  | unknownLevel (name : String)
  | markup (fault : MarkupFault)
  | disk (error : DiskError)
  | shape (cause : ShapeError)
  | settings (error : Http.SettingError)
  | load (failure : LoadFailure)
  | aliases (error : Workflow.AliasError)
  | evaluation (error : EvaluationError)
  | explanation (problem : Explanation.Problem)
  deriving Repr

/-- The message of a failure. -/
def Failure.message : Failure → String
  | .noConfig path => "Config file not found: " ++ path
  | .missingKey key => "Missing required config key: " ++ key
  | .unknownLevel name => "Unknown log level: " ++ name
  | .markup fault => fault.message
  | .disk error => error.message
  | .shape cause => cause.message
  | .settings error => error.message
  | .load failure => failure.message
  | .aliases error => error.message
  | .evaluation error => error.message
  | .explanation problem => problem.message

end Ssvc
