import Ssvc.Main
import Ssvc.Proofs.Evaluation.Resolution
import Ssvc.Proofs.Evaluation.RoundTrip
import Ssvc.Proofs.Http.Breaker
import Ssvc.Proofs.Value.Texts
import Ssvc.Proofs.Workflow
import Ssvc.Proofs.Workflow.Agreement
import Ssvc.Proofs.Evaluation.Ending
import Ssvc.Proofs.Http.Client
import Ssvc.Proofs.Workflow.History
import Ssvc.Proofs.Loader
import Ssvc.Proofs.Http.Probe
import Ssvc.Proofs.Evaluation.Injectivity
import Ssvc.Proofs.Explanation
import Ssvc.Proofs.Tree.Positions
import Ssvc.Proofs.Http.Cache
import Ssvc.Proofs.Http.Outage
import Ssvc.Proofs.Workflow.Renaming
import Ssvc.Proofs.Evaluation.Consistency
import Ssvc.Proofs.Evaluation.Outcome
import Ssvc.Proofs.Evaluation.Completeness
import Ssvc.Proofs.Evaluation.Dependence
import Ssvc.Proofs.Evaluation.Extension
import Ssvc.Proofs.Evaluation.Spelling
import Ssvc.Proofs.Metrics
import Ssvc.Proofs.Platform.PipeTable
import Ssvc.Proofs.Report
import Ssvc.Proofs.Text.Lines
import Ssvc.Proofs.Triage
import Ssvc.Proofs.Triage.Accounts
import Ssvc.Proofs.Triage.Batch
import Ssvc.Proofs.Http.Retrying
import Ssvc.Proofs.Loader.Fetched
import Ssvc.Proofs.Time.Order
import Ssvc.Proofs.Http.Exhaustion
import Ssvc.Proofs.Triage.Archive
import Ssvc.Proofs.Vector.Reencoding
import Ssvc.Proofs.Tree.Flattening
import Ssvc.Proofs.Workflow.Joining
import Ssvc.Proofs.Metrics.Records
import Ssvc.Proofs.Selection
import Ssvc.Proofs.Triage.Arguments
