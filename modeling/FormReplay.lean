import FormReplay.Main
import FormReplay.Interruption.Bridge
import FormReplay.Script.Host
import FormReplay.Proofs.Acknowledgement
import FormReplay.Proofs.Blocking
import FormReplay.Proofs.Containment
import FormReplay.Proofs.Correlation
import FormReplay.Proofs.Details
import FormReplay.Proofs.Documents
import FormReplay.Proofs.DryRun
import FormReplay.Proofs.FailStop
import FormReplay.Proofs.FailedDecisions
import FormReplay.Proofs.Holding
import FormReplay.Proofs.Interception
import FormReplay.Proofs.Learning
import FormReplay.Proofs.Lineage
import FormReplay.Proofs.NormalForm
import FormReplay.Proofs.RecordedActions
import FormReplay.Proofs.Refinement
import FormReplay.Proofs.Rehearsal
import FormReplay.Proofs.Replay
import FormReplay.Proofs.Resumption
import FormReplay.Proofs.Retries
import FormReplay.Proofs.RowAccount
import FormReplay.Proofs.Scheduling
import FormReplay.Proofs.Selection
import FormReplay.Proofs.Silence
import FormReplay.Proofs.Sleeping
import FormReplay.Proofs.Stopping
import FormReplay.Proofs.Structure.Conditionals
import FormReplay.Proofs.Structure.Loops
import FormReplay.Proofs.Templates
import FormReplay.Proofs.Termination
import FormReplay.Proofs.Validation
import FormReplay.Proofs.Waiting
import FormReplay.Proofs.Whereabouts
