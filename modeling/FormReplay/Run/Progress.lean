import FormReplay.Interruption.Decision
import FormReplay.Run.Error
import FormReplay.Run.Options
import FormReplay.Run.Report
/-!
# Progress events

What the engine tells about a run while it goes on.  Nobody answers an event, and none can fail.
-/
namespace FormReplay

inductive ProgressEvent where
  | runStarted (workflow : String) (options : RunOptions)
  /-- The last event of every run; its name tells how the run ended. -/
  | runEnded (outcome : RunOutcome) (resume : Option ResumePoint) (rows learned : Nat)
  | rowStarted (row : Nat)
  | stepDryRun (step : Nat) (typeName : String) (row : Nat)
  | stepStarted (step : Nat) (typeName : String) (row : Nat)
  | stepCompleted (step : Nat) (typeName : String)
  | stepRetry (step attempt : Nat) (error : RunError)
  | stepFailed (step : Nat) (mode : ErrorMode) (error : RunError)
  | loopIteration (step iteration : Nat) (loopId : Option String)
  | interruptionDetected (step : Nat) (event : Event)
  | interruptionHandled (step : Nat) (handler : String) (outcome : Outcome)
  | decisionRequested (request : DecisionRequest)
  /-- An applied decision; the confirmation of a step has no action. -/
  | decisionApplied (id : RequestId) (step : Nat) (action : Option DecisionAction) (outcome : Outcome)
  | handlerLearned (handler template : String) (outcome : Outcome)
  deriving DecidableEq, Repr

namespace ProgressEvent

def name : ProgressEvent → String
  | .runStarted ..                  => "run.started"
  | .runEnded (.completed _) _ _ _  => "run.completed"
  | .runEnded .stopped (some _) _ _ => "run.suspended"
  | .runEnded .stopped none _ _     => "run.stopped"
  | .runEnded (.failed _) _ _ _     => "run.failed"
  | .rowStarted ..                  => "row.started"
  | .stepDryRun ..                  => "step.dry_run"
  | .stepStarted ..                 => "step.started"
  | .stepCompleted ..               => "step.completed"
  | .stepRetry ..                   => "step.retry"
  | .stepFailed ..                  => "step.failed"
  | .loopIteration ..               => "loop.iteration"
  | .interruptionDetected ..        => "interruption.detected"
  | .interruptionHandled ..         => "interruption.handled"
  | .decisionRequested ..           => "decision.requested"
  | .decisionApplied ..             => "decision.applied"
  | .handlerLearned ..              => "handler.learned"

def payload : ProgressEvent → Json
  | .runStarted workflow options => .obj [("workflow", .str workflow), ("options", options.toJson)]
  | .runEnded outcome resume rows learned =>
    .obj [("outcome", outcome.toJson), ("resume", .ofOption ResumePoint.toJson resume),
      ("rows_processed", .ofNat rows), ("learned_handlers", .ofNat learned)]
  | .rowStarted row => .obj [("row_index", .ofNat row)]
  | .stepDryRun step typeName row =>
    .obj [("step_index", .ofNat step), ("step_type", .str typeName), ("row_index", .ofNat row)]
  | .stepStarted step typeName row =>
    .obj [("step_index", .ofNat step), ("step_type", .str typeName), ("row_index", .ofNat row)]
  | .stepCompleted step typeName => .obj [("step_index", .ofNat step), ("step_type", .str typeName)]
  | .stepRetry step attempt error =>
    .obj [("step_index", .ofNat step), ("attempt", .ofNat attempt), ("error", .str error.message)]
  | .stepFailed step mode error =>
    .obj [("step_index", .ofNat step), ("mode", .str mode.name), ("error", .str error.message)]
  | .loopIteration step iteration loopId =>
    .obj [("step_index", .ofNat step), ("iteration", .ofNat iteration),
      ("loop_id", .ofOption .str loopId)]
  | .interruptionDetected step event =>
    .obj [("step_index", .ofNat step), ("kind", .str event.kind.name), ("text", .str event.text),
      ("template", .str event.template), ("controls", .ofStrings event.controls)]
  | .interruptionHandled step handler outcome =>
    .obj [("step_index", .ofNat step), ("handler_id", .str handler), ("outcome", .str outcome.name)]
  | .decisionRequested request => request.toJson
  | .decisionApplied id step action outcome =>
    .obj ([("request_id", .str id.text), ("step_index", .ofNat step)]
      ++ Fields.ofOption "action" (fun a => .str a.name) action ++ [("outcome", .str outcome.name)])
  | .handlerLearned handler template outcome =>
    .obj [("handler_id", .str handler), ("template", .str template), ("outcome", .str outcome.name)]

end ProgressEvent

end FormReplay
