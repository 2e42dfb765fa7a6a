import FormReplay.Run.Resolution
import FormReplay.Run.Value
import FormReplay.Structure.JumpTables
/-!
# Ordinary steps

One attempt of a step resolves interruptions, finds the value, waits, acts, waits, and resolves
interruptions again.  A failed attempt is repeated as often as the policy of the step allows, and
then the mode of the policy tells how to go on.
-/
namespace FormReplay

variable {σ : Type}

structure Program where
  workflow : Workflow
  tables   : JumpTables
  input    : RunInput
  /-- The index of the first primary row in the dataset as it was given. -/
  rowOffset : Nat := 0
  /-- Whether a program without loops runs once, on an empty row, when there are no rows. -/
  runsWithoutRows : Bool := false

def act (env : Env σ) (step : Step) (spec : ActionSpec) (row : DataRow) : Engine σ Unit := do
  let value ← valueFor env row spec.value
  spec.waitBefore.forM (waitFor env)
  ask env (.execute step value)
  spec.waitAfter.forM (waitFor env)

def attempt (env : Env σ) (index : Nat) (step : Step) (row : DataRow) : Engine σ Signal := do
  let some spec := step.kind.action? | fail (.structural (.notAnAction index step.kind.typeName))
  let before ← resolvePass env
  if before.signal ≠ .next then return before.signal
  act env step spec row
  let after ← resolvePass env
  if after.signal ≠ .next then return after.signal
  if env.options.learningMode ∧ after.eventsSeen = 0 then confirmStep env else return .next

/-- One attempt of the step at `index`, once the run may proceed.  An error that no policy applies to
ends the run. -/
def tryOnce (env : Env σ) (index : Nat) (once : Engine σ Signal) : Engine σ (Except RunError Signal) := do
  checkpoint env
  modifyContext fun c => { c with stepIndex := index }
  note (.attempted index)
  match ← observing once with
  | .ok signal => return .ok signal
  | .error e   => if e.isRetryable then return .error e else fail e

/-- Makes attempts until one succeeds, as many as given after the first; `made` retries were made
before.  The result is that of the last attempt. -/
def attempts (env : Env σ) (index delay : Nat) (once : Engine σ Signal) (made : Nat) :
    Nat → Engine σ (Except RunError Signal)
  | 0 => tryOnce env index once
  | left + 1 => do
    match ← tryOnce env index once with
    | .ok signal => return .ok signal
    | .error e =>
      report env (.stepRetry index (made + 1) e)
      sleep env .retryDelay delay
      attempts env index delay once (made + 1) left

def applyPolicy (tables : JumpTables) (index : Nat) (policy : ErrorPolicy) (e : RunError) :
    Engine σ Signal := do
  match policy.mode with
  | .skip         => return .skip
  | .breakLoop    => return .breakLoop
  | .continueLoop => return .continueLoop
  | .repeatLoop   => return .repeatLoop
  | .goto =>
    let label := policy.gotoLabel.getD ""
    match tables.label? label with
    | some target => return .goto target
    | none        => fail (.structural (.unknownPolicyLabel index label))
  | .fail | .inherit => fail e

/-- Executes an ordinary step under its policy.  A dry run only tells of it. -/
def executeStep (env : Env σ) (p : Program) (index : Nat) (step : Step) (row : DataRow) :
    Engine σ Signal := do
  let typeName := step.kind.typeName
  let rowIndex := (← get).context.rowIndex
  if env.options.dryRun then
    report env (.stepDryRun index typeName rowIndex)
    return .next
  let policy := p.workflow.effectivePolicy step
  report env (.stepStarted index typeName rowIndex)
  match ← attempts env index policy.retryDelay.toNat (attempt env index step row) 0 policy.retryCount.toNat with
  | .ok signal =>
    report env (.stepCompleted index typeName)
    return signal
  | .error e =>
    report env (.stepFailed index policy.mode e)
    applyPolicy p.tables index policy e

end FormReplay
