import FormReplay.Run.Signal
import FormReplay.Structure.Issue
import FormReplay.Workflow.Step
/-!
# Errors of a run

What ends a run or an attempt of a step.  Each error is a cause, with what its text needs; a cause
`reported` is one that the host gave a text of its own.  Only a failure of a step, a condition or a
value is subject to the policy of the step; every other error ends the run.
-/
namespace FormReplay

inductive StepFault where
  | timedOut (ms : Nat) (target : String) (state : WaitState)
  | reported (message : String)
  deriving DecidableEq, Repr

inductive StructuralFault where
  | invalid (issues : List StructuralIssue)
  | unknownGoto (index : Nat) (label : String)
  | unknownPolicyLabel (index : Nat) (label : String)
  | missingIfEnd (index : Nat)
  | missingElseEnd (index : Nat)
  | missingLoopEnd (index : Nat)
  | notAnAction (index : Nat) (typeName : String)
  | noSuchStep (index : Nat)
  | loopControlOutside (signal : Signal)
  | outsideProgram (signal : Signal)
  | reported (message : String)
  deriving DecidableEq, Repr

inductive ValueFault where
  | fieldMissing (field : String)
  | noClipboard
  | clipboardEmpty
  | reported (message : String)
  deriving DecidableEq, Repr

inductive NumberFault where
  | empty
  | badDigit
  | tooLarge
  deriving DecidableEq, Repr

inductive ConfigFault where
  /-- A variable whose value is no number; its name is as given, without the common start. -/
  | badNumber (why : NumberFault) (value name : String)
  | repeated (field : String)
  | reported (message : String)
  deriving DecidableEq, Repr

inductive ChannelFault where
  | disconnected
  | reported (message : String)
  deriving DecidableEq, Repr

inductive RunError where
  /-- Stopped by the host or by an outcome. -/
  | stopped
  /-- The surface is about to go away; the run is suspended. -/
  | navigation (reason : String)
  | step (fault : StepFault)
  | structural (fault : StructuralFault)
  | condition (message : String)
  | value (fault : ValueFault)
  | channel (fault : ChannelFault)
  | config (fault : ConfigFault)
  /-- A document of the host could not be read or written. -/
  | serialization (message : String)
  deriving DecidableEq, Repr

def StepFault.message : StepFault → String
  | .timedOut ms target state =>
    let wanted := match state with | .visible => "Visible" | .hidden => "Hidden" | .present => "Exists"
    s!"timed out after {ms}ms waiting for '{target}' to be {wanted}"
  | .reported message => message

def StructuralFault.message : StructuralFault → String
  | .invalid issues => "; ".intercalate (issues.map StructuralIssue.message)
  | .unknownGoto i label => s!"goto at step {i} targets unknown label '{label}'"
  | .unknownPolicyLabel i label => s!"error policy of step {i} targets unknown label '{label}'"
  | .missingIfEnd i => s!"if-start at step {i} has no if-end"
  | .missingElseEnd i => s!"else at step {i} has no if-end"
  | .missingLoopEnd i => s!"loop-start at step {i} has no loop-end"
  | .notAnAction i typeName => s!"step {i} ({typeName}) is not an action"
  | .noSuchStep i => s!"there is no step {i}"
  | .loopControlOutside signal => s!"loop-control signal used outside a loop ({signal.text})"
  | .outsideProgram signal => s!"{signal.text} lies outside the program"
  | .reported message => message

def ValueFault.message : ValueFault → String
  | .fieldMissing field => s!"Field '{field}' not found in row"
  | .noClipboard => "No clipboard source configured"
  | .clipboardEmpty => "Clipboard is empty"
  | .reported message => message

def NumberFault.message : NumberFault → String
  | .empty    => "cannot parse integer from empty string"
  | .badDigit => "invalid digit found in string"
  | .tooLarge => "number too large to fit in target type"

def ConfigFault.message : ConfigFault → String
  | .badNumber why value name => s!"{why.message} while parsing value '{value}' provided by {name}"
  | .repeated field => s!"duplicate field \x60{field}\x60"
  | .reported message => message

def ChannelFault.message : ChannelFault → String
  | .disconnected => "Decision host disconnected"
  | .reported message => message

namespace RunError

def message : RunError → String
  | .stopped           => "Run stopped by user"
  | .navigation reason => "Navigation interrupt: " ++ reason
  | .step f            => "Step execution failed: " ++ f.message
  | .structural f      => "Structural error: " ++ f.message
  | .condition m       => "Condition error: " ++ m
  | .value f           => "Value unavailable: " ++ f.message
  | .channel f         => "Channel error: " ++ f.message
  | .config f          => "Configuration error: " ++ f.message
  | .serialization m   => "Serialization error: " ++ m

/-- Whether the policy of the step applies: its retries first, then its mode. -/
def isRetryable : RunError → Bool
  | .step _ | .condition _ | .value _ => true
  | _                                 => false

end RunError

end FormReplay
