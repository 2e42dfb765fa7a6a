import FormReplay.Workflow.Handler
/-!
# Signals

What the execution of a step or of a range of steps tells the frame around it.
-/
namespace FormReplay

inductive Signal where
  | next
  /-- The step failed and is skipped; go on with the next one. -/
  | skip
  | goto (target : Nat)
  | breakLoop
  | continueLoop
  | repeatLoop
  deriving DecidableEq, Repr, Inhabited

namespace Signal

def isAdvance : Signal → Bool
  | .next | .skip => true
  | _             => false

/-- Whether only a loop can consume the signal. -/
def isLoopControl : Signal → Bool
  | .breakLoop | .continueLoop | .repeatLoop => true
  | _                                        => false

def text : Signal → String
  | .next         => "none"
  | .skip         => "skip"
  | .goto target  => s!"goto({target})"
  | .breakLoop    => "break-loop"
  | .continueLoop => "continue-loop"
  | .repeatLoop   => "repeat-loop"

end Signal

def Outcome.signal? : Outcome → Option Signal
  | .nextStep     => some .next
  | .continueLoop => some .continueLoop
  | .breakLoop    => some .breakLoop
  | .repeatLoop   => some .repeatLoop
  | .stop         => none

end FormReplay
