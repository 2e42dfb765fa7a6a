import FormReplay.Json.Record
import FormReplay.Workflow.Condition
import FormReplay.Workflow.Policy
/-!
# Steps

A workflow is a flat list of steps.  Ordinary steps act on the surface: the engine reads their
target, value and waits, and hands everything else to the host as it is.  The other steps steer the
flow and are carried out by the engine itself.
-/
namespace FormReplay

inductive ValueSource where
  | static (value : String)
  /-- A field of the current row, by its bare name or as `source:field`. -/
  | data (field : String)
  | clipboard
  deriving DecidableEq, Repr

inductive WaitState where
  | visible
  | hidden
  | present
  deriving DecidableEq, Repr

/-- Wait until an element is in a state; the engine's own limit holds where none is given. -/
structure WaitSpec where
  target  : String
  state   : WaitState
  timeout : Option UInt64
  deriving DecidableEq, Repr

inductive ActionKind where
  | click
  | input
  | select
  | checkbox
  | wait
  | navigate
  | keypress
  deriving DecidableEq, Repr

/-- The payload of an ordinary step; `extra` is what the engine does not read. -/
structure ActionSpec where
  target     : Option String := none
  value      : Option ValueSource := none
  waitBefore : Option WaitSpec := none
  waitAfter  : Option WaitSpec := none
  extra      : Record := .empty

inductive LoopMode where
  | count (times : UInt64)
  /-- As long as a condition holds, at most `most` times. -/
  | whileHolds (condition : Condition) (most : Option UInt64)
  /-- Once per row of a dataset: the primary one unless another is named. -/
  | data (source : Option String) (limit : Option UInt64)
  deriving DecidableEq, Repr

structure LoopSpec where
  id   : Option String := none
  mode : LoopMode
  deriving DecidableEq, Repr

inductive StepKind where
  | action (kind : ActionKind) (spec : ActionSpec)
  | label (name : String)
  | goto (label : String)
  | ifStart (condition : Condition)
  | otherwise
  | ifEnd
  | loopStart (spec : LoopSpec)
  | loopEnd (loopRef : Option String)
  | continueLoop
  | breakLoop
  | repeatLoop

structure Step where
  id      : Option String := none
  kind    : StepKind
  onError : Option ErrorPolicy := none

def ActionKind.name : ActionKind → String
  | .click    => "click"
  | .input    => "input"
  | .select   => "select"
  | .checkbox => "checkbox"
  | .wait     => "wait"
  | .navigate => "navigate"
  | .keypress => "keypress"

namespace StepKind

def typeName : StepKind → String
  | .action kind _ => kind.name
  | .label _       => "label"
  | .goto _        => "goto"
  | .ifStart _     => "if-start"
  | .otherwise     => "else"
  | .ifEnd         => "if-end"
  | .loopStart _   => "loop-start"
  | .loopEnd _     => "loop-end"
  | .continueLoop  => "continue-loop"
  | .breakLoop     => "break-loop"
  | .repeatLoop    => "repeat-loop"

def action? : StepKind → Option ActionSpec
  | .action _ spec => some spec
  | _              => none

end StepKind

namespace Step

def isAction (s : Step) : Bool := s.kind.action?.isSome

def target? (s : Step) : Option String := s.kind.action?.bind (·.target)

def displayName (s : Step) : String :=
  match s.id with
  | some id => s!"{id} ({s.kind.typeName})"
  | none    => s.kind.typeName

end Step

end FormReplay
