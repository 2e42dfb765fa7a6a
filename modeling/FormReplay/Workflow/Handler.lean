import FormReplay.Instant
/-!
# Handlers

A handler maps a pattern of interruptions to actions and an outcome.  Handlers are written by hand
or learned from the decisions of an operator.
-/
namespace FormReplay

/-- A dialog blocks the surface until it is resolved; a notice does not. -/
inductive EventKind where
  | dialog
  | notice
  deriving DecidableEq, Repr

def EventKind.isBlocking : EventKind → Bool
  | .dialog => true
  | .notice => false

def EventKind.name : EventKind → String
  | .dialog => "dialog"
  | .notice => "notice"

inductive HandlerMode where
  | auto
  /-- Ask the operator although the handler matches. -/
  | alwaysAsk
  deriving DecidableEq, Repr

inductive MatchMode where
  | contains
  | exact
  | regex
  deriving DecidableEq, Repr

structure Trigger where
  kind             : EventKind
  template         : String
  matchMode        : MatchMode := .contains
  requiredControls : List String := []
  deriving DecidableEq, Repr

inductive HandlerAction where
  | press (control : String)
  | dismiss
  | wait (ms : UInt64)
  deriving DecidableEq, Repr

inductive Outcome where
  | nextStep
  | continueLoop
  | breakLoop
  | repeatLoop
  | stop
  deriving DecidableEq, Repr, Inhabited

structure Handler where
  id        : String
  enabled   : Bool := true
  /-- Handlers of higher priority come first. -/
  priority  : Int32 := 0
  mode      : HandlerMode := .auto
  trigger   : Trigger
  actions   : List HandlerAction := []
  outcome   : Outcome := .nextStep
  learned   : Bool := false
  createdAt : Option Instant := none
  deriving DecidableEq, Repr

/-- Whether two handlers do the same on the same events, whatever their identity and priority. -/
def Handler.isEquivalent (a b : Handler) : Bool :=
  a.trigger == b.trigger && a.actions == b.actions && a.outcome == b.outcome

end FormReplay
