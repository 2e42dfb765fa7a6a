/-!
# Error policies

What to do with a step whose every attempt failed, and how often to try before.
-/
namespace FormReplay

inductive ErrorMode where
  | fail
  | skip
  | goto
  | breakLoop
  | continueLoop
  | repeatLoop
  /-- As the workflow lays down for all its steps. -/
  | inherit
  deriving DecidableEq, Repr, Inhabited

structure ErrorPolicy where
  mode       : ErrorMode := .fail
  retryCount : UInt32 := 0
  /-- Milliseconds between two attempts. -/
  retryDelay : UInt64 := 0
  gotoLabel  : Option String := none
  deriving DecidableEq, Repr, Inhabited

namespace ErrorPolicy

def ofMode (mode : ErrorMode) : ErrorPolicy := { mode }

def goto (label : String) : ErrorPolicy := { mode := .goto, gotoLabel := some label }

def withRetries (p : ErrorPolicy) (count : UInt32) (delay : UInt64) : ErrorPolicy :=
  { p with retryCount := count, retryDelay := delay }

end ErrorPolicy

end FormReplay
