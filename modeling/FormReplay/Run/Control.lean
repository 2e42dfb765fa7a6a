/-!
# Control flags

A host may stop a run or pause it, and the engine holds its own run while it waits for a decision.
The hold is a flag of its own, so releasing it leaves a pause of the host in force.
-/
namespace FormReplay

structure Control where
  stopped  : Bool := false
  paused   : Bool := false
  /-- Held by the engine, for a decision. -/
  awaiting : Bool := false
  deriving DecidableEq, Repr, Inhabited

namespace Control

def clear : Control := {}

/-- Whether the run may not proceed: it is paused or held. -/
def isPaused (c : Control) : Bool := c.paused || c.awaiting

def stop (c : Control) : Control := { c with stopped := true }

def pause (c : Control) : Control := { c with paused := true }

def resume (c : Control) : Control := { c with paused := false }

def hold (c : Control) : Control := { c with awaiting := true }

def release (c : Control) : Control := { c with awaiting := false }

@[simp] theorem isPaused_resume (c : Control) : c.resume.isPaused = c.awaiting := by
  simp [isPaused, resume]

end Control

end FormReplay
