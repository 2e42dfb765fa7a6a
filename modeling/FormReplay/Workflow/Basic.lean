import FormReplay.Workflow.Step
import FormReplay.Workflow.Handler
import FormReplay.Data.Dataset
/-!
# Workflows

The document that the engine runs and extends: steps, settings, and the handlers gathered so far.
-/
namespace FormReplay

structure Settings where
  defaultPolicy : ErrorPolicy := {}
  relationships : List Relationship := []
  deriving DecidableEq, Repr

structure Workflow where
  name     : String := ""
  steps    : List Step := []
  settings : Settings := {}
  handlers : List Handler := []

namespace Workflow

/-- The policy of a step: its own, or the workflow's where it has none or inherits.  A workflow
whose policy inherits fails. -/
def effectivePolicy (w : Workflow) (s : Step) : ErrorPolicy :=
  let chosen :=
    match s.onError with
    | some p => if p.mode = .inherit then w.settings.defaultPolicy else p
    | none   => w.settings.defaultPolicy
  if chosen.mode = .inherit then { chosen with mode := .fail } else chosen

def hasEquivalent (w : Workflow) (h : Handler) : Bool := w.handlers.any (·.isEquivalent h)

/-- Appends a handler unless an equivalent one is there. -/
def addHandler (w : Workflow) (h : Handler) : Workflow :=
  if w.hasEquivalent h then w else { w with handlers := w.handlers ++ [h] }

end Workflow

end FormReplay
