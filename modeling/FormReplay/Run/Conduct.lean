import FormReplay.Run.Walk
/-!
# Runs

A run analyses its workflow, executes it over its window of the primary rows, and comes to exactly
one outcome, which it reports last.  A workflow with structural issues is not executed at all.
-/
namespace FormReplay

variable {σ : Type}

def conclude (c : Context) : Except RunError Unit → RunOutcome × Option ResumePoint
  | .ok ()                  => (.completed c.rowsProcessed, none)
  | .error .stopped         => (.stopped, none)
  | .error (.navigation _)  => (.stopped, some ⟨c.stepIndex, c.rowIndex⟩)
  | .error e                => (.failed e.message, none)

def finishRun (env : Env σ) (outcome : RunOutcome) (resume : Option ResumePoint) : Engine σ RunReport := do
  let s ← get
  let r : RunReport := ⟨outcome, resume, s.learned, s.context.rowsProcessed⟩
  report env (.runEnded outcome resume r.rowsProcessed r.learned.length)
  return r

/-- The program of a run: the workflow over the window of the primary rows that the options set. -/
def Workflow.program (w : Workflow) (tables : JumpTables) (input : RunInput) (o : RunOptions) : Program where
  workflow        := w
  tables          := tables
  input           := { input with primary := input.primary.sliced o.skipRows o.limitRows }
  rowOffset       := o.skipRows
  runsWithoutRows := input.primary.rows.isEmpty

/-- A run, with the workflow afterwards: it has gained the handlers learned. -/
def conduct (env : Env σ) (w : Workflow) (input : RunInput) : Engine σ (RunReport × Workflow) := do
  report env (.runStarted w.name env.options)
  let (tables, issues) := w.analyze
  if issues.isEmpty then
    let result ← observing (executeProgram env (w.program tables input env.options))
    let s ← get
    let (outcome, resume) := conclude s.context result
    return (← finishRun env outcome resume, s.learned.foldl Workflow.addHandler w)
  else
    return (← finishRun env (.failed (RunError.structural (.invalid issues)).message) none, w)

def World.session (world : World σ) (handlers : List Handler) : Session σ :=
  { world := { world with control := .clear }, handlers }

structure Finished (σ : Type) where
  report   : RunReport
  workflow : Workflow
  world    : World σ
  /-- The oldest entry comes first. -/
  trace    : List Entry

/-- Runs a workflow over an input.  There is no result if the fuel does not suffice. -/
def run (env : Env σ) (w : Workflow) (input : RunInput) (world : World σ) : Option (Finished σ) :=
  match conduct env w input (world.session w.handlers) with
  | .ok (r, w) s => some ⟨r, w, s.world, s.trace.reverse⟩
  | .error _ _   => none

end FormReplay
