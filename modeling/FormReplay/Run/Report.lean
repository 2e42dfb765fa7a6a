import FormReplay.Workflow.Document
/-!
# Reports

How a run ended, and where it can be taken up again.
-/
namespace FormReplay

inductive RunOutcome where
  | completed (rowsProcessed : Nat)
  | stopped
  | failed (message : String)
  deriving DecidableEq, Repr

/-- Where a suspended run was when the surface went away; the row counts from the start of the
primary dataset as it was given. -/
structure ResumePoint where
  stepIndex : Nat
  rowIndex  : Nat
  deriving DecidableEq, Repr

structure RunReport where
  outcome       : RunOutcome
  resume        : Option ResumePoint
  learned       : List Handler
  rowsProcessed : Nat
  deriving DecidableEq, Repr

namespace RunOutcome

def isCompleted : RunOutcome → Bool
  | .completed _ => true
  | _            => false

def ofTree? {β : Type} [Readable β] (b : β) : Option RunOutcome := do
  let (status, rest) ← Readable.tagged? "status" ["completed", "stopped", "failed"] b
  match status with
  | "completed" =>
    return .completed (← (← Readable.fields? ["rows_processed"] rest).required "rows_processed" Readable.nat64?)
  | "stopped" => if rest.isBare then some .stopped else none
  | "failed" => return .failed (← (← Readable.fields? ["message"] rest).required "message" Readable.string?)
  | _ => none

def toJson : RunOutcome → Json
  | .completed rows => .obj [("status", .str "completed"), ("rows_processed", .ofNat rows)]
  | .stopped        => .obj [("status", .str "stopped")]
  | .failed message => .obj [("status", .str "failed"), ("message", .str message)]

end RunOutcome

namespace ResumePoint

def ofTree? {β : Type} [Readable β] (b : β) : Option ResumePoint := do
  let f ← Readable.fields? ["step_index", "row_index"] b
  return ⟨← f.required "step_index" Readable.nat64?, ← f.required "row_index" Readable.nat64?⟩

def toJson (p : ResumePoint) : Json :=
  .obj [("step_index", .ofNat p.stepIndex), ("row_index", .ofNat p.rowIndex)]

end ResumePoint

def RunReport.toJson (r : RunReport) : Json :=
  .obj [("outcome", r.outcome.toJson), ("resume", .ofOption ResumePoint.toJson r.resume),
    ("learned_handlers", .arr (r.learned.map Handler.toJson)),
    ("rows_processed", .ofNat r.rowsProcessed)]

end FormReplay
