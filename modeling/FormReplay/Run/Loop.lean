import FormReplay.Data.Detail
import FormReplay.Run.Attempt
/-!
# Loops

A loop is run over a body that is any engine action with a signal.  The body of an iteration may ask
for the iteration to be repeated, and is granted so many repeats in a row; one more request goes on
to the next iteration instead.  A break or a goto ends the loop.
-/
namespace FormReplay

variable {σ : Type}

inductive Verdict where
  | advance
  | leave
  | bubble (target : Nat)
  deriving DecidableEq, Repr

def Signal.verdict : Signal → Verdict
  | .breakLoop   => .leave
  | .goto target => .bubble target
  | _            => .advance

/-- Executes one position, with so many repeats left.  The body is told whether the execution is the
first at this position. -/
def settlePosition (body : Bool → Engine σ Signal) (first : Bool) : Nat → Engine σ Verdict
  | 0 => do return (← body first).verdict
  | left + 1 => do
    match ← body first with
    | .repeatLoop => settlePosition body false left
    | signal      => return signal.verdict

/-- Executes positions from `position` on, as many as given. -/
def overPositions (body : Nat → Bool → Engine σ Signal) (repeatLimit position : Nat) :
    Nat → Engine σ Signal
  | 0 => return .next
  | n + 1 => do
    match ← settlePosition (body position) true repeatLimit with
    | .advance       => overPositions body repeatLimit (position + 1) n
    | .leave         => return .next
    | .bubble target => return .goto target

/-- Executes the body while the condition holds, at most so many times, repeats counted.  The body
is told how many executions before it advanced. -/
def whileHolds (holds : Engine σ Bool) (body : Nat → Engine σ Signal) (repeatLimit : Nat)
    (iteration repeats : Nat) : Nat → Engine σ Signal
  | 0 => return .next
  | n + 1 => do
    if !(← holds) then return .next
    match ← body iteration with
    | .repeatLoop =>
      if repeats < repeatLimit then whileHolds holds body repeatLimit iteration (repeats + 1) n
      else whileHolds holds body repeatLimit (iteration + 1) 0 n
    | .breakLoop   => return .next
    | .goto target => return .goto target
    | _            => whileHolds holds body repeatLimit (iteration + 1) 0 n

/-! ## Rows -/

structure LoopRows where
  source    : String
  isPrimary : Bool
  items     : List Record

/-- The rows of the loop over a source: the primary ones, or those of a detail dataset that belong
to the row around.  An unknown dataset has none. -/
def Program.loopRows (p : Program) (source : Option String) (row : DataRow) : LoopRows :=
  let primary := p.input.primary
  match source with
  | none => ⟨primary.name, true, primary.rows⟩
  | some name =>
    if name = primary.name then ⟨primary.name, true, primary.rows⟩
    else
      match p.input.detail? name with
      | none => ⟨name, false, []⟩
      | some dataset =>
        ⟨name, false, (selectDetailRows dataset p.workflow.settings.relationships row).rows⟩

def beginRow (env : Env σ) (p : Program) (position : Nat) (row : DataRow) : Engine σ Unit := do
  let index := p.rowOffset + position
  modifyContext fun c =>
    { c with rowIndex := index, row := row, rowsProcessed := c.rowsProcessed + 1 }
  report env (.rowStarted index)

/-- Makes a merged row the current one.  A primary row begins at its first execution. -/
def enterRow (env : Env σ) (p : Program) (isPrimary first : Bool) (position : Nat) (row : DataRow) :
    Engine σ Unit :=
  if isPrimary && first then beginRow env p position row
  else modifyContext fun c => { c with row := row }

def limited (limit : Option UInt64) (items : List Record) : List Record :=
  match limit with
  | some n => items.take n.toNat
  | none   => items

/-! ## The three kinds of loop -/

/-- Runs the loop that starts at a step.  `body` runs the steps inside against a row. -/
def runLoop (env : Env σ) (p : Program) (start : Nat) (spec : LoopSpec) (row : DataRow)
    (body : DataRow → Engine σ Signal) : Engine σ Signal := do
  let limit := env.config.repeatLimit
  match spec.mode with
  | .count times =>
    overPositions (fun i _ => do
        checkpoint env
        report env (.loopIteration start i spec.id)
        body row)
      limit 0 times.toNat
  | .whileHolds condition most =>
    whileHolds (do
        checkpoint env
        modifyContext fun c => { c with stepIndex := start }
        evaluate env row condition)
      (fun i => do
        report env (.loopIteration start i spec.id)
        body row)
      limit 0 0 ((most.map UInt64.toNat).getD env.config.loopLimit)
  | .data source most =>
    let rows := p.loopRows source row
    let items := (limited most rows.items).toArray
    let signal ← overPositions (fun i first => do
        checkpoint env
        let merged := row.mergeItem rows.source (items.getD i .empty)
        enterRow env p rows.isPrimary first i merged
        report env (.loopIteration start i spec.id)
        body merged)
      limit 0 items.size
    modifyContext fun c => { c with row := row }
    return signal

end FormReplay
