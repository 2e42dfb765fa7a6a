import FormReplay.Run.Loop
/-!
# Walking the steps

A frame walks a range of the step list by index.  Labels, gotos and conditionals move the index
within the frame, and a loop opens a frame of its own for every execution of its body.  A frame
never moves outside its range: where a jump leads out, it ends with the goto as its signal.
-/
namespace FormReplay

variable {σ : Type}

inductive Move where
  | advance (index : Nat)
  | jump (target : Nat)
  | leave (signal : Signal)
  deriving DecidableEq, Repr

def Signal.move (index : Nat) : Signal → Move
  | .next | .skip => .advance (index + 1)
  | .goto target  => .jump target
  | signal        => .leave signal

/-- Where a frame goes after a loop, which consumes all signals but a goto. -/
def Signal.moveAfterLoop (loopEnd : Nat) : Signal → Move
  | .goto target => .jump target
  | _            => .advance (loopEnd + 1)

def target (jumps : Jumps) (index : Nat) (fault : StructuralFault) : Engine σ Nat :=
  match jumps.target? index with
  | some t => return t
  | none   => fail (.structural fault)

/-- Where a conditional goes whose condition does not hold: behind its else, or its end. -/
def skipBranch (tables : JumpTables) (index : Nat) : Engine σ Nat := do
  let stop ← target tables.ifToEnd index (.missingIfEnd index)
  return (tables.ifToElse.target? index).getD stop + 1

/-- Executes the step at an index.  `frame` runs a range of steps against a row. -/
def dispatch (env : Env σ) (p : Program) (frame : Nat → Nat → DataRow → Engine σ Signal)
    (index : Nat) (step : Step) (row : DataRow) : Engine σ Move := do
  match step.kind with
  | .label _ | .ifEnd | .loopEnd _ => return .advance (index + 1)
  | .goto label =>
    match p.tables.label? label with
    | some t => return .jump t
    | none   => fail (.structural (.unknownGoto index label))
  | .ifStart condition =>
    if ← evaluate env row condition then return .advance (index + 1)
    else return .advance (← skipBranch p.tables index)
  | .otherwise => return .advance ((← target p.tables.elseToEnd index (.missingElseEnd index)) + 1)
  | .continueLoop => return .leave .continueLoop
  | .breakLoop    => return .leave .breakLoop
  | .repeatLoop   => return .leave .repeatLoop
  | .loopStart spec =>
    let stop ← target p.tables.loopToEnd index (.missingLoopEnd index)
    let signal ← runLoop env p index spec row (frame (index + 1) stop)
    return signal.moveAfterLoop stop
  | .action .. => return (← executeStep env p index step row).move index

def visit (index : Nat) : Engine σ Unit := do
  modifyContext fun c => { c with stepIndex := index }
  note (.visited index)

/-- Opens a frame over the range from `first` up to, not including, `last`. -/
def inFrame (first last : Nat) (row : DataRow) (body : Engine σ Signal) : Engine σ Signal := do
  note (.entered first last row)
  let signal ← body
  note (.left signal)
  return signal

def walk (env : Env σ) (p : Program) :
    Nat → (first last index : Nat) → DataRow → Engine σ Signal
  | 0, _, _, _, _ => outOfFuel
  | fuel + 1, first, last, index, row => do
    if last ≤ index then return .next
    checkpoint env
    visit index
    let some step := p.workflow.steps[index]? | fail (.structural (.noSuchStep index))
    let frame (a b : Nat) (row : DataRow) := inFrame a b row (walk env p fuel a b a row)
    match ← dispatch env p frame index step row with
    | .advance i => walk env p fuel first last i row
    | .jump t =>
      if first ≤ t ∧ t < last then walk env p fuel first last t row else return .goto t
    | .leave signal => return signal

def executeRange (env : Env σ) (p : Program) (first last : Nat) (row : DataRow) : Engine σ Signal :=
  inFrame first last row (walk env p env.fuel first last first row)

/-! ## The whole program -/

def checkEscaped (signal : Signal) : Engine σ Unit :=
  if signal.isAdvance then pure ()
  else if signal.isLoopControl then fail (.structural (.loopControlOutside signal))
  else fail (.structural (.outsideProgram signal))

/-- Executes the program once for each of the rows, the first of which has this position. -/
def executeRows (env : Env σ) (p : Program) (position : Nat) : List DataRow → Engine σ Unit
  | [] => pure ()
  | row :: rest => do
    checkpoint env
    beginRow env p position row
    checkEscaped (← executeRange env p 0 p.workflow.steps.length row)
    executeRows env p (position + 1) rest

def Program.rows (p : Program) : List DataRow :=
  let rows := p.input.primary.rows.map (DataRow.ofItem p.input.primary.name)
  if rows.isEmpty && p.runsWithoutRows then [.empty] else rows

/-- Executes the program: once if it has loops, which take their rows themselves, or else once for
each primary row. -/
def executeProgram (env : Env σ) (p : Program) : Engine σ Unit := do
  if p.tables.hasLoops then
    checkEscaped (← executeRange env p 0 p.workflow.steps.length .empty)
  else executeRows env p 0 p.rows

end FormReplay
