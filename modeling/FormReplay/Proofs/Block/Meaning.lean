import FormReplay.Proofs.Block.Basic
import FormReplay.Run.Walk
/-!
# What a block means

A block is executed by recursion on the block.  A conditional runs exactly one of its bodies.  A signal to a loop
ends every sequence up to the body of the innermost loop around it, and that loop alone decides how to go on.  No
jump table is looked up and no index is walked; the index of a step only tells its reports where it is.
-/
namespace FormReplay

variable {σ : Type}

def Leap.signal : Leap → Signal
  | .continueLoop => .continueLoop
  | .breakLoop    => .breakLoop
  | .repeatLoop   => .repeatLoop

/-- Goes on if all went well, and gives any other signal back. -/
def andThen (x k : Engine σ Signal) : Engine σ Signal := do
  match ← x with
  | .next => k
  | signal => return signal

/-! ## Loops -/

/-- Runs a body at one place after the other.  A break is the end.  A repeat runs the body again at the same place,
so many times in a row at most.  All else goes on to the next place. -/
def through (limit count : Nat) (body : (place repeats : Nat) → Engine σ Signal) (place repeats : Nat) :
    Engine σ Unit := do
  if place < count then
    match ← body place repeats with
    | .breakLoop => return
    | .repeatLoop =>
      if repeats < limit then through limit count body place (repeats + 1)
      else through limit count body (place + 1) 0
    | _ => through limit count body (place + 1) 0
termination_by (count - place, limit - repeats)

/-- Runs a body while a condition holds, at most so many times, repeats among them. -/
def whilst (limit : Nat) (holds : Engine σ Bool) (body : Nat → Engine σ Signal) (round repeats : Nat) :
    Nat → Engine σ Unit
  | 0 => return
  | n + 1 => do
    if ← holds then
      match ← body round with
      | .breakLoop => return
      | .repeatLoop =>
        if repeats < limit then whilst limit holds body round (repeats + 1) n
        else whilst limit holds body (round + 1) 0 n
      | _ => whilst limit holds body (round + 1) 0 n

/-- A loop over a body: so many times, while a condition holds, or once for each row that belongs to it. -/
def execLoop (env : Env σ) (p : Program) (start : Nat) (spec : LoopSpec) (row : DataRow)
    (body : DataRow → Engine σ Signal) : Engine σ Unit := do
  let limit := env.config.repeatLimit
  match spec.mode with
  | .count times =>
    through limit times.toNat (fun i _ => do
        report env (.loopIteration start i spec.id)
        body row)
      0 0
  | .whileHolds condition most =>
    whilst limit (do
        modifyContext fun c => { c with stepIndex := start }
        evaluate env row condition)
      (fun i => do
        report env (.loopIteration start i spec.id)
        body row)
      0 0 ((most.map UInt64.toNat).getD env.config.loopLimit)
  | .data source most =>
    let rows := p.loopRows source row
    let items := limited most rows.items
    through limit items.length (fun i repeats => do
        let merged := row.mergeItem rows.source (items.getD i .empty)
        enterRow env p rows.isPrimary (repeats == 0) i merged
        report env (.loopIteration start i spec.id)
        body merged)
      0 0
    modifyContext fun c => { c with row := row }

/-! ## Blocks -/

namespace Block

/-- Executes a block against a row.  The index is that of its first step. -/
def exec (env : Env σ) (p : Program) : Nat → Block → DataRow → Engine σ Signal
  | _, done, _ => return .next
  | i, action m kind spec rest, row => do
    visit i
    match ← executeStep env p i (m.step (.action kind spec)) row with
    | .next | .skip => rest.exec env p (i + 1) row
    | signal => return signal
  | i, label _ _ rest, row => rest.exec env p (i + 1) row
  | i, leap _ way _, _ => do
    visit i
    return way.signal
  | i, ifThen _ _ c body rest, row => do
    visit i
    if ← evaluate env row c then
      andThen (body.exec env p (i + 1) row) (rest.exec env p (i + body.size + 2) row)
    else rest.exec env p (i + body.size + 2) row
  | i, ifElse _ _ _ c body other rest, row => do
    visit i
    let last := i + body.size + 1 + other.size + 1
    if ← evaluate env row c then andThen (body.exec env p (i + 1) row) (rest.exec env p (last + 1) row)
    else andThen (other.exec env p (i + body.size + 2) row) (rest.exec env p (last + 1) row)
  | i, loop _ _ spec _ body rest, row => do
    visit i
    execLoop env p i spec row fun row => body.exec env p (i + 1) row
    rest.exec env p (i + body.size + 2) row

def execRows (env : Env σ) (p : Program) (b : Block) (position : Nat) : List DataRow → Engine σ Unit
  | [] => pure ()
  | row :: rest => do
    beginRow env p position row
    checkEscaped (← b.exec env p 0 row)
    b.execRows env p (position + 1) rest

/-- Executes a block as a program: once if it has loops, or else once for each primary row. -/
def execProgram (env : Env σ) (p : Program) (b : Block) : Engine σ Unit := do
  if b.hasLoops then checkEscaped (← b.exec env p 0 .empty) else b.execRows env p 0 p.rows

end Block

/-! ## Sequences -/

theorem andThen_bind {α : Type} (x : Engine σ α) (f : α → Engine σ Signal) (k : Engine σ Signal) :
    andThen (x >>= f) k = x >>= fun a => andThen (f a) k := bind_assoc _ _ _

theorem andThen_ite {c : Prop} [Decidable c] (x y k : Engine σ Signal) :
    andThen (if c then x else y) k = if c then andThen x k else andThen y k := by
  split <;> rfl

theorem andThen_assoc (x y z : Engine σ Signal) : andThen (andThen x y) z = andThen x (andThen y z) := by
  simp only [andThen, bind_assoc]
  congr 1
  funext signal
  cases signal <;> rfl

theorem andThen_next (x : Engine σ Signal) : andThen x (pure .next) = x := by
  have hpure : ∀ signal : Signal, (match signal with | .next => pure .next | signal => pure signal : Engine σ Signal) =
      pure signal := by
    intro signal
    cases signal <;> rfl
  simp only [andThen, hpure, bind_pure]

end FormReplay
