import FormReplay.Sorting
import FormReplay.Structure.Issue
import FormReplay.Workflow.Step
/-!
# Pairing loops

One scan pairs every start of a loop with its end.  An end that names a loop closes the innermost
open loop of that id, even while loops opened later are still open; an end that names none closes
the innermost open loop.
-/
namespace FormReplay

abbrev Jumps := List (Nat × Nat)

def Jumps.target? (jumps : Jumps) (i : Nat) : Option Nat := (jumps.find? (·.1 == i)).map (·.2)

def Jumps.sorted (jumps : Jumps) : Jumps := sortBy (·.1) jumps

structure OpenLoop where
  index : Nat
  id    : Option String
  deriving DecidableEq, Repr

/-- Closes a loop of a stack whose innermost loop comes first: which one, and what stays open. -/
def closeLoop (loopRef : Option String) : List OpenLoop → Option (OpenLoop × List OpenLoop)
  | [] => none
  | o :: rest =>
    if loopRef = none ∨ o.id = loopRef then some (o, rest)
    else (closeLoop loopRef rest).map fun (p, open_) => (p, o :: open_)

structure LoopPairs where
  pairs  : Jumps := []
  issues : List StructuralIssue := []
  deriving DecidableEq, Repr

def scanLoops (i : Nat) (stack : List OpenLoop) : List Step → LoopPairs
  | [] => { issues := stack.reverse.map fun o => .unclosedLoop o.index }
  | s :: rest =>
    match s.kind with
    | .loopStart spec => scanLoops (i + 1) (⟨i, spec.id⟩ :: stack) rest
    | .loopEnd loopRef =>
      match closeLoop loopRef stack with
      | some (o, stack) =>
        let found := scanLoops (i + 1) stack rest
        { found with pairs := (o.index, i) :: found.pairs }
      | none =>
        let found := scanLoops (i + 1) stack rest
        { found with issues := .unmatchedLoopEnd i loopRef :: found.issues }
    | _ => scanLoops (i + 1) stack rest

def findLoopPairs (steps : List Step) : LoopPairs :=
  let found := scanLoops 0 [] steps
  { found with pairs := found.pairs.sorted }

end FormReplay
