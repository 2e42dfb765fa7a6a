import FormReplay.Structure.LoopPairs
/-!
# Pairing conditionals

One scan pairs every start of a conditional with its end, and with its else if there is one.
-/
namespace FormReplay

structure OpenIf where
  index     : Nat
  elseIndex : Option Nat := none
  deriving DecidableEq, Repr

structure IfPairs where
  ifToElse  : Jumps := []
  ifToEnd   : Jumps := []
  elseToEnd : Jumps := []
  issues    : List StructuralIssue := []
  deriving DecidableEq, Repr

namespace IfPairs

def addIssue (p : IfPairs) (issue : StructuralIssue) : IfPairs := { p with issues := issue :: p.issues }

def addBlock (p : IfPairs) (o : OpenIf) (stop : Nat) : IfPairs :=
  let p := { p with ifToEnd := (o.index, stop) :: p.ifToEnd }
  match o.elseIndex with
  | some e => { p with ifToElse := (o.index, e) :: p.ifToElse, elseToEnd := (e, stop) :: p.elseToEnd }
  | none   => p

end IfPairs

/-- Scans the steps from index `i` on, with these conditionals open, the innermost first. -/
def scanIfs (i : Nat) (stack : List OpenIf) : List Step → IfPairs
  | [] => { issues := stack.reverse.map fun o => .unclosedIf o.index }
  | s :: rest =>
    match s.kind with
    | .ifStart _ => scanIfs (i + 1) (⟨i, none⟩ :: stack) rest
    | .otherwise =>
      match stack with
      | [] => (scanIfs (i + 1) [] rest).addIssue (.unmatchedElse i)
      | ⟨f, none⟩ :: outer => scanIfs (i + 1) (⟨f, some i⟩ :: outer) rest
      | ⟨f, some e⟩ :: outer =>
        (scanIfs (i + 1) (⟨f, some e⟩ :: outer) rest).addIssue (.duplicateElse i f)
    | .ifEnd =>
      match stack with
      | []         => (scanIfs (i + 1) [] rest).addIssue (.unmatchedIfEnd i)
      | o :: outer => (scanIfs (i + 1) outer rest).addBlock o i
    | _ => scanIfs (i + 1) stack rest

def findIfPairs (steps : List Step) : IfPairs :=
  let found := scanIfs 0 [] steps
  { found with
    ifToElse  := found.ifToElse.sorted
    ifToEnd   := found.ifToEnd.sorted
    elseToEnd := found.elseToEnd.sorted }

end FormReplay
