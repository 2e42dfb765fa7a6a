import FormReplay.Structure.IfPairs
import FormReplay.Workflow.Basic
/-!
# Jump tables

Everything that the walk over a step list looks up: the partners of loops and conditionals and the
places of labels.  The tables are derived afresh for each run, and the issues found on the way are
returned beside them.
-/
namespace FormReplay

/-- The labels by name; the first label of a name counts. -/
abbrev Labels := List (String × Nat)

def scanLabels (i : Nat) (known : Labels) : List Step → Labels × List StructuralIssue
  | [] => (known, [])
  | s :: rest =>
    match s.kind with
    | .label name =>
      match field? name known with
      | some first =>
        let (labels, issues) := scanLabels (i + 1) known rest
        (labels, .duplicateLabel name i first :: issues)
      | none => scanLabels (i + 1) (known ++ [(name, i)]) rest
    | _ => scanLabels (i + 1) known rest

def findLabels (steps : List Step) : Labels × List StructuralIssue := scanLabels 0 [] steps

structure JumpTables where
  loopToEnd : Jumps := []
  ifToElse  : Jumps := []
  ifToEnd   : Jumps := []
  elseToEnd : Jumps := []
  labels    : Labels := []
  deriving DecidableEq, Repr

namespace JumpTables

def label? (t : JumpTables) (name : String) : Option Nat := field? name t.labels

def hasLoops (t : JumpTables) : Bool := !t.loopToEnd.isEmpty

end JumpTables

def gotoIssues (labels : Labels) (steps : List Step) : List StructuralIssue :=
  steps.zipIdx.filterMap fun (s, i) =>
    match s.kind with
    | .goto name => if (field? name labels).isNone then some (.unknownLabel i name) else none
    | _          => none

def analyzeSteps (steps : List Step) : JumpTables × List StructuralIssue :=
  let loops := findLoopPairs steps
  let ifs := findIfPairs steps
  let (labels, labelIssues) := findLabels steps
  (⟨loops.pairs, ifs.ifToElse, ifs.ifToEnd, ifs.elseToEnd, labels⟩,
    loops.issues ++ ifs.issues ++ labelIssues ++ gotoIssues labels steps)

/-- Ordinary steps whose policy goes to a label that is not there; a policy that names no label
goes to the empty one. -/
def policyIssues (w : Workflow) (labels : Labels) : List StructuralIssue :=
  w.steps.zipIdx.filterMap fun (s, i) =>
    let policy := w.effectivePolicy s
    let name := policy.gotoLabel.getD ""
    if s.isAction && policy.mode == .goto && (field? name labels).isNone then
      some (.unknownLabel i name)
    else none

def Workflow.analyze (w : Workflow) : JumpTables × List StructuralIssue :=
  let (tables, issues) := analyzeSteps w.steps
  (tables, issues ++ policyIssues w tables.labels)

end FormReplay
