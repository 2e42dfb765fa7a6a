/-!
# Structural issues

What can be wrong with the structure of a step list, each with the index of the step at fault.
-/
namespace FormReplay

inductive StructuralIssue where
  | unmatchedLoopEnd (index : Nat) (loopRef : Option String)
  | unclosedLoop (index : Nat)
  | unmatchedElse (index : Nat)
  | duplicateElse (index ifIndex : Nat)
  | unmatchedIfEnd (index : Nat)
  | unclosedIf (index : Nat)
  | duplicateLabel (name : String) (index first : Nat)
  | unknownLabel (index : Nat) (label : String)
  deriving DecidableEq, Repr

namespace StructuralIssue

def index : StructuralIssue → Nat
  | .unmatchedLoopEnd i _ => i
  | .unclosedLoop i       => i
  | .unmatchedElse i      => i
  | .duplicateElse i _    => i
  | .unmatchedIfEnd i     => i
  | .unclosedIf i         => i
  | .duplicateLabel _ i _ => i
  | .unknownLabel i _     => i

def name : StructuralIssue → String
  | .unmatchedLoopEnd .. => "UnmatchedLoopEnd"
  | .unclosedLoop ..     => "UnclosedLoop"
  | .unmatchedElse ..    => "UnmatchedElse"
  | .duplicateElse ..    => "DuplicateElse"
  | .unmatchedIfEnd ..   => "UnmatchedIfEnd"
  | .unclosedIf ..       => "UnclosedIf"
  | .duplicateLabel ..   => "DuplicateLabel"
  | .unknownLabel ..     => "UnknownLabel"

def message : StructuralIssue → String
  | .unmatchedLoopEnd i none       => s!"loop-end at step {i} has no matching loop-start"
  | .unmatchedLoopEnd i (some ref) =>
    s!"loop-end at step {i} has no matching loop-start (loopRef '{ref}')"
  | .unclosedLoop i                => s!"loop-start at step {i} is never closed"
  | .unmatchedElse i               => s!"else at step {i} has no open if-start"
  | .duplicateElse i f             => s!"second else at step {i} for if-start at step {f}"
  | .unmatchedIfEnd i              => s!"if-end at step {i} has no open if-start"
  | .unclosedIf i                  => s!"if-start at step {i} is never closed"
  | .duplicateLabel n i f          => s!"label '{n}' at step {i} duplicates step {f}"
  | .unknownLabel i l              => s!"step {i} jumps to unknown label '{l}'"

end StructuralIssue

end FormReplay
