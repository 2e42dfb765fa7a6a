import FormReplay.Structure.JumpTables
/-!
# Blocks

A block is a structured program: steps, conditionals and loops, nested to any depth.  It can be laid flat
into a step list, and the jumps of that list can be read off the block without any scan.
-/
namespace FormReplay

/-- What a step carries beside its kind. -/
structure Mark where
  id      : Option String := none
  onError : Option ErrorPolicy := none

def Mark.step (m : Mark) (kind : StepKind) : Step := { id := m.id, kind, onError := m.onError }

/-- The steps that do nothing but signal to the loop around them. -/
inductive Leap where
  | continueLoop
  | breakLoop
  | repeatLoop
  deriving DecidableEq, Repr

def Leap.kind : Leap → StepKind
  | .continueLoop => .continueLoop
  | .breakLoop    => .breakLoop
  | .repeatLoop   => .repeatLoop

/-- A sequence of constructs; `rest` is what follows one. -/
inductive Block where
  | done
  | action (mark : Mark) (kind : ActionKind) (spec : ActionSpec) (rest : Block)
  | label (mark : Mark) (name : String) (rest : Block)
  | leap (mark : Mark) (way : Leap) (rest : Block)
  | ifThen (start stop : Mark) (condition : Condition) (body rest : Block)
  | ifElse (start middle stop : Mark) (condition : Condition) (body other rest : Block)
  /-- The end of a loop names it, if it has an id, or leaves it unnamed. -/
  | loop (start stop : Mark) (spec : LoopSpec) (named : Bool) (body rest : Block)

namespace Block

def flatten : Block → List Step
  | done => []
  | action m kind spec rest => m.step (.action kind spec) :: rest.flatten
  | label m name rest => m.step (.label name) :: rest.flatten
  | leap m way rest => m.step way.kind :: rest.flatten
  | ifThen m stop c body rest =>
    m.step (.ifStart c) :: (body.flatten ++ stop.step .ifEnd :: rest.flatten)
  | ifElse m middle stop c body other rest =>
    m.step (.ifStart c) :: (body.flatten ++ middle.step .otherwise ::
      (other.flatten ++ stop.step .ifEnd :: rest.flatten))
  | loop m stop spec named body rest =>
    m.step (.loopStart spec) :: (body.flatten ++
      stop.step (.loopEnd (if named then spec.id else none)) :: rest.flatten)

def size : Block → Nat
  | done => 0
  | action _ _ _ rest | label _ _ rest | leap _ _ rest => rest.size + 1
  | ifThen _ _ _ body rest => body.size + rest.size + 2
  | ifElse _ _ _ _ body other rest => body.size + other.size + rest.size + 3
  | loop _ _ _ _ body rest => body.size + rest.size + 2

@[simp] theorem length_flatten (b : Block) : b.flatten.length = b.size := by
  induction b with
  | done => rfl
  | action _ _ _ _ ih | label _ _ _ ih | leap _ _ _ ih => simp [flatten, size, ih]
  | ifThen _ _ _ _ _ ihBody ihRest | loop _ _ _ _ _ _ ihBody ihRest =>
    simp [flatten, size, ihBody, ihRest]
    omega
  | ifElse _ _ _ _ _ _ _ ihBody ihOther ihRest =>
    simp [flatten, size, ihBody, ihOther, ihRest]
    omega

def hasLoops : Block → Bool
  | done => false
  | action _ _ _ rest | label _ _ rest | leap _ _ rest => rest.hasLoops
  | ifThen _ _ _ body rest => body.hasLoops || rest.hasLoops
  | ifElse _ _ _ _ body other rest => body.hasLoops || other.hasLoops || rest.hasLoops
  | loop .. => true

end Block

/-! ## Jumps -/

inductive Link where
  | loopToEnd
  | ifToElse
  | ifToEnd
  | elseToEnd
  deriving DecidableEq, Repr

def JumpTables.jumps (t : JumpTables) : Link → Jumps
  | .loopToEnd => t.loopToEnd
  | .ifToElse  => t.ifToElse
  | .ifToEnd   => t.ifToEnd
  | .elseToEnd => t.elseToEnd

namespace Block

def pick (link own : Link) (start stop : Nat) : Jumps := if own = link then [(start, stop)] else []

/-- The jumps of one kind in a block whose first step has this index, by rising start. -/
def jumps (link : Link) (i : Nat) : Block → Jumps
  | done => []
  | action _ _ _ rest | label _ _ rest | leap _ _ rest => rest.jumps link (i + 1)
  | ifThen _ _ _ body rest =>
    let stop := i + body.size + 1
    pick link .ifToEnd i stop ++ body.jumps link (i + 1) ++ rest.jumps link (stop + 1)
  | ifElse _ _ _ _ body other rest =>
    let middle := i + body.size + 1
    let stop := middle + other.size + 1
    pick link .ifToElse i middle ++ pick link .ifToEnd i stop ++ body.jumps link (i + 1) ++
      pick link .elseToEnd middle stop ++ other.jumps link (middle + 1) ++ rest.jumps link (stop + 1)
  | loop _ _ _ _ body rest =>
    let stop := i + body.size + 1
    pick link .loopToEnd i stop ++ body.jumps link (i + 1) ++ rest.jumps link (stop + 1)

end Block

def labelsFrom (i : Nat) : List Step → Labels
  | [] => []
  | s :: rest =>
    match s.kind with
    | .label name => (name, i) :: labelsFrom (i + 1) rest
    | _           => labelsFrom (i + 1) rest

/-- The tables of a block: each construct with its own else and its own end. -/
def Block.tables (b : Block) : JumpTables where
  loopToEnd := b.jumps .loopToEnd 0
  ifToElse  := b.jumps .ifToElse 0
  ifToEnd   := b.jumps .ifToEnd 0
  elseToEnd := b.jumps .elseToEnd 0
  labels    := labelsFrom 0 b.flatten

end FormReplay
