import FormReplay.Json.Decode
import FormReplay.Run.Error
import FormReplay.Text.Case
/-!
# Configuration

The limits and intervals of the engine, with their defaults, and how they are read from the
variables of an environment.  All intervals are milliseconds.
-/
namespace FormReplay

structure Config where
  /-- How often a while loop without a limit of its own runs its body at most. -/
  loopLimit : Nat := 100
  /-- How many interruptions one pass deals with at most. -/
  passDepth : Nat := 6
  decisionPoll : Nat := 250
  pausePoll : Nat := 200
  /-- What the surface is given to settle after an interruption that redirects the flow. -/
  settleDelay : Nat := 300
  /-- How often a blocking dialog is looked at while it stalls the run. -/
  stallPoll : Nat := 500
  waitTimeout : Nat := 10000
  waitPoll : Nat := 100
  /-- How often one iteration of a loop is repeated in a row at most. -/
  repeatLimit : Nat := 25
  deriving DecidableEq, Repr

namespace Config

/-- The shortest intervals and no settling, with the limits as they are. -/
def immediate : Config :=
  { decisionPoll := 1, pausePoll := 1, settleDelay := 0, stallPoll := 1, waitPoll := 1 }

structure Field where
  name : String
  set  : Nat → Config → Config

def fields : List Field :=
  [⟨"loop_max_iterations", fun n c => { c with loopLimit := n }⟩,
   ⟨"interruption_max_depth", fun n c => { c with passDepth := n }⟩,
   ⟨"decision_poll_interval_ms", fun n c => { c with decisionPoll := n }⟩,
   ⟨"pause_poll_interval_ms", fun n c => { c with pausePoll := n }⟩,
   ⟨"stabilization_delay_ms", fun n c => { c with settleDelay := n }⟩,
   ⟨"stall_poll_interval_ms", fun n c => { c with stallPoll := n }⟩,
   ⟨"wait_timeout_ms", fun n c => { c with waitTimeout := n }⟩,
   ⟨"wait_poll_interval_ms", fun n c => { c with waitPoll := n }⟩,
   ⟨"repeat_limit", fun n c => { c with repeatLimit := n }⟩]

def toJson (c : Config) : Json :=
  .obj [("loop_max_iterations", .ofNat c.loopLimit), ("interruption_max_depth", .ofNat c.passDepth),
    ("decision_poll_interval_ms", .ofNat c.decisionPoll),
    ("pause_poll_interval_ms", .ofNat c.pausePoll),
    ("stabilization_delay_ms", .ofNat c.settleDelay),
    ("stall_poll_interval_ms", .ofNat c.stallPoll), ("wait_timeout_ms", .ofNat c.waitTimeout),
    ("wait_poll_interval_ms", .ofNat c.waitPoll), ("repeat_limit", .ofNat c.repeatLimit)]

def ofTree? {β : Type} [Readable β] (b : β) : Option Config := do
  let f ← Readable.fields? (fields.map Field.name) b
  fields.foldlM (fun c field => do
    match ← f.single? field.name with
    | some v => return field.set (← Readable.nat64? v) c
    | none   => return c) {}

/-! ## The environment -/

def isAsciiDigit (c : Char) : Bool := '0' ≤ c && c ≤ '9'

/-- Appends digits to a number while it fits 64 bits; the first fault from the left counts. -/
def appendDigits (n : Nat) : List Char → Except NumberFault Nat
  | [] => .ok n
  | c :: rest =>
    if !isAsciiDigit c then .error .badDigit
    else
      let m := n * 10 + (c.toNat - '0'.toNat)
      if m < Nat.pow 2 64 then appendDigits m rest else .error .tooLarge

def readWord (s : String) : Except NumberFault Nat :=
  match s.toList with
  | []        => .error .empty
  | ['+']     => .error .badDigit
  | '+' :: cs => appendDigits 0 cs
  | cs        => appendDigits 0 cs

def variableStart : List Char := "FORMRUN_".toList

def variableName? (name : String) : Option String :=
  let cs := name.toList
  if variableStart.isPrefixOf cs then some (String.ofList (cs.drop variableStart.length)) else none

/-- Reads the variables in turn; `seen` holds the fields set so far.  The case of a name does not
matter after the common start, and unknown names are passed over. -/
def readVariables (c : Config) (seen : List String) :
    List (String × String) → Except ConfigFault Config
  | [] => .ok c
  | (key, value) :: rest =>
    match variableName? key with
    | none => readVariables c seen rest
    | some name =>
      match fields.find? fun f => f.name == String.ofList (lower name.toList) with
      | none => readVariables c seen rest
      | some f =>
        if seen.contains f.name then .error (.repeated f.name)
        else
          match readWord value with
          | .ok n      => readVariables (f.set n c) (f.name :: seen) rest
          | .error why => .error (.badNumber why value name)

def ofEnvironment (env : List (String × String)) : Except RunError Config :=
  match readVariables {} [] env with
  | .ok c        => .ok c
  | .error fault => .error (.config fault)

end Config

end FormReplay
