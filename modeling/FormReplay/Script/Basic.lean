import FormReplay.Interruption.Decision
import FormReplay.Run.Error
import FormReplay.Surface.Element
/-!
# Scripts

A script is a host written down: what is on the surface, what fails, what the surface and the
operator do in response, and what happens at which instant.  Workflows are rehearsed against it.
-/
namespace FormReplay

/-- The calls that a rule is about, counted from one, both ends included. -/
structure Calls where
  first : Nat
  last  : Nat
  deriving DecidableEq, Repr

/-- Whether a call is one of those, where none given means all. -/
def Calls.cover (calls : Option Calls) (n : Nat) : Bool :=
  match calls with
  | some c => c.first ≤ n && n ≤ c.last
  | none   => true

/-- A decision that may be left without an id, to be addressed when it is sent. -/
structure Draft where
  id       : Option RequestId
  decision : Decision
  deriving DecidableEq, Repr

def Draft.addressed (d : Draft) (id : RequestId) : Decision :=
  { d.decision with id := d.id.getD id }

inductive Effect where
  | stop
  | pause
  | resume
  | reveal (event : Event)
  | clear
  | put (target : String) (state : ElementState)
  /-- Send a decision, with the id of the latest request if it has none. -/
  | answer (draft : Draft)
  deriving DecidableEq, Repr

structure Failing where
  /-- The target or control of the call; all of them if there is none. -/
  subject : Option String := none
  calls   : Option Calls := none
  error   : RunError

structure Reaction where
  subject : String
  calls   : Option Calls := none
  effects : List Effect := []
  error   : Option RunError := none

structure Hook where
  event   : String
  nth     : Nat
  effects : List Effect

structure Cue where
  time    : Nat
  effects : List Effect

inductive Clip where
  | text (s : String)
  | nothing
  | failure (e : RunError)

structure Operator where
  /-- The answers in turn; none is silence. -/
  answers  : List (Option Draft)
  fallback : Option Draft := none
  /-- Whether a decision with a foreign id comes before each answer. -/
  stale    : Bool := false
  error    : Option RunError := none

structure Script where
  elements        : List (String × ElementState) := []
  inspectErrors   : List Failing := []
  events          : List Event := []
  detectErrors    : List Failing := []
  pressErrors     : List Failing := []
  pressReactions  : List Reaction := []
  /-- Whether events stay although they are dealt with. -/
  sticky          : Bool := false
  stepReactions   : List Reaction := []
  /-- The items in turn, the last one for ever. -/
  clipboard       : Option (List Clip) := none
  operator        : Option Operator := none
  hooks           : List Hook := []
  timeline        : List Cue := []
  /-- The host loses patience, and stops the run, one millisecond after each multiple of this. -/
  patience        : Nat := 60000

/-- The error of a failing call: that of the first rule which is about it. -/
def failure? (rules : List Failing) (subject : String) (n : Nat) : Option RunError :=
  (rules.find? fun r => (r.subject.all (· == subject)) && Calls.cover r.calls n).map (·.error)

end FormReplay
