import FormReplay.Run.Host
import FormReplay.Script.Basic
import FormReplay.Sorting
/-!
# Playing a script

The host that plays a script.  Its state is the surface as it is now and how often each call was
made.
-/
namespace FormReplay

abbrev Tally := List (String × Nat)

namespace Tally

def count (t : Tally) (name : String) : Nat := (field? name t).getD 0

def add (t : Tally) (name : String) : Tally := putField name (t.count name + 1) t

end Tally

structure Stage where
  elements   : List (String × ElementState)
  events     : List Event
  answers    : List (Option Draft)
  latest     : RequestId := .given ""
  detects    : Nat := 0
  inspects   : Tally := []
  presses    : Tally := []
  executions : Tally := []
  clips      : Nat := 0
  progress   : Tally := []

namespace Script

def opening (s : Script) : Stage where
  elements := s.elements
  events   := s.events
  answers  := (s.operator.map (·.answers)).getD []

def perform (s : Script) (stage : Stage) : Effect → Stage × List HostAct
  | .stop         => (stage, [.stop])
  | .pause        => (stage, [.pause])
  | .resume       => (stage, [.resume])
  | .reveal e     => ({ stage with events := stage.events ++ [e] }, [])
  | .clear        => ({ stage with events := [] }, [])
  | .put target e => ({ stage with elements := putField target e stage.elements }, [])
  | .answer draft =>
    (stage, if s.operator.isSome then [.post (draft.addressed stage.latest)] else [])

def performAll (s : Script) (stage : Stage) : List Effect → Stage × List HostAct
  | [] => (stage, [])
  | e :: rest =>
    let (stage, acts) := s.perform stage e
    let (stage, more) := s.performAll stage rest
    (stage, acts ++ more)

def settle (s : Script) (stage : Stage) (e : Event) : Stage :=
  if s.sticky then stage
  else { stage with events := stage.events.filter fun other => other.patternKey != e.patternKey }

def press (s : Script) (stage : Stage) (e : Event) (control : String) : Reply Stage (Except RunError Unit) :=
  let stage := { stage with presses := stage.presses.add control }
  let n := stage.presses.count control
  match failure? s.pressErrors control n with
  | some error => ⟨.error error, stage, []⟩
  | none =>
    let reactions := s.pressReactions.filter fun r => r.subject == control && Calls.cover r.calls n
    let (stage, acts) := s.performAll (s.settle stage e) (reactions.flatMap (·.effects))
    ⟨.ok (), stage, acts⟩

/-- All reactions to a step take place, and then the first error among them is reported. -/
def execute (s : Script) (stage : Stage) (step : Step) : Reply Stage (Except RunError Unit) :=
  let name := step.target?.getD step.kind.typeName
  let stage := { stage with executions := stage.executions.add name }
  let n := stage.executions.count name
  let reactions := s.stepReactions.filter fun r => r.subject == name && Calls.cover r.calls n
  let (stage, acts) := s.performAll stage (reactions.flatMap (·.effects))
  match reactions.findSome? (·.error) with
  | some error => ⟨.error error, stage, acts⟩
  | none       => ⟨.ok (), stage, acts⟩

def readClip (s : Script) (stage : Stage) : Reply Stage (Except RunError (Option String)) :=
  let clips := s.clipboard.getD []
  let stage := { stage with clips := stage.clips + 1 }
  match clips[min stage.clips clips.length - 1]? with
  | some (.text t)    => ⟨.ok (some t), stage, []⟩
  | some (.failure e) => ⟨.error e, stage, []⟩
  | _                 => ⟨.ok none, stage, []⟩

def staleDecision : Decision := .ofPress (.given "stale-request") "OK"

def answerRequest (s : Script) (stage : Stage) (id : RequestId) : Reply Stage (Except RunError Unit) :=
  match s.operator with
  | none => ⟨.ok (), stage, []⟩
  | some o =>
    let stage := { stage with latest := id }
    match o.error with
    | some error => ⟨.error error, stage, []⟩
    | none =>
      let (draft, left) := match stage.answers with | [] => (o.fallback, []) | a :: rest => (a, rest)
      let stale := if o.stale then [HostAct.post staleDecision] else []
      ⟨.ok (), { stage with answers := left },
        stale ++ (draft.map fun d => HostAct.post (d.addressed id)).toList⟩

def answer (s : Script) (stage : Stage) : (q : Query) → Reply Stage (Except RunError q.Answer)
  | .detect =>
    let stage := { stage with detects := stage.detects + 1 }
    match failure? s.detectErrors "" stage.detects with
    | some error => ⟨.error error, stage, []⟩
    | none       => ⟨.ok stage.events, stage, []⟩
  | .press e control => s.press stage e control
  | .dismiss e => ⟨.ok (), s.settle stage e, []⟩
  | .inspect target =>
    let stage := { stage with inspects := stage.inspects.add target }
    match failure? s.inspectErrors target (stage.inspects.count target) with
    | some error => ⟨.error error, stage, []⟩
    | none       => ⟨.ok ((field? target stage.elements).getD .missing), stage, []⟩
  | .execute step _ => s.execute stage step
  | .clipboard => s.readClip stage
  | .resolve .. => ⟨.ok none, stage, []⟩
  | .judge .. => ⟨.ok false, stage, []⟩
  | .request r => s.answerRequest stage r.id

def observe (s : Script) (stage : Stage) (e : ProgressEvent) : Reply Stage Unit :=
  let stage := { stage with progress := stage.progress.add e.name }
  let n := stage.progress.count e.name
  let hooks := s.hooks.filter fun h => h.event == e.name && h.nth == n
  let (stage, acts) := s.performAll stage (hooks.flatMap (·.effects))
  ⟨(), stage, acts⟩

def lapses (s : Script) (time : Nat) : Nat := (time - 1) / s.patience

/-- The cues after one instant and up to another, by their time, those of one time in their order. -/
def cuesBetween (s : Script) (start stop : Nat) : List Cue :=
  sortBy (·.time) (s.timeline.filter fun c => start < c.time && c.time ≤ stop)

def elapse (s : Script) (start stop : Nat) (stage : Stage) : Reply Stage Unit :=
  let (stage, acts) := s.performAll stage ((s.cuesBetween start stop).flatMap (·.effects))
  ⟨(), stage, if s.lapses start < s.lapses stop then .stop :: acts else acts⟩

def host (s : Script) : Host Stage where
  answer q stage := s.answer stage q
  observe e stage := s.observe stage e
  elapse := s.elapse
  hasClipboard := s.clipboard.isSome

end Script

end FormReplay
