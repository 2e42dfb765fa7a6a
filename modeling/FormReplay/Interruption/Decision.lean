import FormReplay.Interruption.Event
/-!
# Decisions

The engine asks for a decision with a request and takes the answer that carries the id of that
request; an answer with another id is stale.
-/
namespace FormReplay

/-- An id that the engine issued, by its number, or any text that a host brought. -/
inductive RequestId where
  | issued (serial : Nat)
  | given (text : String)
  deriving DecidableEq, Repr

def RequestId.text : RequestId → String
  | .issued n => "req-" ++ toString n
  | .given s  => s

structure DecisionRequest where
  id        : RequestId
  stepIndex : Nat
  /-- The interruption, or nothing when a step is to be confirmed. -/
  event     : Option Event
  options   : List String
  deriving DecidableEq, Repr

inductive DecisionAction where
  | press
  | dismiss
  | ignore
  deriving DecidableEq, Repr

structure Decision where
  id             : RequestId
  action         : DecisionAction := .press
  selectedOption : Option String := none
  followUpOption : Option String := none
  outcome        : Outcome := .nextStep
  saveRule       : Bool := false
  deriving DecidableEq, Repr

def DecisionAction.name : DecisionAction → String
  | .press   => "press"
  | .dismiss => "dismiss"
  | .ignore  => "ignore"

def DecisionAction.names : List (String × DecisionAction) :=
  [("press", .press), ("dismiss", .dismiss), ("ignore", .ignore)]

namespace DecisionRequest

def ofTree? {β : Type} [Readable β] (b : β) : Option DecisionRequest := do
  let f ← Readable.fields? ["requestId", "stepIndex", "event", "rankedOptions"] b
  return {
    id        := .given (← f.required "requestId" Readable.string?)
    stepIndex := ← f.required "stepIndex" Readable.nat64?
    event     := ← f.optional "event" Event.ofTree?
    options   := ← f.required "rankedOptions" (Readable.list? Readable.string?) }

def toJson (r : DecisionRequest) : Json :=
  .obj [("requestId", .str r.id.text), ("stepIndex", .ofNat r.stepIndex),
    ("event", .ofOption Event.toJson r.event), ("rankedOptions", .ofStrings r.options)]

end DecisionRequest

namespace Decision

def ofPress (id : RequestId) (option : String) : Decision := { id, selectedOption := some option }

def ofTree? {β : Type} [Readable β] (b : β) : Option Decision := do
  let f ← Readable.fields? ["requestId", "action", "selectedOption", "followUpOption", "outcome",
    "saveRule"] b
  return {
    id             := .given (← f.required "requestId" Readable.string?)
    action         := ← f.withDefault "action" (Readable.oneOf? DecisionAction.names) .press
    selectedOption := ← f.optional "selectedOption" Readable.string?
    followUpOption := ← f.optional "followUpOption" Readable.string?
    outcome        := ← f.withDefault "outcome" (Readable.oneOf? Outcome.names) .nextStep
    saveRule       := ← f.withDefault "saveRule" Readable.bool? false }

def toJson (d : Decision) : Json :=
  .obj [("requestId", .str d.id.text), ("action", .str d.action.name),
    ("selectedOption", .ofOption .str d.selectedOption),
    ("followUpOption", .ofOption .str d.followUpOption), ("outcome", .str d.outcome.name),
    ("saveRule", .bool d.saveRule)]

end Decision

end FormReplay
