import FormReplay.Json.Decode
import FormReplay.Workflow.Basic
/-!
# Workflow documents

The documents of workflows and of their parts: read off a tree of any notation (`ofTree?`) and
written as JSON (`toJson`).

A step is flat: its payload, its free fields and its policy stand beside its type.  Written are all
fields, defaults included, but not the optional ones that are absent.
-/
namespace FormReplay

open Readable

variable {β : Type} [Readable β]

/-! ## Error policies -/

def ErrorMode.name : ErrorMode → String
  | .fail         => "fail"
  | .skip         => "skip"
  | .goto         => "goto"
  | .breakLoop    => "break-loop"
  | .continueLoop => "continue-loop"
  | .repeatLoop   => "repeat-loop"
  | .inherit      => "default"

def ErrorMode.names : List (String × ErrorMode) :=
  [("fail", .fail), ("skip", .skip), ("goto", .goto), ("break-loop", .breakLoop),
   ("continue-loop", .continueLoop), ("repeat-loop", .repeatLoop), ("default", .inherit)]

namespace ErrorPolicy

def ofTree? (b : β) : Option ErrorPolicy := do
  let f ← fields? ["mode", "retryCount", "retryDelayMs", "gotoLabel"] b
  return {
    mode       := ← f.withDefault "mode" (oneOf? ErrorMode.names) .fail
    retryCount := ← f.withDefault "retryCount" uint32? 0
    retryDelay := ← f.withDefault "retryDelayMs" uint64? 0
    gotoLabel  := ← f.optional "gotoLabel" string? }

def toJson (p : ErrorPolicy) : Json :=
  .obj ([("mode", .str p.mode.name), ("retryCount", .ofUInt32 p.retryCount),
    ("retryDelayMs", .ofUInt64 p.retryDelay)] ++ Fields.ofOption "gotoLabel" .str p.gotoLabel)

end ErrorPolicy

/-! ## Conditions -/

def UiCheck.name : UiCheck → String
  | .visible       => "visible"
  | .hidden        => "hidden"
  | .present       => "exists"
  | .textEquals    => "text-equals"
  | .textContains  => "text-contains"
  | .valueEquals   => "value-equals"
  | .valueContains => "value-contains"

def UiCheck.names : List (String × UiCheck) :=
  [("visible", .visible), ("hidden", .hidden), ("exists", .present), ("text-equals", .textEquals),
   ("text-contains", .textContains), ("value-equals", .valueEquals),
   ("value-contains", .valueContains)]

def DataOp.name : DataOp → String
  | .equals    => "equals"
  | .notEquals => "not-equals"
  | .contains  => "contains"
  | .empty     => "empty"
  | .notEmpty  => "not-empty"

def DataOp.names : List (String × DataOp) :=
  [("equals", .equals), ("not-equals", .notEquals), ("contains", .contains), ("empty", .empty),
   ("not-empty", .notEmpty)]

namespace Condition

def ofTree? (b : β) : Option Condition := do
  let (kind, rest) ← tagged? "kind" ["ui", "data"] b
  match kind with
  | "ui" =>
    let f ← fields? ["target", "check", "value"] rest
    return .ui (← f.required "target" string?) (← f.required "check" (oneOf? UiCheck.names))
      (← f.optional "value" string?)
  | "data" =>
    let f ← fields? ["field", "op", "value"] rest
    return .data (← f.required "field" string?) (← f.required "op" (oneOf? DataOp.names))
      (← f.optional "value" string?)
  | _ => none

def toJson : Condition → Json
  | .ui target check value =>
    .obj ([("kind", .str "ui"), ("target", .str target), ("check", .str check.name)]
      ++ Fields.ofOption "value" .str value)
  | .data field op value =>
    .obj ([("kind", .str "data"), ("field", .str field), ("op", .str op.name)]
      ++ Fields.ofOption "value" .str value)

end Condition

/-! ## Ordinary steps -/

namespace ValueSource

def ofTree? (b : β) : Option ValueSource := do
  let (source, rest) ← tagged? "source" ["static", "data", "clipboard"] b
  match source with
  | "static" => return .static (← (← fields? ["value"] rest).required "value" string?)
  | "data" => return .data (← (← fields? ["field"] rest).required "field" string?)
  | "clipboard" => if rest.isBare then some .clipboard else none
  | _ => none

def toJson : ValueSource → Json
  | .static value => .obj [("source", .str "static"), ("value", .str value)]
  | .data field   => .obj [("source", .str "data"), ("field", .str field)]
  | .clipboard    => .obj [("source", .str "clipboard")]

end ValueSource

def WaitState.name : WaitState → String
  | .visible => "visible"
  | .hidden  => "hidden"
  | .present => "exists"

def WaitState.names : List (String × WaitState) :=
  [("visible", .visible), ("hidden", .hidden), ("exists", .present)]

namespace WaitSpec

def ofTree? (b : β) : Option WaitSpec := do
  let f ← fields? ["target", "state", "timeoutMs"] b
  return ⟨← f.required "target" string?, ← f.required "state" (oneOf? WaitState.names),
    ← f.optional "timeoutMs" uint64?⟩

def toJson (w : WaitSpec) : Json :=
  .obj ([("target", .str w.target), ("state", .str w.state.name)]
    ++ Fields.ofOption "timeoutMs" .ofUInt64 w.timeout)

end WaitSpec

def ActionSpec.reserved : List String :=
  ["type", "stepId", "onError", "target", "value", "waitBefore", "waitAfter"]

namespace ActionSpec

def ofFields? (f : Fields Payload) : Option ActionSpec := do
  return {
    target     := ← f.optional "target" string?
    value      := ← f.optional "value" ValueSource.ofTree?
    waitBefore := ← f.optional "waitBefore" WaitSpec.ofTree?
    waitAfter  := ← f.optional "waitAfter" WaitSpec.ofTree?
    extra      := .ofFields (← (f.filter fun p => !reserved.contains p.1).mapM fun (k, p) =>
      p.free?.map (k, ·)) }

def toFields (a : ActionSpec) : Fields Json :=
  Fields.ofOption "target" .str a.target ++ Fields.ofOption "value" ValueSource.toJson a.value
    ++ Fields.ofOption "waitBefore" WaitSpec.toJson a.waitBefore
    ++ Fields.ofOption "waitAfter" WaitSpec.toJson a.waitAfter ++ a.extra.entries

end ActionSpec

/-! ## Loops -/

namespace LoopMode

def ofFields? (f : Fields Payload) : Option LoopMode := do
  match ← f.required "loopMode" (form? ["count", "while", "data"]) with
  | "count" => return .count (← f.required "loopCount" uint64?)
  | "while" =>
    return .whileHolds (← f.required "whileCondition" Condition.ofTree?)
      (← f.optional "loopMaxIterations" uint64?)
  | "data" =>
    return .data (← f.optional "dataSourceRef" string?) (← f.optional "iterationLimit" uint64?)
  | _ => none

def toFields : LoopMode → Fields Json
  | .count times => [("loopMode", .str "count"), ("loopCount", .ofUInt64 times)]
  | .whileHolds condition most =>
    [("loopMode", .str "while"), ("whileCondition", condition.toJson)]
      ++ Fields.ofOption "loopMaxIterations" .ofUInt64 most
  | .data source limit =>
    [("loopMode", .str "data")] ++ Fields.ofOption "dataSourceRef" .str source
      ++ Fields.ofOption "iterationLimit" .ofUInt64 limit

end LoopMode

/-! ## Steps -/

def ActionKind.names : List (String × ActionKind) :=
  [("click", .click), ("input", .input), ("select", .select), ("checkbox", .checkbox),
   ("wait", .wait), ("navigate", .navigate), ("keypress", .keypress)]

def StepKind.typeNames : List String :=
  ActionKind.names.map (·.1) ++
    ["label", "goto", "if-start", "else", "if-end", "loop-start", "loop-end", "continue-loop",
     "break-loop", "repeat-loop"]

namespace StepKind

def ofFields? (f : Fields Payload) : Option StepKind := do
  let type ← f.required "type" (form? typeNames)
  match type with
  | "label"         => return .label (← f.required "name" string?)
  | "goto"          => return .goto (← f.required "targetLabel" string?)
  | "if-start"      => return .ifStart (← f.required "condition" Condition.ofTree?)
  | "else"          => return .otherwise
  | "if-end"        => return .ifEnd
  | "loop-start"    => return .loopStart ⟨← f.optional "id" string?, ← LoopMode.ofFields? f⟩
  | "loop-end"      => return .loopEnd (← f.optional "loopRef" string?)
  | "continue-loop" => return .continueLoop
  | "break-loop"    => return .breakLoop
  | "repeat-loop"   => return .repeatLoop
  | _               => return .action (← field? type ActionKind.names) (← ActionSpec.ofFields? f)

def payload : StepKind → Fields Json
  | .action _ spec    => spec.toFields
  | .label name       => [("name", .str name)]
  | .goto name        => [("targetLabel", .str name)]
  | .ifStart cond     => [("condition", cond.toJson)]
  | .loopStart spec   => Fields.ofOption "id" .str spec.id ++ spec.mode.toFields
  | .loopEnd loopRef  => Fields.ofOption "loopRef" .str loopRef
  | _                 => []

end StepKind

namespace Step

/-- The fields of a step that do not depend on its type. -/
def ownNames : List String := ["stepId", "onError"]

def ofTree? (b : β) : Option Step := do
  let f ← entries? b
  let rest ← (f.filter fun p => !ownNames.contains p.1).mapM fun (k, v) => (payload? v).map (k, ·)
  return {
    id      := ← f.optional "stepId" string?
    kind    := ← StepKind.ofFields? rest
    onError := ← f.optional "onError" ErrorPolicy.ofTree? }

def toJson (s : Step) : Json :=
  .obj (("type", .str s.kind.typeName) :: Fields.ofOption "stepId" .str s.id
    ++ Fields.ofOption "onError" ErrorPolicy.toJson s.onError ++ s.kind.payload)

end Step

/-! ## Handlers -/

def EventKind.names : List (String × EventKind) := [("dialog", .dialog), ("notice", .notice)]

def HandlerMode.name : HandlerMode → String
  | .auto      => "auto"
  | .alwaysAsk => "alwaysAsk"

def HandlerMode.names : List (String × HandlerMode) := [("auto", .auto), ("alwaysAsk", .alwaysAsk)]

def MatchMode.name : MatchMode → String
  | .contains => "contains"
  | .exact    => "exact"
  | .regex    => "regex"

def MatchMode.names : List (String × MatchMode) :=
  [("contains", .contains), ("exact", .exact), ("regex", .regex)]

def Outcome.name : Outcome → String
  | .nextStep     => "next-step"
  | .continueLoop => "continue-loop"
  | .breakLoop    => "break-loop"
  | .repeatLoop   => "repeat-loop"
  | .stop         => "stop"

def Outcome.names : List (String × Outcome) :=
  [("next-step", .nextStep), ("continue-loop", .continueLoop), ("break-loop", .breakLoop),
   ("repeat-loop", .repeatLoop), ("stop", .stop)]

namespace Trigger

def ofTree? (b : β) : Option Trigger := do
  let f ← fields? ["kind", "textTemplate", "matchMode", "requiredControls"] b
  return {
    kind             := ← f.required "kind" (oneOf? EventKind.names)
    template         := ← f.required "textTemplate" string?
    matchMode        := ← f.withDefault "matchMode" (oneOf? MatchMode.names) .contains
    requiredControls := ← f.withDefault "requiredControls" (list? string?) [] }

def toJson (t : Trigger) : Json :=
  .obj [("kind", .str t.kind.name), ("textTemplate", .str t.template),
    ("matchMode", .str t.matchMode.name), ("requiredControls", .ofStrings t.requiredControls)]

end Trigger

namespace HandlerAction

def ofTree? (b : β) : Option HandlerAction := do
  let (type, rest) ← tagged? "type" ["press", "dismiss", "wait"] b
  match type with
  | "press"   => return .press (← (← fields? ["control"] rest).required "control" string?)
  | "dismiss" => if rest.isBare then some .dismiss else none
  | "wait"    => return .wait (← (← fields? ["ms"] rest).required "ms" uint64?)
  | _         => none

def toJson : HandlerAction → Json
  | .press control => .obj [("type", .str "press"), ("control", .str control)]
  | .dismiss       => .obj [("type", .str "dismiss")]
  | .wait ms       => .obj [("type", .str "wait"), ("ms", .ofUInt64 ms)]

end HandlerAction

def Instant.ofTree? (b : β) : Option Instant := do Instant.read? (← string? b)

def Instant.toJson (t : Instant) : Json := .str t.text

namespace Handler

def ofTree? (b : β) : Option Handler := do
  let f ← fields? ["id", "enabled", "priority", "mode", "trigger", "actions", "outcome",
    "learned", "createdAt"] b
  return {
    id        := ← f.required "id" string?
    enabled   := ← f.withDefault "enabled" bool? true
    priority  := ← f.withDefault "priority" int32? 0
    mode      := ← f.withDefault "mode" (oneOf? HandlerMode.names) .auto
    trigger   := ← f.required "trigger" Trigger.ofTree?
    actions   := ← f.withDefault "actions" (list? HandlerAction.ofTree?) []
    outcome   := ← f.withDefault "outcome" (oneOf? Outcome.names) .nextStep
    learned   := ← f.withDefault "learned" bool? false
    createdAt := ← f.optional "createdAt" Instant.ofTree? }

def toJson (h : Handler) : Json :=
  .obj ([("id", .str h.id), ("enabled", .bool h.enabled), ("priority", .int h.priority.toInt),
    ("mode", .str h.mode.name), ("trigger", h.trigger.toJson),
    ("actions", .arr (h.actions.map HandlerAction.toJson)), ("outcome", .str h.outcome.name),
    ("learned", .bool h.learned)] ++ Fields.ofOption "createdAt" Instant.toJson h.createdAt)

end Handler

/-! ## Settings and workflows -/

namespace FieldMapping

def ofTree? (b : β) : Option FieldMapping := do
  let f ← fields? ["parentField", "childField"] b
  return ⟨← f.required "parentField" string?, ← f.required "childField" string?⟩

def toJson (m : FieldMapping) : Json :=
  .obj [("parentField", .str m.parentField), ("childField", .str m.childField)]

end FieldMapping

namespace Relationship

def ofTree? (b : β) : Option Relationship := do
  let f ← fields? ["parentSource", "childSource", "mappings"] b
  return ⟨← f.required "parentSource" string?, ← f.required "childSource" string?,
    ← f.required "mappings" (list? FieldMapping.ofTree?)⟩

def toJson (r : Relationship) : Json :=
  .obj [("parentSource", .str r.parentSource), ("childSource", .str r.childSource),
    ("mappings", .arr (r.mappings.map FieldMapping.toJson))]

end Relationship

namespace Settings

def ofTree? (b : β) : Option Settings := do
  let f ← fields? ["defaultErrorPolicy", "relationships"] b
  return {
    defaultPolicy := ← f.withDefault "defaultErrorPolicy" ErrorPolicy.ofTree? {}
    relationships := ← f.withDefault "relationships" (list? Relationship.ofTree?) [] }

def toJson (s : Settings) : Json :=
  .obj [("defaultErrorPolicy", s.defaultPolicy.toJson),
    ("relationships", .arr (s.relationships.map Relationship.toJson))]

end Settings

namespace Workflow

def ofTree? (b : β) : Option Workflow := do
  let f ← fields? ["name", "steps", "settings", "handlers"] b
  return {
    name     := ← f.withDefault "name" string? ""
    steps    := ← f.withDefault "steps" (list? Step.ofTree?) []
    settings := ← f.withDefault "settings" Settings.ofTree? {}
    handlers := ← f.withDefault "handlers" (list? Handler.ofTree?) [] }

def toJson (w : Workflow) : Json :=
  .obj [("name", .str w.name), ("steps", .arr (w.steps.map Step.toJson)),
    ("settings", w.settings.toJson), ("handlers", .arr (w.handlers.map Handler.toJson))]

end Workflow

end FormReplay
