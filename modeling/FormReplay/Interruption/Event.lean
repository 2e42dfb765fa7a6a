import FormReplay.Json.Decode
import FormReplay.Text.Template
import FormReplay.Workflow.Document
/-!
# Interruptions

A dialog or notice that the workflow did not plan for.  Its pattern key names what the engine holds
to be the same interruption within a run.
-/
namespace FormReplay

structure Event where
  kind     : EventKind
  text     : String
  template : String
  /-- What an operator or a handler can press. -/
  controls : List String := []
  deriving DecidableEq, Repr

namespace Event

/-- The event of a text, with the template derived from it. -/
def ofText (kind : EventKind) (text : String) (controls : List String) : Event :=
  { kind, text, template := generalize text, controls }

/-- Whether the event offers a control, case and spacing apart. -/
def hasControl (e : Event) (control : String) : Bool :=
  e.controls.any fun c => normalize c == normalize control

def patternKey (e : Event) : String := e.kind.name ++ ":" ++ normalize e.template

/-- Whether the event is a notice to acknowledge without pausing or asking. -/
def isBenignNotice (e : Event) : Bool := e.kind == .notice && isBenign e.text

def ofTree? {β : Type} [Readable β] (b : β) : Option Event := do
  let f ← Readable.fields? ["kind", "text", "template", "controls"] b
  return {
    kind     := ← f.required "kind" (Readable.oneOf? EventKind.names)
    text     := ← f.required "text" Readable.string?
    template := ← f.required "template" Readable.string?
    controls := ← f.withDefault "controls" (Readable.list? Readable.string?) [] }

def toJson (e : Event) : Json :=
  .obj [("kind", .str e.kind.name), ("text", .str e.text), ("template", .str e.template),
    ("controls", .ofStrings e.controls)]

end Event

end FormReplay
