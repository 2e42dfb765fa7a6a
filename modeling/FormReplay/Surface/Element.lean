import FormReplay.Data.DataRow
import FormReplay.Json.Decode
import FormReplay.Text.Normal
import FormReplay.Workflow.Step
/-!
# Elements of the surface

What the engine sees of an element, and the predicates that conditions and waits ask of it.  Texts
are compared without regard to case and spacing.
-/
namespace FormReplay

/-- A snapshot of one element; the default one is an element that is not there. -/
structure ElementState where
  present : Bool := false
  visible : Bool := false
  text    : String := ""
  value   : String := ""
  deriving DecidableEq, Repr, Inhabited

namespace ElementState

def missing : ElementState := {}

def shown (text : String) : ElementState := { present := true, visible := true, text }

def satisfies (e : ElementState) : WaitState → Bool
  | .visible => e.present && e.visible
  | .hidden  => !e.present || !e.visible
  | .present => e.present

def ofTree? {β : Type} [Readable β] (b : β) : Option ElementState := do
  let f ← Readable.fields? ["exists", "visible", "text", "value"] b
  return {
    present := ← f.required "exists" Readable.bool?
    visible := ← f.required "visible" Readable.bool?
    text    := ← f.withDefault "text" Readable.string? ""
    value   := ← f.withDefault "value" Readable.string? "" }

def toJson (e : ElementState) : Json :=
  .obj [("exists", .bool e.present), ("visible", .bool e.visible), ("text", .str e.text),
    ("value", .str e.value)]

end ElementState

/-- Whether an element passes a check against an expected text; no text expected is the empty one. -/
def UiCheck.holds (check : UiCheck) (expected : Option String) (e : ElementState) : Bool :=
  let wanted := normalize (expected.getD "")
  match check with
  | .visible       => e.satisfies .visible
  | .hidden        => e.satisfies .hidden
  | .present       => e.present
  | .textEquals    => e.present && normalize e.text == wanted
  | .textContains  => e.present && hasText (normalize e.text) wanted
  | .valueEquals   => e.present && normalize e.value == wanted
  | .valueContains => e.present && hasText (normalize e.value) wanted

/-- Whether a field of a row passes a test; a field that is missing reads as the empty text. -/
def DataOp.holds (op : DataOp) (field : String) (expected : Option String) (row : DataRow) : Bool :=
  let actual := normalize ((row.getText? field).getD "")
  let wanted := normalize (expected.getD "")
  match op with
  | .equals    => actual == wanted
  | .notEquals => actual != wanted
  | .contains  => hasText actual wanted
  | .empty     => actual.isEmpty
  | .notEmpty  => !actual.isEmpty

end FormReplay
