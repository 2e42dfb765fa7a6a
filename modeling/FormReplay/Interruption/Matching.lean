import FormReplay.Interruption.Event
import FormReplay.Pattern.Meaning
import FormReplay.Sorting
/-!
# Choosing a handler

Which handler a stored rule list holds for an event, and in which order the controls of an event
are offered to an operator.
-/
namespace FormReplay

/-- Whether the text of a trigger fits an event.  A pattern is looked for in the template and in the
text as they are; a text that is no pattern fits nothing. -/
def Trigger.fitsText (t : Trigger) (e : Event) : Bool :=
  match t.matchMode with
  | .contains => hasText (normalize e.template) (normalize t.template)
  | .exact    => normalize e.template == normalize t.template
  | .regex    =>
    match Pattern.read? t.template with
    | some p => p.found e.template || p.found e.text
    | none   => false

def Trigger.fires (t : Trigger) (e : Event) : Bool :=
  t.kind == e.kind && t.fitsText e && t.requiredControls.all e.hasControl

/-- The better of the best handler so far and one declared later: only a higher priority wins. -/
def Handler.better (best : Option Handler) (h : Handler) : Option Handler :=
  match best with
  | some b => if h.priority ≤ b.priority then some b else some h
  | none   => some h

def Handler.applies (e : Event) (h : Handler) : Bool := h.enabled && h.trigger.fires e

/-- The enabled handler of highest priority that matches the event, the first of several. -/
def findHandler (handlers : List Handler) (e : Event) : Option Handler :=
  (handlers.filter (·.applies e)).foldl Handler.better none

/-- Controls that undo come first, then those that cancel, close or say no. -/
def controlRank (control : String) : Nat :=
  let c := normalize control
  if hasText c "remove" || hasText c "delete" then 0
  else if hasText c "cancel" then 1
  else if hasText c "close" then 2
  else if c == "no" then 3
  else 4

/-- The controls by rank, those of one rank in the order given. -/
def rankOptions (controls : List String) : List String := sortBy controlRank controls

end FormReplay
