import FormReplay.Run.Progress
import FormReplay.Surface.Element
/-!
# Hosts

The engine never touches the surface itself: it asks its host, one query at a time, and tells it of
its progress.  A host is a machine of states `σ`.  It answers a query or reports an error, it sees
progress and the passing of time, and on each of these occasions it may act on the run: stop,
pause or resume it, or put a decision into its inbox.

A host may resolve values and judge conditions in a way of its own; otherwise the engine does so by
its standard rules, and asks for no more than the element or the clipboard that they need.

Nothing is assumed of a host.  Whatever the engine guarantees, it guarantees for all of them.
-/
namespace FormReplay

inductive Query where
  /-- The dialogs and notices that are present, the most urgent first. -/
  | detect
  | press (event : Event) (control : String)
  | dismiss (event : Event)
  | inspect (target : String)
  | execute (step : Step) (value : Option String)
  | clipboard
  /-- The value of a source for a row, in the host's own way. -/
  | resolve (source : ValueSource) (row : DataRow)
  /-- Whether a condition holds for a row, in the host's own way. -/
  | judge (condition : Condition) (row : DataRow)
  | request (request : DecisionRequest)

@[reducible] def Query.Answer : Query → Type
  | .detect                  => List Event
  | .inspect _               => ElementState
  | .clipboard | .resolve .. => Option String
  | .judge ..                => Bool
  | _                        => Unit

inductive HostAct where
  | stop
  | pause
  | resume
  | post (decision : Decision)
  deriving DecidableEq, Repr

/-- A host's answer, its state afterwards, and what it did meanwhile. -/
structure Reply (σ α : Type) where
  answer : α
  host   : σ
  acts   : List HostAct := []

structure Host (σ : Type) where
  answer  : (q : Query) → σ → Reply σ (Except RunError q.Answer)
  observe : ProgressEvent → σ → Reply σ Unit
  /-- The clock moves from one instant, in milliseconds, to a later one. -/
  elapse  : Nat → Nat → σ → Reply σ Unit
  hasClipboard : Bool
  /-- Whether the host resolves values itself. -/
  resolves : Bool := false
  /-- Whether the host judges conditions itself. -/
  judges : Bool := false

/-- The host of a surface without elements and interruptions, where every action succeeds. -/
def Host.inert : Host Unit where
  answer q s :=
    match q with
    | .detect     => ⟨.ok [], s, []⟩
    | .press ..   => ⟨.ok (), s, []⟩
    | .dismiss _  => ⟨.ok (), s, []⟩
    | .inspect _  => ⟨.ok .missing, s, []⟩
    | .execute .. => ⟨.ok (), s, []⟩
    | .clipboard  => ⟨.ok none, s, []⟩
    | .resolve .. => ⟨.ok none, s, []⟩
    | .judge ..   => ⟨.ok false, s, []⟩
    | .request _  => ⟨.ok (), s, []⟩
  observe _ s := ⟨(), s, []⟩
  elapse _ _ s := ⟨(), s, []⟩
  hasClipboard := false

end FormReplay
