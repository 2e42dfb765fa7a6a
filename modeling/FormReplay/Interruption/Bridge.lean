import FormReplay.Interruption.Decision
import FormReplay.Run.Error
/-!
# The decision bridge

Two queues between the engine and whoever decides: requests one way, decisions the other.  Once the
deciding side is gone a request fails, but decisions sent before can still be taken.
-/
namespace FormReplay

structure Bridge where
  requests  : List DecisionRequest := []
  decisions : List Decision := []
  attached  : Bool := true

namespace Bridge

/-! The engine's side -/

def request (b : Bridge) (r : DecisionRequest) : Except RunError Bridge :=
  if b.attached then .ok { b with requests := b.requests ++ [r] }
  else .error (.channel .disconnected)

def take (b : Bridge) : Option Decision × Bridge :=
  match b.decisions with
  | []        => (none, b)
  | d :: rest => (some d, { b with decisions := rest })

/-! The deciding side -/

/-- Sends a decision, unless this side is gone. -/
def send (b : Bridge) (d : Decision) : Option Bridge :=
  if b.attached then some { b with decisions := b.decisions ++ [d] } else none

def takeRequests (b : Bridge) : List DecisionRequest × Bridge :=
  (b.requests, { b with requests := [] })

/-- Goes away, and the requests that wait with it. -/
def detach (b : Bridge) : Bridge := { b with requests := [], attached := false }

end Bridge

inductive DecisionChannel where
  /-- Nobody decides: requests are dropped, and no decision ever comes. -/
  | nobody
  | bridged (b : Bridge)

namespace DecisionChannel

def request (r : DecisionRequest) : DecisionChannel → Except RunError DecisionChannel
  | .nobody    => .ok .nobody
  | .bridged b => (b.request r).map .bridged

def take : DecisionChannel → Option Decision × DecisionChannel
  | .nobody    => (none, .nobody)
  | .bridged b => (b.take.1, .bridged b.take.2)

def send (d : Decision) : DecisionChannel → Option DecisionChannel
  | .nobody    => none
  | .bridged b => (b.send d).map .bridged

def takeRequests : DecisionChannel → List DecisionRequest × DecisionChannel
  | .nobody    => ([], .nobody)
  | .bridged b => (b.takeRequests.1, .bridged b.takeRequests.2)

def detach : DecisionChannel → DecisionChannel
  | .nobody    => .nobody
  | .bridged b => .bridged b.detach

end DecisionChannel

end FormReplay
