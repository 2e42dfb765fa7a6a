import FormReplay.Interruption.Matching
import FormReplay.Run.Session
/-!
# Resolving interruptions

Before and after every ordinary step a pass looks for interruptions and resolves them one at a time,
looking again after each.  An interruption is handled by a handler, ends the run, is decided by an
operator, or is waited for until it is gone, in this order; a decision may leave a handler behind.
-/
namespace FormReplay

variable {σ : Type}

/-- What a pass brought: the signal of the flow, and how many interruptions were acted on. -/
structure PassReport where
  signal     : Signal
  eventsSeen : Nat
  deriving DecidableEq, Repr

/-- Turns an outcome into a signal.  A stop ends the run, the next step goes on with the pass, and
every other signal leaves the surface time to settle. -/
def finishOutcome (env : Env σ) (outcome : Outcome) : Engine σ (Option Signal) := do
  match outcome.signal? with
  | none =>
    modifyControl .stop
    fail .stopped
  | some .next => return none
  | some signal =>
    sleep env .settle env.config.settleDelay
    return some signal

/-! ## Handlers -/

def applyAction (env : Env σ) (event : Event) : HandlerAction → Engine σ Unit
  | .press control => ask env (.press event control)
  | .dismiss       => ask env (.dismiss event)
  | .wait ms       => sleep env .handlerWait ms.toNat

def applyHandler (env : Env σ) (event : Event) (h : Handler) : Engine σ (Option Signal) := do
  h.actions.forM (applyAction env event)
  report env (.interruptionHandled (← get).context.stepIndex h.id h.outcome)
  finishOutcome env h.outcome

/-! ## Decisions -/

/-- The first decision of an inbox with an id, and what follows it; what stands before it is
stale and lost, and so is the whole inbox if there is none. -/
def takeDecision (id : RequestId) : List Decision → Option Decision × List Decision
  | [] => (none, [])
  | d :: rest => if d.id = id then (some d, rest) else takeDecision id rest

theorem takeDecision_eq_some_iff {id : RequestId} {inbox rest : List Decision} {d : Decision} :
    takeDecision id inbox = (some d, rest) ↔
      d.id = id ∧ ∃ stale, inbox = stale ++ d :: rest ∧ ∀ e ∈ stale, e.id ≠ id := by
  induction inbox with
  | nil => simp [takeDecision]
  | cons e inbox ih =>
    unfold takeDecision
    by_cases he : e.id = id
    · rw [if_pos he]
      constructor
      · intro h
        cases h
        exact ⟨he, [], rfl, by simp⟩
      · rintro ⟨-, stale, hs, hstale⟩
        cases stale with
        | nil => cases hs; rfl
        | cons a stale =>
          cases hs
          exact absurd he (hstale e (by simp))
    · rw [if_neg he, ih]
      constructor
      · rintro ⟨hd, stale, rfl, hstale⟩
        exact ⟨hd, e :: stale, rfl, by simpa [he] using hstale⟩
      · rintro ⟨hd, stale, hs, hstale⟩
        cases stale with
        | nil => cases hs; exact absurd hd he
        | cons a stale =>
          cases hs
          exact ⟨hd, stale, rfl, fun x hx => hstale x (by simp [hx])⟩

def pollDecision (env : Env σ) (id : RequestId) : Nat → Engine σ Decision
  | 0 => outOfFuel
  | fuel + 1 => do
    checkStop
    let (found, rest) := takeDecision id (← get).world.inbox
    modify fun s => { s with world.inbox := rest }
    match found with
    | some d => return d
    | none =>
      pass env .decisionPoll env.config.decisionPoll
      pollDecision env id fuel

def issueId : Engine σ RequestId := do
  modify fun s => { s with world.requests := s.world.requests + 1 }
  return .issued (← get).world.requests

/-- Asks an operator and waits for the answer.  Meanwhile the run is held, and the hold ends however
the waiting does. -/
def awaitDecision (env : Env σ) (event : Option Event) (options : List String) : Engine σ Decision := do
  let id ← issueId
  let request : DecisionRequest := ⟨id, (← get).context.stepIndex, event, options⟩
  modifyContext fun c => { c with pending := some id }
  modifyControl .hold
  report env (.decisionRequested request)
  let result ← observing do
    ask env (.request request)
    pollDecision env id env.fuel
  modifyContext fun c => { c with pending := none }
  modifyControl .release
  ofExcept result

def pressSelected (env : Env σ) (event : Event) : Option String → Engine σ (List HandlerAction)
  | none => return []
  | some control => do
    ask env (.press event control)
    return [.press control]

/-- Presses the follow-up of a decision, after the surface has settled, on whatever event offers it
then, or else on the event decided on.  Where none offers it, nothing is pressed. -/
def pressFollowUp (env : Env σ) (event : Event) : Option String → Engine σ (List HandlerAction)
  | none => return []
  | some control => do
    sleep env .settle env.config.settleDelay
    let events ← ask env .detect
    match events.find? (·.hasControl control) with
    | some offering => ask env (.press offering control)
    | none => if event.hasControl control then ask env (.press event control)
    return [.press control]

/-- Carries out the action of a decision.  The result lists it as a handler would. -/
def carryOut (env : Env σ) (event : Event) (d : Decision) : Engine σ (List HandlerAction) := do
  match d.action with
  | .press =>
    let first ← pressSelected env event d.selectedOption
    let second ← pressFollowUp env event d.followUpOption
    return first ++ second
  | .dismiss =>
    ask env (.dismiss event)
    return [.dismiss]
  | .ignore =>
    acknowledge event.patternKey
    return []

/-! ## Learning -/

def handlerOf (event : Event) (d : Decision) (actions : List HandlerAction) (id : String)
    (createdAt : Instant) : Handler where
  id
  trigger := {
    kind             := event.kind
    template         := event.template
    matchMode        := .exact
    requiredControls := if d.action = .press then d.selectedOption.toList else [] }
  actions
  outcome   := d.outcome
  learned   := true
  createdAt := some createdAt

/-- Keeps the handler of a decision, unless an equivalent one is there. -/
def learn (env : Env σ) (event : Event) (d : Decision) (actions : List HandlerAction) : Engine σ Unit := do
  let s ← get
  let serial := s.world.rules + 1
  let h := handlerOf event d actions s!"learned-{serial}" (env.epoch.addMillis s.world.clock)
  unless s.handlers.any (·.isEquivalent h) do
    report env (.handlerLearned h.id event.template h.outcome)
    modify fun s => { s with
      world.rules := serial
      handlers    := s.handlers ++ [h]
      learned     := s.learned ++ [h] }

def applyDecision (env : Env σ) (event : Event) (d : Decision) : Engine σ (Option Signal) := do
  let actions ← carryOut env event d
  if event.kind = .notice then acknowledge event.patternKey
  report env (.decisionApplied d.id (← get).context.stepIndex (some d.action) d.outcome)
  if d.saveRule then learn env event d actions
  finishOutcome env d.outcome

/-! ## Passes -/

/-- Looks again and again until no event has the pattern key. -/
def awaitCleared (env : Env σ) (key : String) : Nat → Engine σ Unit
  | 0 => outOfFuel
  | fuel + 1 => do
    checkpoint env
    pass env .stallPoll env.config.stallPoll
    let events ← ask env .detect
    if events.any (·.patternKey == key) then awaitCleared env key fuel

def resolveUnhandled (env : Env σ) (event : Event) : Engine σ (Option Signal) := do
  if env.options.runUntilInterception then
    modifyControl .stop
    fail .stopped
  if env.options.learningMode then
    let d ← awaitDecision env (some event) (rankOptions event.controls)
    return ← applyDecision env event d
  if event.kind.isBlocking then
    let key := event.patternKey
    modifyContext fun c => if c.stalled.contains key then c else { c with stalled := c.stalled ++ [key] }
    awaitCleared env key env.fuel
    return none
  acknowledge event.patternKey
  return none

def resolveEvent (env : Env σ) (event : Event) : Engine σ (Option Signal) := do
  let s ← get
  report env (.interruptionDetected s.context.stepIndex event)
  match findHandler s.handlers event with
  | some h => if h.mode = .auto then applyHandler env event h else resolveUnhandled env event
  | none   => resolveUnhandled env event

/-- Looks for events and resolves them, so many at most; `seen` were acted on before. -/
def passFrom (env : Env σ) (seen : Nat) : Nat → Engine σ PassReport
  | 0 => return ⟨.next, seen⟩
  | n + 1 => do
    checkStop
    let events ← ask env .detect
    let known := (← get).context.acknowledged
    match events.find? fun e => !known.contains e.patternKey with
    | none => return ⟨.next, seen⟩
    | some event =>
      if event.isBenignNotice then
        acknowledge event.patternKey
        passFrom env seen n
      else
        match ← resolveEvent env event with
        | some signal => return ⟨signal, seen + 1⟩
        | none        => passFrom env (seen + 1) n

def resolvePass (env : Env σ) : Engine σ PassReport := passFrom env 0 env.config.passDepth

def confirmStep (env : Env σ) : Engine σ Signal := do
  let d ← awaitDecision env none ["continue"]
  report env (.decisionApplied d.id (← get).context.stepIndex none d.outcome)
  return (← finishOutcome env d.outcome).getD .next

end FormReplay
