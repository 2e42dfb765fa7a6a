import FormReplay.Run.Config
import FormReplay.Run.Control
import FormReplay.Run.Host
/-!
# Sessions

The state of a run, the trace it leaves, and the few operations that everything else in the engine
is made of: ask the host, report progress, let time pass, read and set the state.  Every one of them
that leaves the engine is an entry of the trace, with the instant, the flags and the context that
were in force.
-/
namespace FormReplay

/-- Where a run is.  Every run has a context of its own, so nothing acknowledged or pending outlives
the run. -/
structure Context where
  /-- The step that was dispatched last. -/
  stepIndex     : Nat := 0
  rowIndex      : Nat := 0
  row           : DataRow := {}
  rowsProcessed : Nat := 0
  /-- The request whose decision is awaited. -/
  pending       : Option RequestId := none
  /-- Pattern keys that are not raised again in this run. -/
  acknowledged  : List String := []
  stalled       : List String := []

inductive SleepReason where
  | pausePoll
  | decisionPoll
  | stallPoll
  | waitPoll
  | settle
  | retryDelay
  | handlerWait
  deriving DecidableEq, Repr

inductive Moment where
  | progress (event : ProgressEvent)
  | asked (q : Query) (answer : Except RunError q.Answer)
  | acted (act : HostAct)
  | slept (reason : SleepReason) (ms : Nat)
  /-- The value of a source was to be resolved, by whatever rules. -/
  | resolving (source : ValueSource) (row : DataRow)
  /-- A condition was to be judged, by whatever rules. -/
  | judging (condition : Condition) (row : DataRow)
  /-- A frame began to walk a range of steps against a row. -/
  | entered (first last : Nat) (row : DataRow)
  /-- The innermost frame came to a step. -/
  | visited (index : Nat)
  | attempted (index : Nat)
  /-- The innermost frame ended with a signal. -/
  | left (signal : Signal)

structure Entry where
  time    : Nat
  control : Control
  context : Context
  moment  : Moment

/-- What outlives a run: the host, the clock, the flags, decisions not yet taken, and how many
request ids and names of learned handlers have been given out. -/
structure World (σ : Type) where
  host     : σ
  clock    : Nat := 0
  control  : Control := {}
  inbox    : List Decision := []
  requests : Nat := 0
  rules    : Nat := 0

structure Session (σ : Type) where
  world    : World σ
  context  : Context := {}
  /-- The handlers of the workflow, then those learned. -/
  handlers : List Handler := []
  learned  : List Handler := []
  /-- The newest entry comes first. -/
  trace    : List Entry := []

structure Env (σ : Type) where
  host    : Host σ
  config  : Config := {}
  options : RunOptions := {}
  /-- How many steps a frame may dispatch, and how often one poll may be repeated. -/
  fuel    : Nat
  epoch   : Instant

/-- What ends an execution early: an error of the run, or the fuel, which is no answer at all. -/
inductive Halt where
  | error (e : RunError)
  | outOfFuel
  deriving DecidableEq, Repr

abbrev Engine (σ : Type) := EStateM Halt (Session σ)

namespace Session

variable {σ : Type}

def record (s : Session σ) (m : Moment) : Session σ :=
  { s with trace := ⟨s.world.clock, s.world.control, s.context, m⟩ :: s.trace }

def obey (s : Session σ) (act : HostAct) : Session σ :=
  let s := s.record (.acted act)
  match act with
  | .stop   => { s with world.control := s.world.control.stop }
  | .pause  => { s with world.control := s.world.control.pause }
  | .resume => { s with world.control := s.world.control.resume }
  | .post d => { s with world.inbox := s.world.inbox ++ [d] }

/-- Takes over the host's state after a reply, then obeys its acts in order. -/
def accept {α : Type} (s : Session σ) (r : Reply σ α) : Session σ :=
  r.acts.foldl obey { s with world.host := r.host }

end Session

variable {σ : Type}

namespace Engine

theorem bind_eq_ok_iff {α β : Type} {x : Engine σ α} {f : α → Engine σ β} {s s' : Session σ} {b : β} :
    (x >>= f) s = .ok b s' ↔ ∃ a s₁, x s = .ok a s₁ ∧ f a s₁ = .ok b s' := by
  simp only [bind, EStateM.bind]
  cases hx : x s with
  | ok a s₁ => exact ⟨fun h => ⟨a, s₁, rfl, h⟩, fun ⟨_, _, h₁, h₂⟩ => by cases h₁; exact h₂⟩
  | error e s₁ => exact ⟨fun h => (nomatch h), fun ⟨_, _, h₁, _⟩ => (nomatch h₁)⟩

theorem bind_eq_error_iff {α β : Type} {x : Engine σ α} {f : α → Engine σ β} {s s' : Session σ} {e : Halt} :
    (x >>= f) s = .error e s' ↔
      x s = .error e s' ∨ ∃ a s₁, x s = .ok a s₁ ∧ f a s₁ = .error e s' := by
  simp only [bind, EStateM.bind]
  cases hx : x s with
  | ok a s₁ =>
    exact ⟨fun h => .inr ⟨a, s₁, rfl, h⟩, fun h => h.elim (fun h => (nomatch h))
      fun ⟨_, _, h₁, h₂⟩ => by cases h₁; exact h₂⟩
  | error e₁ s₁ =>
    refine ⟨fun h => .inl ?_, fun h => h.elim (fun h => ?_) fun ⟨_, _, h₁, _⟩ => (nomatch h₁)⟩
    · cases h; rfl
    · cases h; rfl

end Engine

/-! ## The operations -/

def fail {α : Type} (e : RunError) : Engine σ α := throw (.error e)

def outOfFuel {α : Type} : Engine σ α := throw .outOfFuel

/-- Runs an action and returns its error instead of failing with it.  What the action did stays. -/
def observing {α : Type} (action : Engine σ α) : Engine σ (Except RunError α) := fun s =>
  match action s with
  | .ok a s              => .ok (.ok a) s
  | .error (.error e) s  => .ok (.error e) s
  | .error .outOfFuel s  => .error .outOfFuel s

def ofExcept {α : Type} : Except RunError α → Engine σ α
  | .ok a    => pure a
  | .error e => fail e

def ask (env : Env σ) (q : Query) : Engine σ q.Answer := do
  let s ← get
  let r := env.host.answer q s.world.host
  set ((s.record (.asked q r.answer)).accept r)
  ofExcept r.answer

def report (env : Env σ) (e : ProgressEvent) : Engine σ Unit :=
  modify fun s => (s.record (.progress e)).accept (env.host.observe e s.world.host)

def note (m : Moment) : Engine σ Unit := modify (·.record m)

def pass (env : Env σ) (reason : SleepReason) (ms : Nat) : Engine σ Unit :=
  modify fun s =>
    let from_ := s.world.clock
    let s := s.record (.slept reason ms)
    { s with world.clock := from_ + ms }.accept (env.host.elapse from_ (from_ + ms) s.world.host)

def modifyControl (f : Control → Control) : Engine σ Unit :=
  modify fun s => { s with world.control := f s.world.control }

def modifyContext (f : Context → Context) : Engine σ Unit :=
  modify fun s => { s with context := f s.context }

def checkStop : Engine σ Unit := do
  if (← get).world.control.stopped then fail .stopped

/-- Waits, looking every `poll` milliseconds, while the run is paused or held. -/
def awaitUnpaused (env : Env σ) (poll : Nat) : Nat → Engine σ Unit
  | 0 => outOfFuel
  | fuel + 1 => do
    checkStop
    if (← get).world.control.isPaused then
      pass env .pausePoll poll
      awaitUnpaused env poll fuel

/-- The point before every step, attempt and iteration at which a stop or a pause takes effect. -/
def checkpoint (env : Env σ) : Engine σ Unit := awaitUnpaused env env.config.pausePoll env.fuel

/-- Sleeps some full naps and a rest, with a look at the stop flag before each and at the end. -/
def sleepNaps (env : Env σ) (reason : SleepReason) (nap rest : Nat) : Nat → Engine σ Unit
  | 0 => do
    checkStop
    if rest ≠ 0 then
      pass env reason rest
      checkStop
  | n + 1 => do
    checkStop
    pass env reason nap
    sleepNaps env reason nap rest n

/-- Sleeps so many milliseconds, with a look at the stop flag every `poll` of them, or every one if
`poll` is zero. -/
def sleepFor (env : Env σ) (reason : SleepReason) (ms poll : Nat) : Engine σ Unit :=
  let nap := max poll 1
  sleepNaps env reason nap (ms % nap) (ms / nap)

def sleep (env : Env σ) (reason : SleepReason) (ms : Nat) : Engine σ Unit :=
  sleepFor env reason ms env.config.pausePoll

def acknowledge (key : String) : Engine σ Unit :=
  modifyContext fun c =>
    if c.acknowledged.contains key then c else { c with acknowledged := c.acknowledged ++ [key] }

end FormReplay
