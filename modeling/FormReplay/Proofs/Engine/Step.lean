import FormReplay.Proofs.Engine.Footprint
/-!
# What steps ensure

An attempt is taken apart into its two passes and the action between them.  For retries, policies and
whole steps there is one rule each: an invariant that the attempt keeps, and that the operations around
it keep, is kept by the step.  An attempt gives no signal but those of outcomes; all others come of
policies (`Signal.OfStep`).
-/
namespace FormReplay

variable {σ α : Type} {env : Env σ} {F : Operation σ → Prop} {I : Session σ → Prop} {E : Halt → Session σ → Prop}

/-! ## Checkpoints -/

def Session.Free (s : Session σ) : Prop := s.world.control.stopped = false ∧ s.world.control.isPaused = false

/-- **The rule of a checkpoint**: once it is passed, the run is free to go on. -/
theorem ensures_checkpoint (hk : ∀ e, Rests .pausePoll e → e.Keeps env I E) (hfuel : ∀ s, I s → E .outOfFuel s) :
    Ensures I (checkpoint env) (fun _ s => I s ∧ s.Free) E := by
  unfold checkpoint
  induction env.fuel with
  | zero => exact .outOfFuel hfuel
  | succ fuel ih =>
    refine .bind (R := fun _ s => I s ∧ s.world.control.stopped = false)
      (.checkStop (fun s hs hgo => ⟨hs, hgo⟩) fun s hs _ => hk _ .stopped s hs) fun _ => .read fun s₀ hs₀ => ?_
    split
    · exact .bind (R := fun _ => I) (.pass fun s hs => hk _ (.sleep _) s (hs ▸ hs₀.1)) fun _ => ih
    · rename_i hpaused
      exact .pure fun s hs => hs ▸ ⟨hs₀.1, hs₀.2, Bool.not_eq_true _ ▸ hpaused⟩

/-! ## Decisions -/

def Session.held (id : RequestId) (s : Session σ) : Session σ :=
  ({ s with world.requests := s.world.requests + 1 }.onContext fun c => { c with pending := some id }).onControl .hold

def Session.released (s : Session σ) : Session σ := (s.onContext fun c => { c with pending := none }).onControl .release

/-- **The rule of a decision**: what holds while the run is held need not hold before or after. -/
theorem ensures_awaitDecision {W : Session σ → Prop} {H : Halt → Session σ → Prop} (event : Option Event)
    (options : List String) (hbegin : ∀ id s, I s → W (s.held id)) (hk : ∀ e, Waits e → e.Keeps env W H)
    (hfuel : ∀ s, W s → H .outOfFuel s) (hend : ∀ s, W s → I s.released)
    (hfail : ∀ e s, H (.error e) s → E (.error e) s.released) (hout : ∀ s, H .outOfFuel s → E .outOfFuel s) :
    Ensures I (awaitDecision env event options) (fun _ => I) E := by
  have hissue : Ensures I issueId (fun _ s => ∃ s₀, I s₀ ∧ s = { s₀ with world.requests := s₀.world.requests + 1 }) E :=
    fun s hs => ⟨s, hs, rfl⟩
  refine .bind hissue fun id => .read fun s₁ ⟨s₀, hs₀, hs₁⟩ => ?_
  refine .bind (R := fun _ s => s.onControl .hold = s₀.held id) (fun s hs => by subst hs hs₁; rfl) fun _ => ?_
  refine .bind (R := fun _ => W) (fun s hs => ?_) fun _ => ?_
  · have hheld : W (s.onControl .hold) := hs ▸ hbegin id s₀ hs₀
    exact hheld
  refine .bind (R := fun _ => W) (.report (hk _ (.requested _))) fun _ => ?_
  have hwait : ∀ r, Does env Waits (do ask env (.request r); pollDecision env id env.fuel) :=
    fun r => .bind (.ask (.request r)) fun _ => does_pollDecision _ _ fun _ he => he
  let R : Except RunError Decision → Session σ → Prop := fun
    | .ok _    => I
    | .error e => E (.error e)
  refine .bind (R := fun result s => R result s.released) (.observing ?_) fun result => ?_
  · refine ((hwait _).ensures hk hfuel).imp (fun _ hs => hs) (fun _ s hs => hend s hs) fun e s hs => ?_
    cases e with
    | error e   => exact hfail e s hs
    | outOfFuel => exact hout s hs
  refine .bind (R := fun _ s => R result (s.onControl .release)) (fun s hs => hs) fun _ => ?_
  refine .bind (R := fun _ => R result) (fun s hs => hs) fun _ => ?_
  cases result with
  | ok d    => exact .pure fun s hs => hs
  | error e => exact .fail fun s hs => hs

theorem ensures_halting {Q : α → Session σ → Prop} (h : ∀ s, I s → E (.error .stopped) (s.onControl .stop)) :
    Ensures I (halt : Engine σ α) Q E :=
  .bind (R := fun _ s => ∃ s₀, I s₀ ∧ s = s₀.onControl .stop) (.modifyControl fun s hs => ⟨s, hs, rfl⟩) fun _ =>
    .fail fun _ ⟨s₀, hs₀, hs⟩ => hs ▸ h s₀ hs₀

/-! ## Passes -/

/-- The rule of a pass: `J` holds before each look at the surface, and `L` of the events that it found. -/
structure LookRule (env : Env σ) (J : Session σ → Prop) (L : List Event → Session σ → Prop)
    (E : Halt → Session σ → Prop) : Prop where
  stopped : ∀ s, J s → E (.error .stopped) s
  look : Ensures J (ask env .detect) L E
  nothing : ∀ events s, L events s →
    (events.find? fun event => !s.context.acknowledged.contains event.patternKey) = none → J s
  benign : ∀ events event s, L events s →
    (events.find? fun event => !s.context.acknowledged.contains event.patternKey) = some event →
    event.isBenignNotice = true → J (s.onContext (.acknowledge event.patternKey))
  resolve : ∀ events event s₀, L events s₀ →
    (events.find? fun event => !s₀.context.acknowledged.contains event.patternKey) = some event →
    event.isBenignNotice = false → Ensures (· = s₀) (resolveEvent env event) (fun _ => J) E

/-- **The rule of a pass**, by what it does about the first new event of each look. -/
theorem LookRule.passFrom {J : Session σ → Prop} {L : List Event → Session σ → Prop} (h : LookRule env J L E) (seen n : Nat) :
    Ensures J (passFrom env seen n) (fun _ => J) E := by
  induction n generalizing seen with
  | zero => exact .pure fun _ => id
  | succ n ih =>
    refine .bind (R := fun _ => J) (.checkStop (fun _ hs _ => hs) fun s hs _ => h.stopped s hs) fun _ => ?_
    refine .bind h.look fun events => .read fun s₀ hs₀ => ?_
    dsimp only
    split
    · rename_i hnone
      exact .pure fun s hs => hs ▸ h.nothing events s₀ hs₀ hnone
    · rename_i event hfound
      split
      · rename_i hbenign
        refine .bind (R := fun _ => J) (.modifyContext fun s hs => ?_) fun _ => ih seen
        exact hs ▸ h.benign events event s₀ hs₀ hfound hbenign
      · rename_i hbenign
        refine .bind (h.resolve events event s₀ hs₀ hfound (Bool.eq_false_iff.2 hbenign)) fun result => ?_
        split
        · exact .pure fun _ => id
        · exact ih _

/-! ## Attempts -/

inductive Attempts (env : Env σ) (step : Step) : Operation σ → Prop
  | resolve {e : Operation σ} : Resolves env e → Attempts env step e
  | act {e : Operation σ} : Acts step e → Attempts env step e
  | notAnAction (index : Nat) : step.kind.action? = none →
      Attempts env step (.fail (.structural (.notAnAction index step.kind.typeName)))

theorem does_attempt (index : Nat) (step : Step) (row : DataRow) (h : ∀ e, Attempts env step e → F e) :
    Does env F (attempt env index step row) := by
  have hpass : Does env F (resolvePass env) := does_resolvePass fun e he => h e (.resolve he)
  unfold attempt
  split
  · refine .bind hpass fun before => ?_
    split
    · exact .pure _
    · refine .bind (does_act step _ row fun e he => h e (.act he)) fun _ => .bind hpass fun after => ?_
      split
      · exact .pure _
      · split
        · exact does_confirmStep fun e he => h e (.resolve he)
        · exact .pure _
  · rename_i hnone
    refine .fail (h _ (.notAnAction index ?_))
    cases hk : step.kind.action? with
    | none      => rfl
    | some spec => exact absurd hk (hnone spec)

/-- **The rule of an attempt**, by its passes, its action and its confirmation. -/
theorem ensures_attempt (hpass : Ensures I (resolvePass env) (fun _ => I) E)
    (hact : ∀ step spec row, Ensures I (act env step spec row) (fun _ => I) E)
    (hconfirm : Ensures I (confirmStep env) (fun _ => I) E) (hfault : ∀ fault s, I s → E (.error (.structural fault)) s)
    (index : Nat) (step : Step) (row : DataRow) : Ensures I (attempt env index step row) (fun _ => I) E := by
  unfold attempt
  split
  · refine .bind hpass fun before => ?_
    split
    · exact .pure fun _ => id
    · refine .bind (hact step _ row) fun _ => .bind hpass fun after => ?_
      split
      · exact .pure fun _ => id
      · split
        · exact hconfirm
        · exact .pure fun _ => id
  · exact .fail (hfault _)

/-! ## The values of attempts -/

/-- Where an action succeeds, its value is one of `A`. -/
def Returns (x : Engine σ α) (A : α → Prop) : Prop := Ensures (fun _ => True) x (fun a _ => A a) fun _ _ => True

namespace Returns

variable {β : Type}

theorem pure {a : α} {A : α → Prop} (h : A a) : Returns (Pure.pure a : Engine σ α) A := Ensures.pure fun _ _ => h

theorem bind {x : Engine σ α} {f : α → Engine σ β} {A : β → Prop} (h : ∀ a, Returns (f a) A) :
    Returns (x >>= f) A := by
  refine Ensures.bind (R := fun _ _ => True) (fun s _ => ?_) h
  split <;> trivial

theorem bindOf {x : Engine σ α} {f : α → Engine σ β} {B : α → Prop} {A : β → Prop} (hx : Returns x B)
    (h : ∀ a, B a → Returns (f a) A) : Returns (x >>= f) A :=
  Ensures.bind hx fun a s hs => h a hs s trivial

theorem fail {e : RunError} {A : α → Prop} : Returns (FormReplay.fail e : Engine σ α) A :=
  Ensures.fail fun _ _ => trivial

end Returns

def Signal.OfOutcome (signal : Signal) : Prop := signal = .next ∨ signal.isLoopControl = true

theorem Outcome.signal_eq_next_or_isLoopControl {outcome : Outcome} {signal : Signal}
    (h : outcome.signal? = some signal) : signal.OfOutcome := by
  cases outcome <;> cases h
  · exact .inl rfl
  · exact .inr rfl
  · exact .inr rfl
  · exact .inr rfl

theorem returns_finishOutcome (outcome : Outcome) :
    Returns (finishOutcome env outcome) fun r => ∀ signal ∈ r, signal.isLoopControl = true := by
  unfold finishOutcome
  split
  · exact .bind fun _ => .fail
  · exact .pure nofun
  · rename_i signal hnext h
    refine .bind fun _ => .pure fun signal' hs => ?_
    cases hs
    exact (Outcome.signal_eq_next_or_isLoopControl h).resolve_left fun h => hnext (h ▸ rfl)

theorem returns_resolveUnhandled (event : Event) :
    Returns (resolveUnhandled env event) fun r => ∀ signal ∈ r, signal.isLoopControl = true := by
  have hdecide : ∀ d, Returns (applyDecision env event d) fun r => ∀ signal ∈ r, signal.isLoopControl = true := by
    intro d
    refine .bind fun actions => ?_
    dsimp only
    split <;> refine .bind fun _ => .bind fun _ => ?_
    · refine .bind fun _ => ?_
      split
      · exact .bind fun _ => returns_finishOutcome _
      · exact returns_finishOutcome _
    · split
      · exact .bind fun _ => returns_finishOutcome _
      · exact returns_finishOutcome _
  unfold resolveUnhandled
  dsimp only
  split
  · exact .bind fun _ => .bindOf .fail (B := fun _ => False) nofun
  · split
    · exact .bind hdecide
    · split
      · exact .bind fun _ => .bind fun _ => .pure nofun
      · exact .bind fun _ => .pure nofun

theorem returns_resolveEvent (event : Event) :
    Returns (resolveEvent env event) fun r => ∀ signal ∈ r, signal.isLoopControl = true := by
  refine .bind fun s => .bind fun _ => ?_
  split
  · split
    · exact .bind fun _ => .bind fun _ => .bind fun _ => returns_finishOutcome _
    · exact returns_resolveUnhandled event
  · exact returns_resolveUnhandled event

theorem returns_passFrom (seen n : Nat) : Returns (passFrom env seen n) fun r => r.signal.OfOutcome := by
  induction n generalizing seen with
  | zero => exact .pure (.inl rfl)
  | succ n ih =>
    refine .bind fun _ => .bind fun events => .bind fun s => ?_
    dsimp only
    split
    · exact .pure (.inl rfl)
    · split
      · exact .bind fun _ => ih _
      · refine .bindOf (returns_resolveEvent _) fun r hr => ?_
        split
        · exact .pure (.inr (hr _ rfl))
        · exact ih _

theorem returns_attempt (index : Nat) (step : Step) (row : DataRow) :
    Returns (attempt env index step row) Signal.OfOutcome := by
  unfold attempt
  split
  · refine .bindOf (returns_passFrom _ _) fun before hbefore => ?_
    split
    · exact .pure hbefore
    · refine .bind fun _ => .bindOf (returns_passFrom _ _) fun after hafter => ?_
      split
      · exact .pure hafter
      · split
        · refine .bind fun d => .bind fun s => .bind fun _ => .bindOf (returns_finishOutcome _) fun r hr => ?_
          cases r with
          | none        => exact .pure (.inl rfl)
          | some signal => exact .pure (.inr (hr signal rfl))
        · exact .pure (.inl rfl)
  · exact .fail

/-! ## Steps -/

def Session.Begins (index : Nat) (s : Session σ) : Prop :=
  ∃ e past, s.trace = e :: past ∧ e.moment = .attempted index

/-- `E`, and the invariant as well after an error that may be tried again. -/
def Recovers (I : Session σ → Prop) (E : Halt → Session σ → Prop) (e : Halt) (s : Session σ) : Prop :=
  E e s ∧ ∀ err, e = .error err → err.isRetryable = true → I s

theorem Ensures.recovers {x : Engine σ α} {Q : α → Session σ → Prop} (h : Ensures I x Q fun _ => I) :
    Ensures I x Q (Recovers I fun _ => I) :=
  h.imp (fun _ => id) (fun _ _ => id) fun _ _ hs => ⟨hs, fun _ _ _ => hs⟩

def Signal.target? : Signal → Option Nat
  | .goto t => some t
  | _       => none

theorem Signal.OfOutcome.target?_eq_none {signal : Signal} (h : signal.OfOutcome) : signal.target? = none := by
  rcases h with rfl | h
  · rfl
  · cases signal <;> first | rfl | cases h

def Program.policyTarget? (p : Program) (step : Step) : Option Nat :=
  let policy := p.workflow.effectivePolicy step
  if policy.mode = .goto then p.tables.label? (policy.gotoLabel.getD "") else none

inductive Steps (index : Nat) : Operation σ → Prop
  | dryRun (typeName : String) (row : Nat) : Steps index (.report (.stepDryRun index typeName row))
  | started (typeName : String) (row : Nat) : Steps index (.report (.stepStarted index typeName row))
  | completed (typeName : String) : Steps index (.report (.stepCompleted index typeName))
  | retry (attempt : Nat) (e : RunError) : Steps index (.report (.stepRetry index attempt e))
  | pause {e : Operation σ} : Rests .pausePoll e → Steps index e
  | delay {e : Operation σ} : Rests .retryDelay e → Steps index e
  | current : Steps index (.edit (.onContext fun c => { c with stepIndex := index }))
  | attempted : Steps index (.note (.attempted index))
  | fail (e : RunError) : e.isRetryable = true → Steps index (.fail e)

theorem Steps.ne_observe {index : Nat} {e : Operation σ} (h : Steps index e) : e ≠ .observe := by
  cases h with
  | pause h | delay h => exact h.ne_observe
  | _                 => nofun

theorem Steps.leavesControl {index : Nat} {e : Operation σ} (h : Steps index e) : e.LeavesControl := by
  cases h with
  | pause h | delay h => exact h.leavesControl
  | current           => exact fun _ => rfl
  | _                 => trivial

theorem Steps.leavesRow {index : Nat} {e : Operation σ} (h : Steps index e) : e.LeavesRow := by
  cases h with
  | pause h | delay h => exact h.leavesPlace.leavesRow
  | current           => exact fun _ => ⟨rfl, rfl⟩
  | _                 => trivial

theorem does_applyPolicy (hfail : ∀ e, F (.fail e)) (tables : JumpTables) (index : Nat) (policy : ErrorPolicy)
    (e : RunError) : Does env F (applyPolicy tables index policy e) := by
  unfold applyPolicy
  split
  · exact .pure _
  · exact .pure _
  · exact .pure _
  · exact .pure _
  · dsimp only
    split
    · exact .pure _
    · exact .fail (hfail _)
  · exact .fail (hfail _)
  · exact .fail (hfail _)

section Footprint

variable {index : Nat} (hsteps : ∀ e, Steps index e → F e) (hfail : ∀ e, F (.fail e))
include hsteps hfail

theorem does_attempts {once : Engine σ Signal} (hobserve : F .observe) (honce : Does env F once) (delay made left : Nat) :
    Does env F (attempts env index delay once made left) := by
  have htry : Does env F (tryOnce env index once) := by
    refine .bind (does_checkpoint fun e he => hsteps e (.pause he)) fun _ => ?_
    refine .bind (.onContext _ (hsteps _ .current)) fun _ => .bind (.note (hsteps _ .attempted)) fun _ => ?_
    refine .bind (.observing hobserve honce) fun r => ?_
    cases r with
    | ok signal => exact .pure _
    | error e =>
      dsimp only
      split
      · exact .pure _
      · exact .fail (hfail e)
  induction left generalizing made with
  | zero => exact htry
  | succ left ih =>
    refine .bind htry fun r => ?_
    cases r with
    | ok signal => exact .pure _
    | error e =>
      refine .bind (.report (hsteps _ (.retry _ _))) fun _ => ?_
      exact .bind (does_sleep _ fun e he => hsteps e (.delay he)) fun _ => ih _

theorem does_executeStep {p : Program} {step : Step} {row : DataRow} (hobserve : F .observe)
    (hfailed : ∀ mode e, F (.report (.stepFailed index mode e))) (hattempt : Does env F (attempt env index step row)) :
    Does env F (executeStep env p index step row) := by
  refine .read (fun _ _ => rfl) fun s => ?_
  dsimp only
  split
  · exact .bind (.report (hsteps _ (.dryRun _ _))) fun _ => .pure _
  · refine .bind (.report (hsteps _ (.started _ _))) fun _ => ?_
    refine .bind (does_attempts hsteps hfail hobserve hattempt _ _ _) fun r => ?_
    cases r with
    | ok signal => exact .bind (.report (hsteps _ (.completed _))) fun _ => .pure _
    | error e => exact .bind (.report (hfailed _ e)) fun _ => does_applyPolicy hfail _ _ _ e

end Footprint

def Signal.OfStep (p : Program) (step : Step) (signal : Signal) : Prop :=
  signal.OfOutcome ∨ signal = .skip ∨
    ∃ t, signal = .goto t ∧ (p.workflow.effectivePolicy step).mode = .goto ∧
      p.tables.label? ((p.workflow.effectivePolicy step).gotoLabel.getD "") = some t

/-- The rule of a step.  It begins where `V` holds.  Its attempts keep `I`, as all between them does; a
checkpoint that is passed tells `C` besides, and `B` is what an attempt begins with.  Once the step is over `A`
holds of the place it goes to, if there is one. -/
structure StepRule (env : Env σ) (p : Program) (index : Nat) (step : Step) (row : DataRow) (V I C B : Session σ → Prop)
    (A : Option Nat → Session σ → Prop) (E : Halt → Session σ → Prop) : Prop where
  dryRun : ∀ typeName r s, V s → A none (s.told env (.stepDryRun index typeName r))
  started : ∀ typeName r s, V s → I (s.told env (.stepStarted index typeName r))
  rest : Ensures I (checkpoint env) (fun _ s => I s ∧ C s) E
  begins : ∀ s, I s → C s → B ((s.onContext fun c => { c with stepIndex := index }).record (.attempted index))
  attempt : Ensures B (attempt env index step row) (fun _ => I) (Recovers I E)
  retry : ∀ n e s, I s → I (s.told env (.stepRetry index n e))
  delay : ∀ ms, Ensures I (sleep env .retryDelay ms) (fun _ => I) E
  completed : ∀ typeName s, I s → A none (s.told env (.stepCompleted index typeName))
  failed : ∀ e s, I s →
    A (p.policyTarget? step) (s.told env (.stepFailed index (p.workflow.effectivePolicy step).mode e))
  fail : ∀ e s, e.isRetryable = true → A none s → E (.error e) s
  unlabelled : ∀ label s, (p.workflow.effectivePolicy step).mode = .goto → p.tables.label? label = none →
    label = (p.workflow.effectivePolicy step).gotoLabel.getD "" → A none s →
    E (.error (.structural (.unknownPolicyLabel index label))) s

namespace StepRule

variable {p : Program} {index : Nat} {step : Step} {row : DataRow} {V C B : Session σ → Prop}
  {A : Option Nat → Session σ → Prop}

theorem tryOnce (h : StepRule env p index step row V I C B A E) :
    Ensures I (tryOnce env index (FormReplay.attempt env index step row))
      (fun r s => I s ∧ match r with | .ok signal => signal.OfOutcome | .error e => e.isRetryable = true) E := by
  refine .bind h.rest fun _ => ?_
  refine .bind (R := fun _ s => ∃ s₀, (I s₀ ∧ C s₀) ∧ s = s₀.onContext fun c => { c with stepIndex := index })
    (.modifyContext fun s hs => ⟨s, hs, rfl⟩) fun _ => ?_
  refine .bind (R := fun _ => B) (.note fun s ⟨s₀, hs₀, hs⟩ => hs ▸ h.begins s₀ hs₀.1 hs₀.2) fun _ => ?_
  refine .bind (R := fun r s => match r with
    | .ok signal => I s ∧ signal.OfOutcome
    | .error e   => Recovers I E (.error e) s) ?_ fun r => ?_
  · refine .observing ((h.attempt.and (returns_attempt index step row)).imp (fun s hs => ⟨hs, trivial⟩)
      (fun _ _ => id) fun e s hs => ?_)
    cases e with
    | error e   => exact hs.1
    | outOfFuel => exact hs.1.1
  · cases r with
    | ok signal => exact .pure fun s hs => hs
    | error e =>
      dsimp only
      split
      · rename_i he
        exact .pure fun s hs => ⟨hs.2 e rfl he, he⟩
      · exact .fail fun s hs => hs.1

theorem attempts (h : StepRule env p index step row V I C B A E) (delay made left : Nat) :
    Ensures I (attempts env index delay (FormReplay.attempt env index step row) made left)
      (fun r s => I s ∧ match r with | .ok signal => signal.OfOutcome | .error e => e.isRetryable = true) E := by
  induction left generalizing made with
  | zero => exact h.tryOnce
  | succ left ih =>
    refine .bind h.tryOnce fun r => ?_
    cases r with
    | ok signal => exact .pure fun s hs => hs
    | error e =>
      refine .bind (R := fun _ => I) (.report fun s hs => h.retry _ e s hs.1) fun _ => ?_
      exact .bind (h.delay delay) fun _ => ih _

theorem outcome {signal : Signal} (hsignal : signal.OfOutcome) :
    Ensures (A none) (pure signal) (fun signal s => A signal.target? s ∧ signal.OfStep p step) E := by
  refine .pure fun s hs => ⟨?_, .inl hsignal⟩
  rw [hsignal.target?_eq_none]
  exact hs

theorem applyPolicy (h : StepRule env p index step row V I C B A E) {e : RunError} (he : e.isRetryable = true) :
    Ensures (A (p.policyTarget? step)) (applyPolicy p.tables index (p.workflow.effectivePolicy step) e)
      (fun signal s => A signal.target? s ∧ signal.OfStep p step) E := by
  have hstays : (p.workflow.effectivePolicy step).mode ≠ .goto → ∀ s, A (p.policyTarget? step) s → A none s := by
    intro hmode s hs
    have hnone : p.policyTarget? step = none := if_neg hmode
    exact hnone ▸ hs
  unfold FormReplay.applyPolicy
  split <;> rename_i hmode
  · exact .pure fun s hs => ⟨hstays (by rw [hmode]; nofun) s hs, .inr (.inl rfl)⟩
  · exact (outcome (.inr rfl)).strengthen (hstays (by rw [hmode]; nofun))
  · exact (outcome (.inr rfl)).strengthen (hstays (by rw [hmode]; nofun))
  · exact (outcome (.inr rfl)).strengthen (hstays (by rw [hmode]; nofun))
  · have htarget : p.policyTarget? step = p.tables.label? ((p.workflow.effectivePolicy step).gotoLabel.getD "") :=
      if_pos hmode
    rw [htarget]
    dsimp only
    split
    · rename_i t ht
      rw [ht]
      exact .pure fun s hs => ⟨hs, .inr (.inr ⟨t, rfl, hmode, ht⟩)⟩
    · rename_i hnone
      rw [hnone]
      exact .fail fun s hs => h.unlabelled _ s hmode hnone rfl hs
  · exact .fail fun s hs => h.fail e s he (hstays (by rw [hmode]; nofun) s hs)
  · exact .fail fun s hs => h.fail e s he (hstays (by rw [hmode]; nofun) s hs)

/-- **The rule of a step**: the signal is one of its attempts or of its policy. -/
theorem executeStep (h : StepRule env p index step row V I C B A E) :
    Ensures V (executeStep env p index step row) (fun signal s => A signal.target? s ∧ signal.OfStep p step) E := by
  refine .read fun s₀ hs₀ => ?_
  refine Ensures.strengthen (P := V) ?_ fun s hs => hs ▸ hs₀
  dsimp only
  split
  · exact .bind (R := fun _ => A none) (.report (h.dryRun _ _)) fun _ => outcome (.inl rfl)
  · refine .bind (R := fun _ => I) (.report (h.started _ _)) fun _ => ?_
    refine .bind (h.attempts _ 0 _) fun r => .fix fun s₁ hs₁ => ?_
    refine Ensures.strengthen (P := I) ?_ fun s hs => hs ▸ hs₁.1
    cases r with
    | ok signal => exact .bind (R := fun _ => A none) (.report (h.completed _)) fun _ => outcome hs₁.2
    | error e =>
      exact .bind (R := fun _ => A (p.policyTarget? step)) (.report (h.failed e)) fun _ => h.applyPolicy hs₁.2

end StepRule

/-! What all that happens around the attempts of a step keeps, the step keeps.  `A` is the invariant of going on to
a place, if there is one to go to. -/

section Policies

variable {index : Nat} {p : Program} {step : Step} {A : Option Nat → Session σ → Prop}

theorem StepRule.ofKeeps {row : DataRow} (hk : ∀ e, Steps index e → e.Keeps env I E)
    (hfuel : ∀ s, I s → E .outOfFuel s) (hA : A none = I)
    (hlabel : ∀ label s, (p.workflow.effectivePolicy step).mode = .goto → p.tables.label? label = none →
      label = (p.workflow.effectivePolicy step).gotoLabel.getD "" → I s →
      E (.error (.structural (.unknownPolicyLabel index label))) s)
    (hfailed : ∀ e s, I s →
      A (p.policyTarget? step) (s.told env (.stepFailed index (p.workflow.effectivePolicy step).mode e)))
    (hattempt : Ensures (fun s => I s ∧ s.Begins index) (FormReplay.attempt env index step row) (fun _ => I)
      (Recovers I E)) :
    StepRule env p index step row I I (fun _ => True) (fun s => I s ∧ s.Begins index) A E where
  dryRun typeName r s hs := hA ▸ hk _ (.dryRun typeName r) s hs
  started typeName r := hk _ (.started typeName r)
  rest := by
    have hcheck : Does env (Steps index) (checkpoint env) := does_checkpoint fun _ => .pause
    exact (hcheck.ensures hk hfuel).weaken fun _ s hs => ⟨hs, trivial⟩
  begins s hs _ := ⟨hk _ .attempted _ (hk _ .current (fun _ _ => rfl) s hs), _, _, rfl, rfl⟩
  attempt := hattempt
  retry n e := hk _ (.retry n e)
  delay ms := by
    have hsleep : Does env (Steps index) (sleep env .retryDelay ms) := does_sleep ms fun _ => .delay
    exact hsleep.ensures hk hfuel
  completed typeName s hs := hA ▸ hk _ (.completed typeName) s hs
  failed := hfailed
  fail e s he hs := hk _ (.fail e he) s (hA ▸ hs)
  unlabelled label s hmode hnone hlab hs := hlabel label s hmode hnone hlab (hA ▸ hs)

end Policies

end FormReplay
