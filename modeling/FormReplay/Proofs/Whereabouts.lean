import FormReplay.Proofs.Confinement
import FormReplay.Proofs.Engine.Decision
/-!
# Where a run is

The context names the step in progress and the row that it runs against.  Both are overwritten by every step, loop and
row, and the frames that a loop opens come and go in between.  What the step in progress is can be read off the trace:
it is the one that the innermost frame came to last.  Whenever the host is asked, a value is resolved or a condition is
judged, and whenever an interruption or a decision is told of, the context is of this step and of the row of this frame.
-/
namespace FormReplay

variable {σ : Type} {env : Env σ}

/-! ## Calls -/

def Moment.step? : Moment → Option Nat
  | .asked (.request r) _                        => some r.stepIndex
  | .progress (.interruptionDetected i _)        => some i
  | .progress (.interruptionHandled i _ _)       => some i
  | .progress (.decisionRequested r)             => some r.stepIndex
  | .progress (.decisionApplied _ i _ _)         => some i
  | _                                            => none

def Moment.carried? : Moment → Option Step
  | .asked (.execute step _) _ => some step
  | _                          => none

/-- The host is asked, a value is to be resolved or a condition to be judged, or the host is told of an interruption or
of a decision. -/
def Moment.IsCall : Moment → Prop
  | .asked .. | .resolving .. | .judging .. => True
  | m                                       => m.step?.isSome = true

/-- The innermost frame has come to a step, and the context is of this step and of the row of the frame.  What is carried
out is the step. -/
def Entry.InPlace (w : Workflow) (e : Entry) (past : List Entry) : Prop :=
  ∃ f i outer, whereabouts past = (f, some i) :: outer ∧ e.context.stepIndex = i ∧ e.context.row = f.row ∧
    ∀ step ∈ e.moment.carried?, w.steps[i]? = some step

def Placed (w : Workflow) (e : Entry) (past : List Entry) : Prop := e.moment.IsCall → e.InPlace w past

/-! ## Names of steps -/

def Entry.NamesStep (e : Entry) : Prop := ∀ i ∈ e.moment.step?, i = e.context.stepIndex

def NamesSteps (s : Session σ) : Prop := ∀ e ∈ s.trace, e.NamesStep

def Moment.IsNameless (m : Moment) : Prop := m.step? = none

theorem Moment.IsRoutine.isNameless {m : Moment} (h : m.IsRoutine) : m.IsNameless := by
  unfold IsNameless step?
  split <;> first | rfl | exact h.elim

theorem Moment.IsLook.isNameless {m : Moment} (h : m.IsLook) : m.IsNameless := by
  unfold Moment.IsLook at h
  split at h <;> first | rfl | exact h.elim

theorem Entry.namesStep_of_nameless {e : Entry} (h : e.moment.IsNameless) : e.NamesStep := fun i hi => by
  rw [h] at hi
  cases hi

theorem keptBy_namesSteps : KeptBy Moment.IsNameless fun s : Session σ => NamesSteps s :=
  .ofTrace (T := fun trace => ∀ e ∈ trace, e.NamesStep) (fun _ => rfl) fun _ _ hm h =>
    List.forall_mem_cons.2 ⟨Entry.namesStep_of_nameless hm, h⟩

theorem keeps_namesSteps {e : Operation σ} (he : e.Adds Moment.IsNameless) : e.Keeps env NamesSteps fun _ => NamesSteps :=
  he.keeps (T := fun trace => ∀ e ∈ trace, e.NamesStep) (fun _ => rfl) fun _ _ hm h =>
    List.forall_mem_cons.2 ⟨Entry.namesStep_of_nameless hm, h⟩

theorem Rests.keeps_namesSteps {reason : SleepReason} {e : Operation σ} (he : Rests reason e) :
    e.Keeps env NamesSteps fun _ => NamesSteps :=
  FormReplay.keeps_namesSteps (he.adds fun _ => Moment.IsLook.isNameless)

theorem NamesSteps.told {s : Session σ} {e : ProgressEvent} (h : NamesSteps s)
    (he : (Moment.progress e).step? = some s.context.stepIndex) : NamesSteps (s.told env e) := by
  refine keptBy_namesSteps.accept _ _ (List.forall_mem_cons.2 ⟨fun i hi => ?_, h⟩)
  exact (Option.some.inj (he.symm.trans hi)).symm

theorem names_finishOutcome (outcome : Outcome) :
    Ensures NamesSteps (finishOutcome env outcome) (fun _ => NamesSteps) fun _ => NamesSteps :=
  ensures_finishOutcome (fun _ he => he.keeps_namesSteps) (fun _ => id) fun _ => id

theorem names_applyHandler (event : Event) (h : Handler) :
    Ensures NamesSteps (applyHandler env event h) (fun _ => NamesSteps) fun _ => NamesSteps := by
  have hactions : Does env (Operation.Adds Moment.IsNameless) (h.actions.forM (applyAction env event)) :=
    .forM (does_applyAction (fun _ _ => rfl) (fun _ => rfl) fun _ he => he.adds fun _ => Moment.IsLook.isNameless)
  refine .bind (hactions.ensures (fun _ => keeps_namesSteps) fun _ => id) fun _ => .read fun s₀ hs₀ => ?_
  refine .bind (R := fun _ => NamesSteps) (.report fun s hs => ?_) fun _ => names_finishOutcome _
  subst hs
  exact hs₀.told rfl

/-- **A request names the step in progress**, when it is told of and when it is put. -/
theorem names_awaitDecision (event : Option Event) (options : List String) :
    Ensures NamesSteps (awaitDecision env event options) (fun _ => NamesSteps) fun _ => NamesSteps := by
  have hanswered : ∀ (r : DecisionRequest) (s : Session σ), NamesSteps s ∧ s.context.stepIndex = r.stepIndex →
      NamesSteps (s.answered env (.request r)) := fun r s hs =>
    keptBy_namesSteps.accept _ _ (List.forall_mem_cons.2 ⟨fun i hi => (Option.some.inj hi).symm.trans hs.2.symm, hs.1⟩)
  have hrule : AwaitRule env event options NamesSteps (fun r s => NamesSteps s ∧ s.context.stepIndex = r.stepIndex)
      (fun _ => NamesSteps) (fun _ _ => NamesSteps) fun _ => NamesSteps := {
    begins := fun s hs => by
      let r := s.request event options
      have htold : NamesSteps ((s.held r.id).told env (.decisionRequested r)) := NamesSteps.told (s := s.held r.id) hs rfl
      have hcontext : ((s.held r.id).told env (.decisionRequested r)).context = (s.held r.id).context :=
        ((s.held r.id).told_learned _).2
      exact ⟨htold, by rw [hcontext]; rfl⟩
    put := fun r s hs _ => hanswered r s hs
    refused := fun r s _ hs _ => hanswered r s hs
    stopped := fun _ _ hs _ => hs
    taken := fun _ _ _ _ hs _ _ => hs
    missed := fun _ s rest hs _ _ => keptBy_namesSteps.rested (s.withInbox rest) .decisionPoll env.config.decisionPoll rfl hs
    outOfFuel := fun _ _ hs => hs }
  exact hrule.awaitDecision.weaken fun _ _ ⟨_, _, hs⟩ => hs

theorem names_decideOn (event : Event) :
    Ensures NamesSteps (decideOn env event) (fun _ => NamesSteps) fun _ => NamesSteps := by
  refine .bind (names_awaitDecision _ _) fun d => ?_
  have hrule : ApplyRule env event d NamesSteps NamesSteps NamesSteps fun _ => NamesSteps := {
    carry := fun e he => by
      cases he with
      | settle _ _ he => exact he.keeps_namesSteps
      | acknowledge   => exact keeps_namesSteps trivial
      | _             => exact keeps_namesSteps fun _ => rfl
    applied := fun _ hs => hs.told rfl
    learn := fun _ => ensures_learn_told (fun _ => id) (fun _ s hs => keptBy_namesSteps.told s _ rfl hs) fun _ _ _ => id
    skip := fun _ _ => id
    finish := names_finishOutcome _
    outOfFuel := fun _ => id }
  exact hrule.applyDecision

theorem names_resolveUnhandled (event : Event) :
    Ensures NamesSteps (resolveUnhandled env event) (fun _ => NamesSteps) fun _ => NamesSteps := by
  have hdetect : (Operation.ask .detect : Operation σ).Keeps env NamesSteps fun _ => NamesSteps := keeps_namesSteps fun _ => rfl
  have hhalt : Ensures NamesSteps (halt : Engine σ (Option Signal)) (fun _ => NamesSteps) fun _ => NamesSteps :=
    ensures_halting fun _ => id
  have hcleared : Does env (fun e => e.Keeps env NamesSteps fun _ => NamesSteps) (awaitCleared env event.patternKey env.fuel) :=
    does_awaitCleared event.patternKey env.fuel (fun _ => Rests.keeps_namesSteps) (fun _ => Rests.keeps_namesSteps) hdetect
  have hdoes := does_resolveUnhandled hhalt (.whole (names_decideOn event)) (keeps_namesSteps trivial) hcleared
    (keeps_namesSteps trivial)
  exact hdoes.ensures (fun _ => id) fun _ => id

theorem lookRule_names : LookRule env NamesSteps (fun _ => NamesSteps) fun _ => NamesSteps where
  stopped _ := id
  look := keeps_namesSteps (e := .ask .detect) fun _ => rfl
  nothing _ _ hs _ := hs
  benign _ _ _ hs _ _ := hs
  resolve _ event s₀ hs₀ _ _ := by
    refine .read fun s hs => .bind (R := fun _ => NamesSteps) (.report fun s' hs' => ?_) fun _ => ?_
    · subst hs hs'
      exact hs₀.told rfl
    · split
      · split
        · exact names_applyHandler event _
        · exact names_resolveUnhandled event
      · exact names_resolveUnhandled event

theorem passRule_names : PassRule env NamesSteps fun _ => NamesSteps where
  keeps _ he := keeps_namesSteps (he.1.mono fun _ => Moment.IsRoutine.isNameless)
  ends _ _ := id
  pass := (lookRule_names.passFrom 0 _).recovers
  confirm := by
    refine Ensures.recovers ?_
    rw [confirmStep_eq]
    refine .bind (names_awaitDecision none _) fun d => ?_
    exact ensures_applyConfirmation (fun _ hs => hs.told rfl) (names_finishOutcome _)

/-! ## The step in progress -/

def Moment.Moves : Moment → Prop
  | .visited _ | .entered .. | .left _ => True
  | _                                  => False

theorem whereabouts_cons {e : Entry} (he : ¬e.moment.Moves) (past : List Entry) :
    whereabouts (e :: past) = whereabouts past := by
  rw [whereabouts]
  split <;> rename_i hm <;> first | rfl | (rw [hm] at he; exact absurd trivial he)

def Moment.IsQuiet (m : Moment) : Prop := ¬m.IsCall ∧ ¬m.Moves

def Moment.StaysAt (w : Workflow) (i : Nat) (m : Moment) : Prop :=
  ¬m.Moves ∧ ∀ step ∈ m.carried?, w.steps[i]? = some step

/-- All calls were made in place, and the whereabouts are these. -/
structure Session.Around (w : Workflow) (here : Nest) (s : Session σ) : Prop where
  here : whereabouts s.trace = here
  placed : Always (Placed w) s.trace

/-- As well, the innermost frame has come to a step, and the context is of this step and of the row of the frame. -/
structure Session.At (w : Workflow) (i : Nat) (f : Frame) (outer : Nest) (s : Session σ) : Prop extends
    s.Around w ((f, some i) :: outer) where
  step : s.context.stepIndex = i
  row : s.context.row = f.row

def Session.Within (w : Workflow) (f : Frame) (outer : Nest) (s : Session σ) : Prop :=
  (∃ at_, s.Around w ((f, at_) :: outer)) ∧ s.context.row = f.row

/-- What is left where a run ends early: a navigation ends it at a step. -/
structure EndsAt (w : Workflow) (halt : Halt) (s : Session σ) : Prop where
  placed : Always (Placed w) s.trace
  suspended : ∀ reason, halt = .error (.navigation reason) → ∃ i f outer, s.At w i f outer

section Keeping

variable {w : Workflow} {here outer : Nest} {i : Nat} {f : Frame} {s : Session σ} {row : DataRow}

theorem Session.Around.record (h : s.Around w here) {m : Moment} (hm : m.IsQuiet) : (s.record m).Around w here :=
  ⟨(whereabouts_cons hm.2 _).trans h.here, fun hcall => absurd hcall hm.1, h.placed⟩

theorem keptBy_around (P : DataRow → Prop) :
    KeptBy Moment.IsQuiet fun s : Session σ => s.Around w here ∧ P s.context.row where
  acted _ := ⟨nofun, id⟩
  record _ _ hm hs := ⟨hs.1.record hm, hs.2⟩
  world _ _ hs := ⟨⟨hs.1.here, hs.1.placed⟩, hs.2⟩

theorem Session.Around.ends (h : s.Around w here) {halt : Halt} (hhalt : ∀ reason, halt ≠ .error (.navigation reason)) :
    EndsAt w halt s := ⟨h.placed, fun reason hreason => absurd hreason (hhalt reason)⟩

theorem Session.At.within (h : s.At w i f outer) : s.Within w f outer := ⟨⟨_, h.toAround⟩, h.row⟩

theorem Session.At.ends (h : s.At w i f outer) (halt : Halt) : EndsAt w halt s := ⟨h.placed, fun _ _ => ⟨i, f, outer, h⟩⟩

/-- **At a step every call is in place.** -/
theorem Session.At.record (h : s.At w i f outer) {m : Moment} (hm : m.StaysAt w i) : (s.record m).At w i f outer := by
  have hplace : Entry.InPlace w ⟨s.world.clock, s.world.control, s.context, m⟩ s.trace :=
    ⟨f, i, outer, h.here, h.step, h.row, hm.2⟩
  exact ⟨⟨(whereabouts_cons hm.1 _).trans h.here, fun _ => hplace, h.placed⟩, h.step, h.row⟩

theorem keptBy_at : KeptBy (Moment.StaysAt w i) fun s : Session σ => s.At w i f outer where
  acted _ := ⟨id, fun _ h => nomatch h⟩
  record _ _ hm hs := hs.record hm
  world _ _ hs := ⟨⟨hs.here, hs.placed⟩, hs.step, hs.row⟩

theorem keeps_at {e : Operation σ} (he : e.Adds (Moment.StaysAt w i)) (hplace : e.LeavesPlace) :
    e.Keeps env (fun s => s.At w i f outer) fun _ s => s.At w i f outer := by
  refine keptBy_at.keeps he fun g hg hblind s hs => ?_
  subst hg
  have htrace : (g s).trace = s.trace := hblind.trace_eq s
  exact ⟨⟨htrace ▸ hs.here, htrace ▸ hs.placed⟩, (hplace s).stepIndex.trans hs.step, (hplace s).row.trans hs.row⟩

theorem Moment.IsMinor.staysAt {m : Moment} (h : m.IsMinor) : m.StaysAt w i := by
  unfold Moment.IsMinor at h
  refine ⟨fun hmoves => ?_, fun step hstep => ?_⟩
  · unfold Moment.Moves at hmoves
    split at hmoves <;> first | exact h | exact hmoves
  · unfold Moment.carried? at hstep
    split at hstep
    · exact h.elim
    · cases hstep

/-! ### Steps -/

theorem placed_checkpoint (P : DataRow → Prop) :
    Ensures (fun s : Session σ => s.Around w here ∧ P s.context.row) (checkpoint env)
      (fun _ s => s.Around w here ∧ P s.context.row) (EndsAt w) := by
  have hrest : Does env (Rests .pausePoll) (checkpoint env) := does_checkpoint fun _ => id
  refine hrest.ensures (fun e he => ?_) fun s hs => hs.1.ends fun _ h => nomatch h
  cases he with
  | sleep ms => exact fun s => (keptBy_around P).rested s _ _ ⟨nofun, id⟩
  | stopped  => exact fun s hs => hs.1.ends fun _ h => nomatch h

theorem placed_evaluate (row : DataRow) (c : Condition) :
    Ensures (fun s : Session σ => s.At w i f outer) (evaluate env row c) (fun _ s => s.At w i f outer) (EndsAt w) := by
  have hlooks : Does env Looks (evaluate env row c) := does_evaluate row c fun _ => .judges
  have hat : Ensures (fun s : Session σ => s.At w i f outer) (evaluate env row c) (fun _ s => s.At w i f outer)
      fun _ s => s.At w i f outer :=
    hlooks.ensures (fun _ he => keeps_at (he.adds fun _ hm => hm.isMinor.staysAt) he.leavesPlace) fun _ => id
  exact hat.imp (fun _ => id) (fun _ _ => id) fun halt _ hs => hs.ends halt

/-- **An ordinary step makes its calls in place.** -/
theorem placed_executeStep {p : Program} {step : Step} (hstep : p.workflow.steps[i]? = some step) :
    Ensures (fun s : Session σ => s.At p.workflow i f outer) (executeStep env p i step f.row)
      (fun signal s => s.At p.workflow i f outer ∧ signal.OfStep p step) (EndsAt p.workflow) := by
  let J : Session σ → Prop := fun s => s.At p.workflow i f outer
  have hends : ∀ {e : Operation σ}, e.Keeps env J (fun _ => J) → e ≠ .observe → e.Keeps env J (EndsAt p.workflow) :=
    fun h => h.weaken fun halt _ hs => hs.ends halt
  have hsteps : ∀ e : Operation σ, Steps i e → e.Keeps env J (EndsAt p.workflow) := fun e he => by
    cases he with
    | pause h | delay h => exact hends (keeps_at (h.adds fun _ hm => hm.isMinor.staysAt) h.leavesPlace) h.ne_observe
    | current           => exact fun _ s hs => ⟨⟨hs.here, hs.placed⟩, rfl, hs.row⟩
    | fail _ _          => exact hends (keeps_at trivial trivial) nofun
    | attempted | dryRun _ _ | started _ _ | completed _ | retry _ _ =>
      exact hends (keeps_at ⟨id, fun _ h => nomatch h⟩ trivial) nofun
  have hdoes : Does env (fun e => e.Adds (Moment.StaysAt p.workflow i) ∧ e.LeavesPlace) (attempt env i step f.row) :=
    does_attempt_minor (fun _ => Moment.IsMinor.staysAt) (fun _ _ => ⟨id, fun _ h => by cases h; exact hstep⟩) i f.row
  have hattempt : Ensures J (attempt env i step f.row) (fun _ => J) fun _ => J :=
    hdoes.ensures (fun _ he => keeps_at he.1 he.2) fun _ => id
  refine (StepRule.ofKeeps (A := fun _ => J) hsteps (fun _ hs => hs.ends _) rfl (fun _ _ _ _ _ hs => hs.ends _)
    (fun e s hs => keptBy_at.told s _ ⟨id, fun _ h => nomatch h⟩ hs) (hattempt.imp (fun _ hs => hs.1) (fun _ _ => id)
      fun halt _ hs => ⟨hs.ends halt, fun _ _ _ => hs⟩)).executeStep

/-! ### Loops -/

theorem Session.Around.enter (h : s.Around w here) (first last : Nat) (row : DataRow) :
    (s.record (.entered first last row)).Around w ((⟨first, last, row⟩, none) :: here) :=
  ⟨congrArg _ h.here, nofun, h.placed⟩

theorem Session.Around.leave {at_ : Frame × Option Nat} (h : s.Around w (at_ :: here)) (signal : Signal) :
    (s.record (.left signal)).Around w here :=
  ⟨congrArg List.tail h.here, nofun, h.placed⟩

theorem placed_loopIteration (k : Nat) (name : Option String) :
    Ensures (fun s : Session σ => s.Around w here ∧ s.context.row = row) (report env (.loopIteration i k name))
      (fun _ s => s.Around w here ∧ s.context.row = row) (EndsAt w) :=
  .report fun s => (keptBy_around (· = row)).told s _ ⟨nofun, id⟩

theorem placed_beginRow (p : Program) (k : Nat) (row : DataRow) :
    Ensures (fun s : Session σ => s.Around w here) (beginRow env p k row)
      (fun _ s => s.Around w here ∧ s.context.row = row) (EndsAt w) :=
  ensures_beginRow fun s hs =>
    (keptBy_around (· = row)).told (s.began _ row) _ ⟨nofun, id⟩ ⟨⟨hs.here, hs.placed⟩, rfl⟩

theorem placed_enterRow (p : Program) (isPrimary isFirst : Bool) (k : Nat) (row : DataRow) :
    Ensures (fun s : Session σ => s.Around w here) (enterRow env p isPrimary isFirst k row)
      (fun _ s => s.Around w here ∧ s.context.row = row) (EndsAt w) := by
  unfold enterRow
  split
  · exact placed_beginRow p _ row
  · exact .modifyContext fun s hs => ⟨⟨hs.here, hs.placed⟩, rfl⟩

/-- **A loop restores the context**: the row at its end, and the step before each test of its condition. -/
theorem placed_runLoop {p : Program} {spec : LoopSpec} {last : Nat} {body : DataRow → Engine σ Signal}
    (hbody : ∀ row, Ensures (fun s => s.Around w ((f, some i) :: outer) ∧ s.context.row = row) (body row)
      (fun signal s => (s.Around w ((f, some i) :: outer) ∧ s.context.row = row) ∧ ∀ t ∈ signal.target?, t < last)
      (EndsAt w)) :
    Ensures (fun s => s.At w i f outer) (runLoop env p i spec f.row body)
      (AfterLoop fun goal s => s.Within w f outer ∧ ∀ t ∈ goal, t < last) (EndsAt w) := by
  -- Between the turns of a data loop the row is that of the turn before.
  let P : DataRow → Prop := fun row => (∀ source most, spec.mode ≠ .data source most) → row = f.row
  let A : Option Nat → Session σ → Prop := fun goal s =>
    (s.Around w ((f, some i) :: outer) ∧ P s.context.row) ∧ ∀ t ∈ goal, t < last
  have hrule : LoopRule env p i spec f.row body A (fun _ _ => True) (EndsAt w) := {
    rest := (placed_checkpoint P).imp (fun _ hs => hs.1) (fun _ _ hs => ⟨hs, nofun⟩) fun _ _ => id
    test := fun condition most hmode => by
      refine .bind (R := fun _ s => s.At w i f outer) (.modifyContext fun s hs => ?_) fun _ =>
        (placed_evaluate f.row condition).weaken fun _ s hs => ⟨⟨hs.toAround, fun _ => hs.row⟩, nofun⟩
      exact ⟨⟨hs.1.1.here, hs.1.1.placed⟩, rfl, hs.1.2 (by rw [hmode]; nofun)⟩
    turn := fun hmode k => by
      refine (Ensures.bind (placed_loopIteration k spec.id) fun _ => hbody f.row).imp (fun s hs => ⟨hs.1.1, hs.1.2 hmode⟩)
        (fun signal s hs => ⟨⟨hs.1.1, fun _ => hs.1.2⟩, hs.2⟩) fun _ _ => id
    position := fun source most k item first hmode _ => by
      refine .bind ((placed_checkpoint P).strengthen fun s hs => hs.1.1) fun _ => ?_
      refine .bind ((placed_enterRow p _ first k _).strengthen fun s hs => hs.1) fun _ =>
        .bind (placed_loopIteration k spec.id) fun _ => ?_
      exact (hbody _).weaken fun signal s hs => ⟨⟨⟨hs.1.1, fun hnot => absurd hmode (hnot source most)⟩, hs.2⟩, trivial⟩
    restore := fun goal s hs => ⟨⟨⟨hs.1.1.here, hs.1.1.placed⟩, fun _ => rfl⟩, hs.2⟩ }
  have hloop : Ensures (fun s => s.At w i f outer) (runLoop env p i spec f.row body) (AfterLoop A) (EndsAt w) :=
    hrule.runLoop.strengthen fun s hs => ⟨⟨hs.toAround, fun _ => hs.row⟩, nofun⟩
  by_cases hdata : ∃ source most, spec.mode = .data source most
  · obtain ⟨source, most, hmode⟩ := hdata
    have hrow : Ensures (fun _ => True) (runLoop env p i spec f.row body) (fun _ s => s.context.row = f.row) fun _ _ => True :=
      ensures_runLoop_row hmode fun _ => True
    refine (hloop.and hrow).imp (fun s hs => ⟨hs, trivial⟩) (fun signal s hs => ?_) fun _ _ hs => hs.1
    exact ⟨⟨⟨⟨_, hs.1.1.1.1⟩, hs.2⟩, hs.1.1.2⟩, hs.1.2⟩
  · refine hloop.weaken fun signal s hs => ⟨⟨⟨⟨_, hs.1.1.1⟩, ?_⟩, hs.1.2⟩, hs.2⟩
    exact hs.1.1.2 fun source most hmode => hdata ⟨source, most, hmode⟩

/-! ### Programs -/

/-- **What a walk over the steps keeps**: a frame is told of the frames around it. -/
theorem walkRule_placed {p : Program} (tables : p.tables.Within p.workflow.steps.length) :
    WalkRule env p (fun _ f outer (s : Session σ) => s.Within p.workflow f outer)
      (fun i f outer s => s.At p.workflow i f outer) (EndsAt p.workflow) where
  tables := tables
  arrive _ f outer i _ _ := .fix fun s₀ ⟨⟨at_, hs₀⟩, hrow⟩ => by
    have hrest : Ensures (fun s : Session σ => s.Around p.workflow ((f, at_) :: outer) ∧ s.context.row = f.row)
        (checkpoint env) (fun _ s => s.Around p.workflow ((f, at_) :: outer) ∧ s.context.row = f.row) (EndsAt p.workflow) :=
      placed_checkpoint (· = f.row)
    refine .bind (hrest.strengthen fun s hs => hs ▸ ⟨hs₀, hrow⟩) fun _ =>
      ensures_visit fun s hs => ⟨⟨?_, nofun, hs.1.placed⟩, rfl, hs.2⟩
    exact congrArg (List.modifyHead fun at_ => (at_.1, some i)) hs.1.here
  stay _ _ _ _ hs := hs.within
  condition _ f _ _ c _ _ := (placed_evaluate f.row c).weaken fun _ _ hs => hs.within
  step _ _ _ _ _ hstep _ := (placed_executeStep hstep).weaken fun _ _ hs => ⟨hs.1.within, hs.2⟩
  loop i f outer _ _ stop _ _ _ _ _ hbody := placed_runLoop fun row =>
    ensures_inFrame (fun _ hs => ⟨⟨_, hs.1.enter (i + 1) stop row⟩, hs.2⟩) (hbody row ((f, some i) :: outer))
      fun signal _ ⟨⟨⟨_, hs⟩, hrow⟩, hemits⟩ => ⟨⟨hs.leave signal, hrow⟩, hemits.target_lt⟩
  miss _ _ _ _ _ _ _ := fun ⟨⟨_, hs⟩, _⟩ => hs.ends fun _ h => nomatch h

theorem placed_executeProgram {p : Program} (tables : p.tables.Within p.workflow.steps.length) :
    Ensures (fun s : Session σ => s.Around p.workflow [] ∧ s.context.row = .empty) (executeProgram env p)
      (fun _ s => s.Around p.workflow []) (EndsAt p.workflow) := by
  have hrange : ∀ row, Ensures (fun s : Session σ => s.Around p.workflow [] ∧ s.context.row = row)
      (executeRange env p 0 p.workflow.steps.length row) (fun signal s => s.Around p.workflow [] ∧ signal.OfOutcome)
      (EndsAt p.workflow) := fun row =>
    (walkRule_placed tables).executeRange (fun _ _ _ _ ⟨⟨_, hs⟩, _⟩ => hs.ends fun _ h => nomatch h) row []
      (fun s hs => ⟨⟨_, hs.1.enter _ _ row⟩, hs.2⟩) fun signal s _ ⟨⟨_, hs⟩, _⟩ => hs.leave signal
  have hcheck : ∀ signal, Ensures (fun s : Session σ => s.Around p.workflow [] ∧ signal.OfOutcome) (checkEscaped signal)
      (fun _ s => s.Around p.workflow []) (EndsAt p.workflow) :=
    ensures_checkEscaped fun _ s _ hs => hs.ends fun _ h => nomatch h
  unfold executeProgram
  split
  · exact .bind (hrange .empty) hcheck
  · have hrows : Ensures (fun s : Session σ => s.Around p.workflow []) (executeRows env p 0 p.rows)
        (fun _ s => s.Around p.workflow []) (EndsAt p.workflow) := by
      refine ensures_executeRows (P := fun _ s => s.Around p.workflow []) (fun _ _ => ?_) (fun _ row _ => ?_)
        (fun _ row _ => hrange row) fun _ signal _ => hcheck signal
      · exact (placed_checkpoint fun _ => True).imp (fun _ hs => ⟨hs, trivial⟩) (fun _ _ hs => hs.1) fun _ _ => id
      · exact placed_beginRow p _ row
    exact hrows.strengthen fun _ hs => hs.1

end Keeping

/-- **The context describes the step in progress.**  In every run, whatever the host does, whenever it is asked, a value is
resolved from whatever source or a condition is judged, and whenever an interruption or a decision is told of, the
innermost frame has come to a step: the context is of this step and of the row of this frame, what is carried out is this
step, and what names a step names it.  And where a run can be taken up again, it is at the step that the innermost frame
came to last. -/
theorem context_describes_step (env : Env σ) (w : Workflow) (input : RunInput) (world : World σ) :
    (∀ later e past, history env w input world = later ++ e :: past → e.moment.IsCall → e.InPlace w past ∧ e.NamesStep) ∧
    ∀ f ∈ run env w input world, ∀ point ∈ f.report.resume,
      ∃ frame outer, whereabouts (history env w input world) = (frame, some point.stepIndex) :: outer := by
  let p := w.program w.analyze.1 input env.options
  let Q : Session σ → Prop := fun s => Always (Placed w) s.trace ∧ NamesSteps s
  have hexecution : Ensures (fun s : Session σ => (s.Around w [] ∧ s.context.row = .empty) ∧ NamesSteps s)
      (execution env w input) (fun _ => Q) fun halt s => EndsAt w halt s ∧ NamesSteps s := by
    refine ensures_execution (fun _ => ?_) fun fault s hs => ⟨hs.1.1.ends fun _ h => (nomatch h), hs.2⟩
    have hplaced : Ensures (fun s : Session σ => s.Around w [] ∧ s.context.row = .empty) (executeProgram env p)
        (fun _ s => s.Around w []) (EndsAt w) := placed_executeProgram (p := p) w.within_analyze
    exact (hplaced.and (passRule_names.executeProgram w.within_analyze)).weaken fun _ s hs => ⟨hs.1.placed, hs.2⟩
  have hstart : ((started env w world).Around w [] ∧ (started env w world).context.row = .empty) ∧
      NamesSteps (started env w world) :=
    ⟨(keptBy_around (· = .empty)).told _ _ ⟨nofun, id⟩ ⟨⟨rfl, trivial⟩, rfl⟩,
      keptBy_namesSteps.told _ _ rfl fun _ he => absurd he List.not_mem_nil⟩
  have hcalls : ∀ s : Session σ, Q s → ∀ later e past, s.trace = later ++ e :: past → e.moment.IsCall →
      e.InPlace w past ∧ e.NamesStep := fun s hs later e past hsplit hcall =>
    ⟨(hsplit ▸ hs.1).split hcall, hs.2 e (hsplit ▸ List.mem_append_right _ (.head _))⟩
  obtain ⟨r, s, hok, herror, hrun, hhistory⟩ | ⟨s, hout, hrun, hhistory⟩ := run_ensures hexecution world hstart
  · have hs : Q s := by
      cases r with
      | ok a    => exact hok a rfl
      | error e => exact (herror e rfl).imp_left EndsAt.placed
    have hquiet : ∀ outcome resume rows learned, (Moment.progress (.runEnded outcome resume rows learned)).IsQuiet :=
      fun _ _ _ _ => ⟨nofun, id⟩
    have hended : (s.ended env r).Around w (whereabouts s.trace) :=
      ((keptBy_around fun _ => True).told s _ (hquiet _ _ _ _) ⟨⟨rfl, hs.1⟩, trivial⟩).1
    rw [hhistory, hrun]
    refine ⟨hcalls _ ⟨hended.placed, keptBy_namesSteps.told s _ rfl hs.2⟩, fun f hf point hpoint => ?_⟩
    cases hf
    obtain ⟨reason, rfl, rfl⟩ := Session.report_resume hpoint
    obtain ⟨i, frame, outer, hat⟩ := (herror _ rfl).1.suspended reason rfl
    refine ⟨frame, outer, ?_⟩
    rw [hended.here, hat.here, hat.step]
  · rw [hhistory, hrun]
    exact ⟨hcalls s (hout.imp_left EndsAt.placed), fun _ hf => (nomatch hf)⟩

def whileMore : Workflow where
  steps := [
    { kind := .loopStart { mode := .whileHolds (.ui "#more" .visible none) none } },
    { kind := .loopStart { mode := .data none none } },
    { kind := .action .click { target := some "#x" } },
    { kind := .loopEnd none },
    { kind := .loopEnd none }]

def moreOnce : Host Bool where
  answer q looked :=
    match q with
    | .inspect _ => ⟨.ok (if looked then .missing else .shown "more"), true, []⟩
    | q          => ⟨(Host.inert.answer q ()).answer, looked, []⟩
  observe _ looked := ⟨(), looked, []⟩
  elapse _ _ looked := ⟨(), looked, []⟩
  hasClipboard := false

def moreEnv : Env Bool := ⟨moreOnce, {}, {}, 10, ⟨0, 0⟩⟩

/-- Once a row was gone through, the condition is tested again: the context is back at the outer loop and its row. -/
theorem more_tested_in_place :
    ∃ later e past frame outer, history moreEnv whileMore ⟨⟨"p", [.empty]⟩, []⟩ { host := false } = later ++ e :: past ∧
      (e.moment matches .asked (.inspect _) _) = true ∧ e.context.rowsProcessed = 1 ∧
      whereabouts past = (frame, some 0) :: outer ∧ e.context.row = frame.row := by
  have hfound : ∃ e ∈ history moreEnv whileMore ⟨⟨"p", [.empty]⟩, []⟩ { host := false },
      (e.moment matches .asked (.inspect _) _) = true ∧ e.context.rowsProcessed = 1 ∧ e.context.stepIndex = 0 := by
    decide +kernel
  obtain ⟨e, he, hinspects, hrows, hstep⟩ := hfound
  obtain ⟨later, past, hsplit⟩ := List.append_of_mem he
  have hcall : e.moment.IsCall := by
    cases hm : e.moment with
    | asked q r => trivial
    | _         => rw [hm] at hinspects; cases hinspects
  obtain ⟨⟨frame, i, outer, hhere, hi, hrow, -⟩, -⟩ :=
    (context_describes_step moreEnv whileMore ⟨⟨"p", [.empty]⟩, []⟩ { host := false }).1 later e past hsplit hcall
  cases hi.symm.trans hstep
  exact ⟨later, e, past, frame, outer, hsplit, hinspects, hrows, hhere, hrow⟩

end FormReplay
