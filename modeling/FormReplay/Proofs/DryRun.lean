import FormReplay.Proofs.Engine.Run
/-!
# Dry runs

A dry run goes through the steps and tells of each instead of carrying it out.  It asks its host nothing but whether a
condition holds and how its element is, it resolves no value, it learns nothing, and it sleeps only while it is paused.
What the ordinary steps would act on, with which value and between which waits, makes no difference to it.
-/
namespace FormReplay

variable {σ : Type} {env : Env σ}

/-- The same environment for a dry run, whatever else its options ask for. -/
def Env.dry (env : Env σ) : Env σ := { env with options := { env.options with dryRun := true } }

theorem executeStep_dry (env : Env σ) (p : Program) (i : Nat) (step : Step) (row : DataRow) :
    executeStep env.dry p i step row = do
      report env.dry (.stepDryRun i step.kind.typeName (← get).context.rowIndex)
      return .next := rfl

/-! ## What a dry run consists of -/

/-- The step at an index goes by a condition. -/
def Workflow.GoesBy (w : Workflow) (i : Nat) (c : Condition) : Prop :=
  ∃ step, w.steps[i]? = some step ∧ step.kind.condition? = some c

/-- Whether an event tells of the run, its rows and loops, or of a step that is not carried out. -/
def ProgressEvent.IsRehearsal : ProgressEvent → Prop
  | .runStarted .. | .runEnded .. | .rowStarted _ | .stepDryRun .. | .loopIteration .. => True
  | _ => False

/-- The entries of a dry run.  No attempt of a step begins, and no value is resolved, from whatever source and by
whatever rules.  All that is asked is whether the condition of the current step holds, and the state of its element. -/
def Entry.Rehearses (w : Workflow) (e : Entry) : Prop :=
  match e.moment with
  | .judging c _ | .asked (.judge c _) _ => w.GoesBy e.context.stepIndex c
  | .asked (.inspect target) _           => ∃ check value, w.GoesBy e.context.stepIndex (.ui target check value)
  | .resolving .. | .asked ..            => False
  | .attempted _                         => False
  | .slept reason _                      => reason = .pausePoll
  | .progress event                      => event.IsRehearsal
  | .acted _ | .entered .. | .visited _ | .left _ => True

def Rehearsed (w : Workflow) (s : Session σ) : Prop := (∀ e ∈ s.trace, e.Rehearses w) ∧ s.learned = []

def Moment.RehearsesAt (w : Workflow) (i : Nat) (m : Moment) : Prop :=
  ∀ time control context, context.stepIndex = i → (Entry.mk time control context m).Rehearses w

def Moment.Rehearses (w : Workflow) (m : Moment) : Prop := ∀ i, m.RehearsesAt w i

theorem Rehearsed.record {w : Workflow} {s : Session σ} (h : Rehearsed w s) {m : Moment}
    (hm : (Entry.mk s.world.clock s.world.control s.context m).Rehearses w) : Rehearsed w (s.record m) :=
  ⟨List.forall_mem_cons.2 ⟨hm, h.1⟩, h.2⟩

theorem keptBy_rehearsed (w : Workflow) : KeptBy (Moment.Rehearses w) (Rehearsed (σ := σ) w) where
  acted _ _ _ _ _ _ := trivial
  record _ _ hm hs := hs.record (hm _ _ _ _ rfl)
  world _ _ hs := hs

theorem keptBy_rehearsedAt (w : Workflow) (i : Nat) :
    KeptBy (Moment.RehearsesAt w i) fun s : Session σ => Rehearsed w s ∧ s.context.stepIndex = i where
  acted _ _ _ _ _ := trivial
  record _ _ hm hs := ⟨hs.1.record (hm _ _ _ hs.2), hs.2⟩
  world _ _ hs := hs

section Keeping

variable {w : Workflow}

theorem rehearsed_checkpoint :
    Ensures (Rehearsed w) (checkpoint env) (fun _ => Rehearsed w) fun _ => Rehearsed w := by
  have hrests : Does env (Rests .pausePoll) (checkpoint env) := does_checkpoint fun _ => id
  refine hrests.ensures (fun e he => (keptBy_rehearsed w).keeps ?_ ?_) fun _ => id
  · cases he with
    | sleep ms => exact fun _ _ _ _ _ => rfl
    | stopped  => trivial
  · intro f hf
    cases he <;> cases hf

theorem rehearsed_evaluate {i : Nat} {step : Step} {condition : Condition} (hstep : w.steps[i]? = some step)
    (hcondition : step.kind.condition? = some condition) (row : DataRow) :
    Ensures (fun s => Rehearsed w s ∧ s.context.stepIndex = i) (evaluate env row condition) (fun _ => Rehearsed w)
      fun _ => Rehearsed w := by
  have hgoes : ∀ context : Context, context.stepIndex = i → w.GoesBy context.stepIndex condition := fun _ h =>
    ⟨step, h ▸ hstep, hcondition⟩
  have hjudges : Does env (Judges row condition) (evaluate env row condition) := does_evaluate row condition fun _ => id
  have hkeeps := hjudges.ensures (E := fun _ s => Rehearsed w s ∧ s.context.stepIndex = i)
    (fun e he => (keptBy_rehearsedAt w i).keeps ?_ ?_) fun _ => id
  · exact hkeeps.imp (fun _ => id) (fun _ _ hs => hs.1) fun _ _ hs => hs.1
  · cases he with
    | judging   => exact fun _ _ context => hgoes context
    | judge     => exact fun _ _ _ context => hgoes context
    | inspect h => exact fun _ _ _ context hi => ⟨_, _, h ▸ hgoes context hi⟩
  · intro f hf
    cases he <;> cases hf

theorem rehearsed_told {s : Session σ} {event : ProgressEvent} (h : event.IsRehearsal) (hs : Rehearsed w s) :
    Rehearsed w (s.told env event) :=
  (keptBy_rehearsed w).told s event (fun _ _ _ _ _ => h) hs

theorem rehearsed_beginRow (p : Program) (position : Nat) (row : DataRow) :
    Ensures (Rehearsed w) (beginRow env p position row) (fun _ => Rehearsed w) fun _ => Rehearsed w :=
  .bind (R := fun _ => Rehearsed w) (.modifyContext fun _ => id) fun _ => .report fun _ => rehearsed_told trivial

theorem rowRule_rehearsed {p : Program} (hworkflow : p.workflow = w)
    (tables : p.tables.Within p.workflow.steps.length) :
    RowRule env.dry p (Rehearsed w) (fun i s => Rehearsed w s ∧ s.context.stepIndex = i) (fun _ => Rehearsed w)
      fun _ => Rehearsed w where
  tables := tables
  rest := rehearsed_checkpoint
  arrive i := .bind rehearsed_checkpoint fun _ => ensures_visit fun s hs =>
    ⟨Rehearsed.record (s := s.onContext _) (m := .visited i) hs trivial, rfl⟩
  stay _ _ hs := hs.1
  condition i step c row hstep hcondition := rehearsed_evaluate (hworkflow ▸ hstep) hcondition row
  test i step c row hstep hcondition :=
    .bind (R := fun _ s => Rehearsed w s ∧ s.context.stepIndex = i) (.modifyContext fun s hs => ⟨hs, rfl⟩) fun _ =>
      rehearsed_evaluate (hworkflow ▸ hstep) hcondition row
  step i step row _ _ := by
    rw [executeStep_dry]
    refine .read fun s₀ hs₀ => .bind (R := fun _ => Rehearsed w) (.report fun s hs => ?_) fun _ =>
      .pure fun s hs => ⟨hs, .inl (.inl rfl)⟩
    exact rehearsed_told trivial (hs ▸ hs₀.1)
  begin i _ _ _ _ := rehearsed_beginRow p i _
  ready _ _ hs := hs
  row _ _ hs := hs
  iteration _ _ _ _ _ hs := rehearsed_told trivial hs
  entered _ _ _ _ hs := hs.record trivial
  left _ _ hs := hs.record trivial
  fault _ _ hs := hs
  outOfFuel _ hs := hs

theorem rehearsed_execution (w : Workflow) (input : RunInput) :
    Ensures (Rehearsed w) (execution env.dry w input) (fun _ => Rehearsed w) fun _ => Rehearsed w := by
  let p := w.program w.analyze.1 input env.dry.options
  have hrule : RowRule env.dry p (Rehearsed w) (fun i s => Rehearsed w s ∧ s.context.stepIndex = i) (fun _ => Rehearsed w)
      fun _ => Rehearsed w := rowRule_rehearsed rfl w.within_analyze
  exact ensures_execution (fun _ => hrule.executeProgram fun i row _ => rehearsed_beginRow p i row) fun _ _ => id

end Keeping

/-! ## What a dry run does not look at -/

def StepKind.revised (revise : ActionKind → ActionSpec → ActionSpec) : StepKind → StepKind
  | .action kind spec => .action kind (revise kind spec)
  | kind              => kind

def Step.revised (revise : ActionKind → ActionSpec → ActionSpec) (s : Step) : Step :=
  { s with kind := s.kind.revised revise }

/-- The workflow whose ordinary steps have other payloads. -/
def Workflow.revised (revise : ActionKind → ActionSpec → ActionSpec) (w : Workflow) : Workflow :=
  { w with steps := w.steps.map (·.revised revise) }

def Program.revised (revise : ActionKind → ActionSpec → ActionSpec) (p : Program) : Program :=
  { p with workflow := p.workflow.revised revise }

section Revision

variable (revise : ActionKind → ActionSpec → ActionSpec)

@[simp] theorem Step.kind_revised (s : Step) : (s.revised revise).kind = s.kind.revised revise := rfl

theorem scanLoops_revised (i : Nat) (stack : List OpenLoop) (steps : List Step) :
    scanLoops i stack (steps.map (·.revised revise)) = scanLoops i stack steps := by
  induction steps generalizing i stack with
  | nil => rfl
  | cons s steps ih =>
    cases hkind : s.kind <;> simp only [List.map_cons, scanLoops, Step.kind_revised, hkind, StepKind.revised, ih]

theorem scanIfs_revised (i : Nat) (stack : List OpenIf) (steps : List Step) :
    scanIfs i stack (steps.map (·.revised revise)) = scanIfs i stack steps := by
  induction steps generalizing i stack with
  | nil => rfl
  | cons s steps ih =>
    cases hkind : s.kind <;> simp only [List.map_cons, scanIfs, Step.kind_revised, hkind, StepKind.revised, ih]

theorem scanLabels_revised (i : Nat) (known : Labels) (steps : List Step) :
    scanLabels i known (steps.map (·.revised revise)) = scanLabels i known steps := by
  induction steps generalizing i known with
  | nil => rfl
  | cons s steps ih =>
    cases hkind : s.kind <;> simp only [List.map_cons, scanLabels, Step.kind_revised, hkind, StepKind.revised, ih]

theorem gotoIssues_revised (labels : Labels) (steps : List Step) :
    gotoIssues labels (steps.map (·.revised revise)) = gotoIssues labels steps := by
  rw [gotoIssues, gotoIssues, List.zipIdx_map, List.filterMap_map]
  congr 1
  funext ⟨⟨id, kind, onError⟩, i⟩
  cases kind <;> rfl

theorem policyIssues_revised (w : Workflow) (labels : Labels) :
    policyIssues (w.revised revise) labels = policyIssues w labels := by
  rw [policyIssues, policyIssues, Workflow.revised, List.zipIdx_map, List.filterMap_map]
  congr 1
  funext ⟨⟨id, kind, onError⟩, i⟩
  cases kind <;> rfl

theorem Workflow.analyze_revised (w : Workflow) : (w.revised revise).analyze = w.analyze := by
  have hsteps : analyzeSteps (w.revised revise).steps = analyzeSteps w.steps := by
    simp only [analyzeSteps, Workflow.revised, findLoopPairs, findIfPairs, findLabels, scanLoops_revised,
      scanIfs_revised, scanLabels_revised, gotoIssues_revised]
  simp only [Workflow.analyze, hsteps, policyIssues_revised]

theorem Workflow.addHandler_revised (w : Workflow) (h : Handler) :
    (w.revised revise).addHandler h = (w.addHandler h).revised revise := by
  rw [Workflow.addHandler, Workflow.addHandler, apply_ite (Workflow.revised revise)]
  rfl

theorem dispatch_revised (p : Program) (frame : Nat → Nat → DataRow → Engine σ Signal) (i : Nat) (step : Step)
    (row : DataRow) :
    dispatch env.dry (p.revised revise) frame i (step.revised revise) row = dispatch env.dry p frame i step row := by
  have htables : (p.revised revise).tables = p.tables := rfl
  have hloop : ∀ spec stop, runLoop env.dry (p.revised revise) i spec row (frame (i + 1) stop) =
      runLoop env.dry p i spec row (frame (i + 1) stop) := fun _ _ => rfl
  cases hkind : step.kind <;> simp only [dispatch, Step.kind_revised, hkind, StepKind.revised, executeStep_dry, htables,
    hloop, StepKind.typeName]

theorem walk_revised (p : Program) (fuel first last index : Nat) (row : DataRow) :
    walk env.dry (p.revised revise) fuel first last index row = walk env.dry p fuel first last index row := by
  induction fuel generalizing first last index row with
  | zero => rfl
  | succ fuel ih =>
    have hstep : (p.revised revise).workflow.steps[index]? = p.workflow.steps[index]?.map (·.revised revise) :=
      List.getElem?_map
    simp only [walk, ih, hstep]
    cases p.workflow.steps[index]? with
    | none      => rfl
    | some step => simp only [Option.map_some, dispatch_revised]

theorem executeProgram_revised (p : Program) :
    executeProgram env.dry (p.revised revise) = executeProgram env.dry p := by
  have hrange : ∀ row, executeRange env.dry (p.revised revise) 0 (p.revised revise).workflow.steps.length row =
      executeRange env.dry p 0 p.workflow.steps.length row := by
    intro row
    have hlength : (p.revised revise).workflow.steps.length = p.workflow.steps.length := List.length_map _
    simp only [executeRange, walk_revised, hlength]
  have hrows : ∀ rows position, executeRows env.dry (p.revised revise) position rows =
      executeRows env.dry p position rows := by
    intro rows
    induction rows with
    | nil => exact fun _ => rfl
    | cons row rows ih =>
      intro position
      simp only [executeRows, hrange, ih]
      rfl
  simp only [executeProgram, hrange, hrows]
  rfl

theorem execution_revised (w : Workflow) (input : RunInput) :
    execution env.dry (w.revised revise) input = execution env.dry w input := by
  have hprogram : (w.revised revise).program w.analyze.1 input env.dry.options =
      (w.program w.analyze.1 input env.dry.options).revised revise := rfl
  rw [execution, execution, w.analyze_revised revise, hprogram, executeProgram_revised]

theorem Workflow.foldl_addHandler_revised (w : Workflow) (learned : List Handler) :
    learned.foldl Workflow.addHandler (w.revised revise) = (learned.foldl Workflow.addHandler w).revised revise := by
  induction learned generalizing w with
  | nil => rfl
  | cons h learned ih => rw [List.foldl_cons, List.foldl_cons, w.addHandler_revised, ih]

/-- The run comes to the same, with the workflow that it was given. -/
theorem conduct_revised (w : Workflow) (input : RunInput) (world : World σ) :
    conduct env.dry (w.revised revise) input (world.session w.handlers) =
      match conduct env.dry w input (world.session w.handlers) with
      | .ok (r, w') s => .ok (r, w'.revised revise) s
      | .error e s    => .error e s := by
  have hrevised := conduct_eq env.dry (w.revised revise) input world
  have hstarted : started env.dry (w.revised revise) world = started env.dry w world := rfl
  simp only [execution_revised, hstarted, Workflow.foldl_addHandler_revised] at hrevised
  refine hrevised.trans ?_
  rw [conduct_eq]
  cases execution env.dry w input (started env.dry w world) with
  | ok a s    => rfl
  | error e s => cases e <;> rfl

theorem history_revised (w : Workflow) (input : RunInput) (world : World σ) :
    history env.dry (w.revised revise) input world = history env.dry w input world := by
  have hhandlers : (w.revised revise).handlers = w.handlers := rfl
  rw [history, history, hhandlers, conduct_revised]
  cases conduct env.dry w input (world.session w.handlers) <;> rfl

theorem run_revised (w : Workflow) (input : RunInput) (world : World σ) :
    run env.dry (w.revised revise) input world =
      (run env.dry w input world).map fun f => { f with workflow := f.workflow.revised revise } := by
  have hhandlers : (w.revised revise).handlers = w.handlers := rfl
  rw [run, run, hhandlers, conduct_revised]
  cases conduct env.dry w input (world.session w.handlers) <;> rfl

end Revision

/-- **A dry run touches nothing**, however it ends and also where its fuel does not suffice.  It asks its host nothing
but whether the condition of the current step holds and the state of its element, resolves no value, begins no attempt
of a step, and sleeps only while it is paused.  It leaves the workflow as it is and has learned no handler.  And it is
the same run if the ordinary steps have other targets, values and waits. -/
theorem dry_runs_touch_nothing (env : Env σ) (w : Workflow) (input : RunInput) (world : World σ) :
    (∀ e ∈ history env.dry w input world, e.Rehearses w) ∧
    (∀ f ∈ run env.dry w input world, f.workflow = w ∧ f.report.learned = []) ∧
    ∀ revise, history env.dry (w.revised revise) input world = history env.dry w input world ∧
      run env.dry (w.revised revise) input world =
        (run env.dry w input world).map fun f => { f with workflow := f.workflow.revised revise } := by
  have hstart : Rehearsed w (started env.dry w world) :=
    rehearsed_told (s := world.session w.handlers) trivial ⟨fun _ he => absurd he List.not_mem_nil, rfl⟩
  rw [← and_assoc]
  refine ⟨?_, fun revise => ⟨history_revised revise w input world, run_revised revise w input world⟩⟩
  obtain ⟨r, s, hok, herror, hrun, hhistory⟩ | ⟨s, hs, hrun, hhistory⟩ :=
    run_ensures (rehearsed_execution w input) world hstart
  · have hs : Rehearsed w s := by
      cases r with
      | ok a    => exact hok a rfl
      | error e => exact herror e rfl
    have hended : Rehearsed w (s.ended env.dry r) := rehearsed_told trivial hs
    rw [hhistory, hrun]
    refine ⟨hended.1, fun f hf => ?_⟩
    cases hf
    have hworkflow : s.learned.foldl Workflow.addHandler w = w := by rw [hs.2]; rfl
    exact ⟨hworkflow, hs.2⟩
  · rw [hhistory, hrun]
    exact ⟨hs.1, fun f hf => absurd hf (Option.not_mem_none f)⟩

end FormReplay
