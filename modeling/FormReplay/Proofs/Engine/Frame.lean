import FormReplay.Proofs.Engine.Walk
/-!
# What frames ensure

An invariant of the frames that are open, the innermost first.  If it is kept by all that one step of a frame does,
by opening the frame of a loop and by closing a frame, it is kept by every program (`ProgramRule.executeProgram`).
-/
namespace FormReplay

variable {σ : Type} {env : Env σ} {E : Halt → Session σ → Prop}

/-- The frames that are open, the innermost first, each with the step that it came to last. -/
abbrev Nest := List (Frame × Option Nat)

/-- An invariant `J` of the open frames, kept by everything that a frame does.  Where a goto is under way, it
speaks of the place it leads to as well. -/
structure FrameRule (env : Env σ) (p : Program) (J : Option Nat → Nest → Session σ → Prop)
    (E : Halt → Session σ → Prop) : Prop where
  tables : p.tables.Within p.workflow.steps.length
  visit : ∀ goal f at_ outer i s, f.Contains i → (∀ t ∈ goal, t = i) → J goal ((f, at_) :: outer) s →
    J (p.gotoTarget? i) ((f, some i) :: outer) ((s.onContext fun c => { c with stepIndex := i }).record (.visited i))
  enter : ∀ f outer i stop row s, f.Contains i → p.tables.loopToEnd.target? i = some stop →
    J none ((f, some i) :: outer) s →
    J none ((⟨i + 1, stop, row⟩, none) :: (f, some i) :: outer) (s.record (.entered (i + 1) stop row))
  leave : ∀ f at_ outer signal s, f.Emits p.workflow.steps.length signal → J signal.target? ((f, at_) :: outer) s →
    J signal.target? outer (s.record (.left signal))
  step : ∀ f outer i step, p.workflow.steps[i]? = some step → step.isAction = true →
    Ensures (fun s => J none ((f, some i) :: outer) s ∧ s.Begins i) (attempt env i step f.row)
      (fun _ => J none ((f, some i) :: outer)) (Recovers (J none ((f, some i) :: outer)) E)
  failed : ∀ f outer i step e s, p.workflow.steps[i]? = some step → J none ((f, some i) :: outer) s →
    J (p.policyTarget? step) ((f, some i) :: outer) (s.told env (.stepFailed i (p.workflow.effectivePolicy step).mode e))
  around : ∀ goal f outer i e, Steps i e ∨ Loops i e → e.Keeps env (J goal (f :: outer)) E
  miss : ∀ f at_ outer i fault s, f.Contains i → p.Misses i fault → J none ((f, at_) :: outer) s →
    E (.error (.structural fault)) s
  outOfFuel : ∀ goal nest s, J goal nest s → E .outOfFuel s

namespace FrameRule

variable {p : Program} {J : Option Nat → Nest → Session σ → Prop}

theorem rest (h : FrameRule env p J E) (goal : Option Nat) (f : Frame × Option Nat) (outer : Nest) :
    Ensures (J goal (f :: outer)) (checkpoint env) (fun _ => J goal (f :: outer)) E :=
  (does_checkpoint (F := Loops 0) fun _ => .rest).ensures (fun e he => h.around goal f outer 0 e (.inr he))
    (h.outOfFuel goal (f :: outer))

theorem walkRule (h : FrameRule env p J E) :
    WalkRule env p (fun goal f (outer : Nest) s => ∃ at_, J goal ((f, at_) :: outer) s)
      (fun i f outer => J (p.gotoTarget? i) ((f, some i) :: outer)) E where
  tables := h.tables
  arrive goal f outer i hi hgoal := by
    refine .fix fun s₀ hs₀ => ?_
    obtain ⟨at_, hs₀⟩ := hs₀
    exact .bind ((h.rest goal (f, at_) outer).strengthen fun s hs => hs ▸ hs₀) fun _ =>
      ensures_visit fun s => h.visit goal f at_ outer i s hi hgoal
  stay i f outer s hs := ⟨some i, hs⟩
  condition i f outer step c hstep hkind := by
    rw [Program.gotoTarget?_eq_none hstep fun label hgoto => by rw [hkind] at hgoto; cases hgoto]
    have hcondition : Does env (Loops i) (evaluate env f.row c) := does_evaluate f.row c fun _ => .judges
    exact (hcondition.ensures (fun e he => h.around none (f, some i) outer i e (.inr he))
      (h.outOfFuel none ((f, some i) :: outer))).weaken fun _ s hs => ⟨some i, hs⟩
  step i f outer step hi hstep haction := by
    have hgoto : p.gotoTarget? i = none := Program.gotoTarget?_eq_none hstep fun label hk => by
      rw [Step.isAction, hk] at haction
      cases haction
    rw [hgoto]
    refine (StepRule.ofKeeps (A := fun goal => J goal ((f, some i) :: outer))
      (fun e he => h.around none (f, some i) outer i e (.inl he)) (h.outOfFuel none ((f, some i) :: outer)) rfl
      (fun label s hmode hnone hlabel hs => ?_) (fun e s => h.failed f outer i step e s hstep)
      (h.step f outer i step hstep haction)).executeStep.weaken fun _ s hs => ⟨⟨some i, hs.1⟩, hs.2⟩
    exact h.miss f (some i) outer i _ s hi (.policyLabel hstep haction hmode hnone hlabel) hs
  loop i f outer step spec stop body hi hstep hkind hstop hbody := by
    let nest : Nest := (f, some i) :: outer
    let A : Option Nat → Session σ → Prop := fun goal s => J goal nest s ∧ ∀ t ∈ goal, t < p.workflow.steps.length
    have hk : ∀ goal e, Loops i e → e.Keeps env (A goal) E :=
      fun goal e he => (h.around goal (f, some i) outer i e (.inr he)).andConst he.ne_observe _
    have hframe : ∀ row, Ensures (A none) (inFrame (i + 1) stop row (body row)) (fun signal => A signal.target?) E := by
      refine fun row => ensures_inFrame (fun s hs => ⟨none, h.enter f outer i stop row s hi hstop hs.1⟩) (hbody row nest) ?_
      rintro signal s ⟨⟨at_, hs⟩, hemits⟩
      exact ⟨h.leave _ at_ nest signal s hemits hs, hemits.target_lt⟩
    rw [Program.gotoTarget?_eq_none hstep fun label hgoto => by rw [hkind] at hgoto; cases hgoto]
    refine (ensures_runLoop_keeps hk (fun s hs => h.outOfFuel none nest s hs.1) hframe).imp
      (fun s hs => ⟨hs, fun _ ht => absurd ht (Option.not_mem_none _)⟩) (fun signal s hs => ?_) fun _ _ => id
    exact ⟨⟨⟨some i, hs.1.1⟩, hs.1.2⟩, hs.2⟩
  miss i f outer fault s hi hmiss := by
    rintro ⟨at_, hs⟩
    exact h.miss f at_ outer i fault s hi hmiss hs

end FrameRule

inductive Rows : Operation σ → Prop
  | rest {e : Operation σ} : Rests .pausePoll e → Rows e
  | began (index : Nat) (row : DataRow) : Rows
      (.edit (.onContext fun c => { c with rowIndex := index, row := row, rowsProcessed := c.rowsProcessed + 1 }))
  | rowStarted (row : Nat) : Rows (.report (.rowStarted row))

theorem Rows.ne_observe {e : Operation σ} (h : Rows e) : e ≠ .observe := by
  cases h with
  | rest h => exact h.ne_observe
  | _      => nofun

structure ProgramRule (env : Env σ) (p : Program) (J : Option Nat → Nest → Session σ → Prop)
    (E : Halt → Session σ → Prop) : Prop extends FrameRule env p J E where
  range : ∀ row s, J none [] s →
    J none [(⟨0, p.workflow.steps.length, row⟩, none)] (s.record (.entered 0 p.workflow.steps.length row))
  rows : ∀ e, Rows e → e.Keeps env (J none []) E
  escaped : ∀ signal s, signal.isLoopControl = true → J none [] s →
    E (.error (.structural (.loopControlOutside signal))) s

namespace ProgramRule

variable {p : Program} {J : Option Nat → Nest → Session σ → Prop}

/-- **The rule of a program.** -/
theorem executeProgram (h : ProgramRule env p J E) :
    Ensures (J none []) (executeProgram env p) (fun _ => J none []) E := by
  have hrange : ∀ row, Ensures (J none []) (executeRange env p 0 p.workflow.steps.length row)
      (fun signal s => J none [] s ∧ signal.OfOutcome) E := by
    refine fun row => h.walkRule.executeRange ?_ row [] (fun s hs => ⟨none, h.range row s hs⟩) ?_
    · rintro goal f outer s ⟨at_, hs⟩
      exact h.outOfFuel goal ((f, at_) :: outer) s hs
    rintro signal s hout ⟨at_, hs⟩
    have hnone := hout.target?_eq_none
    exact hnone ▸ h.leave _ at_ [] signal s (.inl hout) (hnone.symm ▸ hs)
  have hcheck : Does env Rows (checkpoint env) := does_checkpoint fun _ => .rest
  refine ensures_executeProgram (S := fun _ _ => J none []) (hcheck.ensures h.rows (h.outOfFuel none [])) (fun i row _ => ?_)
    (fun i row _ => hrange row) (hrange .empty) (ensures_checkEscaped h.escaped)
  refine .bind (R := fun _ => J none []) (.modifyContext (h.rows _ (.began _ _) fun _ _ => rfl)) fun _ => ?_
  exact .report (h.rows _ (.rowStarted _))

end ProgramRule

/-! ## Invariants that do not speak of frames -/

/-- The condition that a step goes by: that of a conditional or of a while loop. -/
def StepKind.condition? : StepKind → Option Condition
  | .ifStart condition => some condition
  | .loopStart spec =>
    match spec.mode with
    | .whileHolds condition _ => some condition
    | _                       => none
  | _ => none

/-- An invariant `J` that speaks neither of frames nor of places to go to.  `V` holds once a frame has come to a step,
and `Ready` of the row that a frame is about to be opened for. -/
structure RowRule (env : Env σ) (p : Program) (J : Session σ → Prop) (V : Nat → Session σ → Prop)
    (Ready : DataRow → Session σ → Prop) (E : Halt → Session σ → Prop) : Prop where
  tables : p.tables.Within p.workflow.steps.length
  rest : Ensures J (checkpoint env) (fun _ => J) E
  arrive : ∀ i, Ensures J (do checkpoint env; visit i) (fun _ => V i) E
  stay : ∀ i s, V i s → J s
  condition : ∀ i step c row, p.workflow.steps[i]? = some step → step.kind.condition? = some c →
    Ensures (V i) (evaluate env row c) (fun _ => J) E
  test : ∀ i step c row, p.workflow.steps[i]? = some step → step.kind.condition? = some c →
    Ensures J (do modifyContext fun c => { c with stepIndex := i }
                  evaluate env row c) (fun _ => J) E
  step : ∀ i step row, p.workflow.steps[i]? = some step → step.isAction = true →
    Ensures (V i) (executeStep env p i step row) (fun signal s => J s ∧ signal.OfStep p step) E
  begin : ∀ i (base : DataRow) item, p.tables.hasLoops = true → p.input.primary.rows[i]? = some item →
    Ensures J (beginRow env p i (base.mergeItem p.input.primary.name item))
      (fun _ => Ready (base.mergeItem p.input.primary.name item)) E
  ready : ∀ row s, J s → Ready row s
  row : ∀ row s, J s → J (s.onContext fun c => { c with row := row })
  iteration : ∀ i k id row s, Ready row s → Ready row (s.told env (.loopIteration i k id))
  entered : ∀ first last row s, Ready row s → J (s.record (.entered first last row))
  left : ∀ signal s, J s → J (s.record (.left signal))
  fault : ∀ fault s, J s → E (.error (.structural fault)) s
  outOfFuel : ∀ s, J s → E .outOfFuel s

namespace RowRule

variable {p : Program} {J : Session σ → Prop} {V : Nat → Session σ → Prop} {Ready : DataRow → Session σ → Prop}

theorem enterRow (h : RowRule env p J V Ready E) (hloops : p.tables.hasLoops = true) {source : Option String}
    {most : Option UInt64} {row : DataRow} {i : Nat} {item : Record} (first : Bool)
    (hitem : (limited most (p.loopRows source row).items)[i]? = some item) :
    Ensures J (enterRow env p (p.loopRows source row).isPrimary first i
        (row.mergeItem (p.loopRows source row).source item))
      (fun _ => Ready (row.mergeItem (p.loopRows source row).source item)) E := by
  have hmerged : ∀ merged, Ensures J (modifyContext fun c => { c with row := merged }) (fun _ => Ready merged) E :=
    fun merged => .modifyContext fun s hs => h.ready merged _ (h.row merged s hs)
  unfold FormReplay.enterRow
  split
  · rcases p.loopRows_cases source row with hprimary | ⟨hother, -⟩
    · rw [hprimary] at hitem ⊢
      exact h.begin i row item hloops (limited_getElem? hitem)
    · rename_i hbegins
      rw [hother] at hbegins
      cases hbegins
  · exact hmerged _

theorem walkRule (h : RowRule env p J V Ready E) :
    WalkRule env p (fun _ _ (_ : Unit) => J) (fun i _ _ => V i) E where
  tables := h.tables
  arrive _ _ _ i _ _ := h.arrive i
  stay i _ _ := h.stay i
  condition i f _ step c hstep hkind := h.condition i step c f.row hstep (by rw [hkind]; rfl)
  step i f _ step _ := h.step i step f.row
  loop i f g step spec stop body _ hstep hkind hstop hbody := by
    let A : Option Nat → Session σ → Prop := fun goal s => J s ∧ ∀ t ∈ goal, t < p.workflow.steps.length
    have hloops : p.tables.hasLoops = true := by
      have hmem := Jumps.mem_of_target? hstop
      rw [JumpTables.hasLoops, List.isEmpty_eq_false_iff.2 (List.ne_nil_of_mem hmem)]
      rfl
    have hnowhere : ∀ t ∈ (none : Option Nat), t < p.workflow.steps.length := fun t ht => absurd ht (Option.not_mem_none t)
    have hgo : ∀ {α : Type} {x : Engine σ α}, Ensures J x (fun _ => J) E → Ensures (A none) x (fun _ => A none) E :=
      fun hx => hx.imp (fun _ hs => hs.1) (fun _ _ hs => ⟨hs, hnowhere⟩) fun _ _ => id
    have hframe : ∀ row, Ensures (Ready row) (inFrame (i + 1) stop row (body row)) (fun signal => A signal.target?) E :=
      fun row => ensures_inFrame (h.entered _ _ row) (hbody row g) fun signal s hs =>
        ⟨h.left signal s hs.1, hs.2.target_lt⟩
    have hturn : ∀ k row, Ensures (Ready row)
        (do report env (.loopIteration i k spec.id); inFrame (i + 1) stop row (body row))
        (fun signal => A signal.target?) E :=
      fun k row => .bind (R := fun _ => Ready row) (.report (h.iteration i k _ row)) fun _ => hframe row
    have hrule : LoopRule env p i spec f.row (fun row => inFrame (i + 1) stop row (body row)) A (fun _ _ => True) E := {
      rest := hgo h.rest
      test := fun c most hmode => hgo (h.test i step c f.row hstep (by rw [hkind, StepKind.condition?, hmode]))
      turn := fun _ k => (hturn k f.row).strengthen fun s hs => h.ready _ s hs.1
      position := fun source most k item first _ hitem => by
        refine .bind (R := fun _ => J) (h.rest.strengthen fun s hs => hs.1.1) fun _ => ?_
        refine .bind (h.enterRow hloops first hitem) fun _ => ?_
        exact (hturn k _).weaken fun _ s hs => ⟨hs, trivial⟩
      restore := fun goal s hs => ⟨h.row _ s hs.1, hs.2⟩ }
    exact hrule.runLoop.strengthen fun s hs => ⟨h.stay i s hs, hnowhere⟩
  miss _ _ _ fault s _ _ := h.fault fault s

theorem executeRange (h : RowRule env p J V Ready E) (row : DataRow) :
    Ensures (Ready row) (executeRange env p 0 p.workflow.steps.length row) (fun signal s => J s ∧ signal.OfOutcome) E :=
  h.walkRule.executeRange (fun _ _ _ => h.outOfFuel) row () (h.entered _ _ row) fun signal s _ => h.left signal s

/-- **The rule of a program**, by the rows that it begins. -/
theorem executeProgram (h : RowRule env p J V Ready E)
    (hbegin : ∀ i row, p.rows[i]? = some row → Ensures J (beginRow env p i row) (fun _ => Ready row) E) :
    Ensures J (executeProgram env p) (fun _ => J) E :=
  ensures_executeProgram h.rest hbegin (fun _ row _ => h.executeRange row)
    ((h.executeRange .empty).strengthen (h.ready .empty)) (ensures_checkEscaped fun _ s _ => h.fault _ s)

end RowRule

/-- An invariant `J` that does not speak of rows either.  `V` holds once a frame has come to a step. -/
structure SteadyRule (env : Env σ) (p : Program) (J V : Session σ → Prop) (E : Halt → Session σ → Prop) : Prop where
  tables : p.tables.Within p.workflow.steps.length
  arrive : ∀ i, Ensures J (do checkpoint env; visit i) (fun _ => V) E
  stay : ∀ s, V s → J s
  step : ∀ i step row, p.workflow.steps[i]? = some step → step.isAction = true →
    Ensures V (executeStep env p i step row) (fun signal s => J s ∧ signal.OfStep p step) E
  entered : ∀ first last row s, J s → J (s.record (.entered first last row))
  left : ∀ signal s, J s → J (s.record (.left signal))
  around : ∀ i e, Loops i e → e.Keeps env J E
  fault : ∀ fault s, J s → E (.error (.structural fault)) s
  outOfFuel : ∀ s, J s → E .outOfFuel s

namespace SteadyRule

variable {p : Program} {J V : Session σ → Prop}

theorem beginRow (h : SteadyRule env p J V E) (i : Nat) (row : DataRow) :
    Ensures J (beginRow env p i row) (fun _ => J) E :=
  .bind (R := fun _ => J) (.modifyContext (h.around 0 _ (.began _ _) fun _ _ => rfl)) fun _ =>
    .report (h.around 0 _ (.rowStarted _))

theorem rowRule (h : SteadyRule env p J V E) : RowRule env p J (fun _ => V) (fun _ => J) E := by
  have hevaluate : ∀ i row c, Ensures J (evaluate env row c) (fun _ => J) E := fun i row c => by
    have hcondition : Does env (Loops i) (evaluate env row c) := does_evaluate row c fun _ => .judges
    exact hcondition.ensures (h.around i) h.outOfFuel
  have hcheck : Does env (Loops 0) (checkpoint env) := does_checkpoint fun _ => .rest
  exact {
    tables := h.tables
    rest := hcheck.ensures (h.around 0) h.outOfFuel
    arrive := h.arrive
    stay := fun _ => h.stay
    condition := fun i step c row _ _ => (hevaluate i row c).strengthen h.stay
    test := fun i step c row _ _ =>
      .bind (R := fun _ => J) (.modifyContext (h.around i _ .current fun _ _ => rfl)) fun _ => hevaluate i row c
    step := h.step
    begin := fun i base item _ _ => h.beginRow i _
    ready := fun _ _ => id
    row := fun row s => h.around 0 _ (.row row) (fun _ _ => rfl) s
    iteration := fun i k id _ => h.around i _ (.iteration k id)
    entered := h.entered
    left := h.left
    fault := h.fault
    outOfFuel := h.outOfFuel }

/-- **The rule of a program**, for an invariant that does not speak of rows. -/
theorem executeProgram (h : SteadyRule env p J V E) : Ensures J (executeProgram env p) (fun _ => J) E :=
  h.rowRule.executeProgram fun i row _ => h.beginRow i row

end SteadyRule

/-- **The rule of a run**: what its first and last reports keep, and its program if it has one, the run keeps. -/
theorem ensures_conduct {K K' : Session σ → Prop} (w : Workflow) (input : RunInput)
    (hstart : ∀ s, K s → K (s.told env (.runStarted w.name env.options))) (hle : ∀ s, K s → K' s)
    (hend : ∀ outcome resume rows learned s, K' s → K' (s.told env (.runEnded outcome resume rows learned)))
    (hprogram : w.analyze.2 = [] →
      Ensures K (executeProgram env (w.program w.analyze.1 input env.options)) (fun _ => K') fun _ => K') :
    Ensures K (conduct env w input) (fun _ => K') fun _ => K' := by
  have hfinish : ∀ outcome resume, Ensures K' (finishRun env outcome resume) (fun _ => K') fun _ => K' := by
    intro outcome resume
    refine .read fun s₀ hs₀ => .bind (R := fun _ => K') (.report fun s hs => ?_) fun _ => .pure fun s hs => hs
    exact hend _ _ _ _ s (hs ▸ hs₀)
  refine .bind (R := fun _ => K) (.report hstart) fun _ => ?_
  dsimp only
  split
  · rename_i hissues
    refine .bind (R := fun _ => K') (.observing ?_) fun result => .read fun s₀ hs₀ => ?_
    · refine (hprogram (List.isEmpty_iff.1 hissues)).imp (fun _ => id) (fun _ _ => id) fun e s hs => ?_
      cases e <;> exact hs
    · exact .bind ((hfinish _ _).strengthen fun s hs => hs ▸ hs₀) fun _ => .pure fun s hs => hs
  · exact .bind ((hfinish _ _).strengthen hle) fun _ => .pure fun s hs => hs

end FormReplay
