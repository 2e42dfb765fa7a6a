import FormReplay.Proofs.Engine.Run
/-!
# Stopping and pausing

A host may stop or pause a run at any instant.  It takes effect at the next checkpoint, and there is one before every
step and every attempt.  So once a run is stopped no step and no attempt begins, and nothing is executed but what an
attempt that was under way still has to; and none begins while the run is paused.
-/
namespace FormReplay

variable {σ α : Type} {env : Env σ}

def Moment.IsBeginning : Moment → Prop
  | .attempted _ | .progress (.stepStarted ..) | .progress (.stepDryRun ..) => True
  | _ => False

/-- The step of the attempt that is under way, if it was not executed yet. -/
def due? : List Entry → Option Nat
  | [] => none
  | e :: past =>
    match e.moment with
    | .attempted i => some i
    | .asked (.execute ..) _ => none
    | .progress (.stepCompleted ..) | .progress (.stepRetry ..) | .progress (.stepFailed ..) => none
    | .visited _ | .entered .. | .left _ => none
    | _ => due? past

/-- What may happen after `past`: nothing begins once the run was stopped, or while it is paused, and what is executed
is the step of the attempt that is under way, once. -/
structure Heeds (w : Workflow) (e : Entry) (past : List Entry) : Prop where
  begins : e.moment.IsBeginning → (∀ x ∈ past, x.moment ≠ .acted .stop) ∧ e.control.isPaused = false
  executes : ∀ step value r, e.moment = .asked (.execute step value) r → ∃ i, due? past = some i ∧ w.steps[i]? = some step

def Moment.IsIdle (m : Moment) : Prop := (¬m.IsBeginning ∧ ¬m.IsExecution) ∧ ∀ act, m ≠ .acted act

theorem Heeds.idle {w : Workflow} {e : Entry} (past : List Entry) (h : ¬e.moment.IsBeginning ∧ ¬e.moment.IsExecution) :
    Heeds w e past := by
  refine ⟨fun hbegin => absurd hbegin h.1, fun step value r he => ?_⟩
  rw [he] at h
  exact absurd trivial h.2

/-! ## What a run keeps -/

structure Heeded (w : Workflow) (s : Session σ) : Prop where
  always : Always (Heeds w) s.trace
  stopped : ∀ e ∈ s.trace, e.moment = .acted .stop → s.world.control.stopped = true

def Due (w : Workflow) (due : Option Nat) (s : Session σ) : Prop := Heeded w s ∧ due? s.trace = due

section Keeping

variable {w : Workflow}

namespace Heeded

variable {s : Session σ} (h : Heeded w s)
include h

theorem record {m : Moment} (hm : ∀ act, m ≠ .acted act)
    (he : Heeds w ⟨s.world.clock, s.world.control, s.context, m⟩ s.trace) : Heeded w (s.record m) where
  always := ⟨he, h.always⟩
  stopped := List.forall_mem_cons.2 ⟨fun hstop => absurd hstop (hm .stop), h.stopped⟩

theorem obey (act : HostAct) : Heeded w (s.obey act) := by
  have halways : Always (Heeds w) (s.record (.acted act)).trace := ⟨.idle _ ⟨id, id⟩, h.always⟩
  cases act with
  | stop   => exact ⟨halways, fun _ _ _ => rfl⟩
  | pause  => exact ⟨halways, List.forall_mem_cons.2 ⟨nofun, h.stopped⟩⟩
  | resume => exact ⟨halways, List.forall_mem_cons.2 ⟨nofun, h.stopped⟩⟩
  | post d => exact ⟨halways, List.forall_mem_cons.2 ⟨nofun, h.stopped⟩⟩

theorem onControl {f : Control → Control} (hf : ∀ c, c.stopped = true → (f c).stopped = true) :
    Heeded w (s.onControl f) :=
  ⟨h.always, fun e he hstop => hf _ (h.stopped e he hstop)⟩

theorem begins (hfree : s.Free) {m : Moment} (hm : ¬m.IsExecution) :
    Heeds w ⟨s.world.clock, s.world.control, s.context, m⟩ s.trace := by
  refine ⟨fun _ => ⟨fun e he hstop => ?_, hfree.2⟩, fun step value r he => ?_⟩
  · have hstopped := h.stopped e he hstop
    rw [hfree.1] at hstopped
    cases hstopped
  · have he : m = .asked (.execute step value) r := he
    rw [he] at hm
    exact absurd trivial hm

end Heeded

theorem withstands_heeded : Withstands (fun _ => True) Moment.IsIdle (Heeded (σ := σ) w) where
  record _ _ hm hs := hs.record hm.2 (.idle _ hm.1)
  obey _ act _ hs := hs.obey act
  host _ _ hs := ⟨hs.always, hs.stopped⟩
  clock _ _ _ hs := ⟨hs.always, hs.stopped⟩

theorem due?_minor {e : Entry} (past : List Entry) (h : e.moment.IsMinor) : due? (e :: past) = due? past := by
  rw [due?]
  split <;> rename_i hm <;> first | rfl | (rw [hm] at h; exact h.elim)

theorem Moment.IsMinor.idle {m : Moment} (h : m.IsMinor) : ¬m.IsBeginning ∧ ¬m.IsExecution := by
  cases m with
  | progress event => cases event <;> first | exact h.elim | exact ⟨id, id⟩
  | asked q r      => cases q <;> first | exact h.elim | exact ⟨id, id⟩
  | attempted _    => exact h.elim
  | _              => exact ⟨id, id⟩

theorem withstands_due (due : Option Nat) :
    Withstands (fun _ => True) (fun m => m.IsMinor ∧ ∀ act, m ≠ .acted act) (Due (σ := σ) w due) where
  record s m hm hs := ⟨hs.1.record hm.2 (.idle _ hm.1.idle), (due?_minor s.trace hm.1).trans hs.2⟩
  obey s act _ hs := ⟨hs.1.obey act, by cases act <;> exact hs.2⟩
  host _ _ hs := ⟨⟨hs.1.always, hs.1.stopped⟩, hs.2⟩
  clock _ _ _ hs := ⟨⟨hs.1.always, hs.1.stopped⟩, hs.2⟩

theorem keeps_due {due : Option Nat} {e : Operation σ} (he : e.Adds Moment.IsMinor) (hout : e.Outward)
    (hleaves : e.LeavesControl) : e.Keeps env (Due w due) fun _ => Due w due := by
  refine (withstands_due due).keeps env.host.within_all (he.outward hout) fun f hf hblind s hs => ?_
  subst hf
  have htrace := hblind.trace_eq s
  refine ⟨⟨htrace.symm ▸ hs.1.always, ?_⟩, htrace.symm ▸ hs.2⟩
  rw [htrace, hleaves s]
  exact hs.1.stopped

theorem keeps_heeded {e : Operation σ} (he : e.Adds fun m => ¬m.IsBeginning ∧ ¬m.IsExecution) (hout : e.Outward)
    (hleaves : e.LeavesControl) : e.Keeps env (Heeded w) fun _ => Heeded w := by
  refine withstands_heeded.keeps env.host.within_all (he.outward hout) fun f hf hblind s hs => ?_
  subst hf
  have htrace := hblind.trace_eq s
  refine ⟨htrace.symm ▸ hs.always, ?_⟩
  rw [htrace, hleaves s]
  exact hs.stopped

/-! ## Attempts -/

theorem ensures_due {due : Option Nat} {F : Operation σ → Prop} {x : Engine σ α} (hx : Does env F x)
    (hF : ∀ e, F e → e.Keeps env (Due w due) fun _ => Due w due) :
    Ensures (Due w due) x (fun _ => Due w due) fun _ => Heeded w :=
  (hx.ensures hF fun _ => id).imp (fun _ => id) (fun _ _ => id) fun _ _ hs => hs.1

theorem ensures_looks_due (due : Option Nat) {x : Engine σ α} (hx : Does env Looks x) :
    Ensures (Due w due) x (fun _ => Due w due) fun _ => Heeded w :=
  ensures_due hx fun _ he => keeps_due (he.adds fun _ => Moment.IsLook.isMinor) he.outward he.leavesControl

theorem ensures_pass_due (due : Option Nat) {x : Engine σ α} (hx : Does env (Resolves env) x) :
    Ensures (Due w due) x (fun _ => Due w due) fun _ => Heeded w := by
  have hcontrol : ∀ (f : Control → Control), (∀ c, c.stopped = true → (f c).stopped = true) →
      ∀ s : Session σ, Due w due s → Due w due (s.onControl f) := fun f hf s hs => ⟨hs.1.onControl hf, hs.2⟩
  have hheld : ∀ id (s : Session σ), Due w due s → Due w due (s.held id) := fun id s hs =>
    hcontrol .hold (fun _ h => h) _ ⟨⟨hs.1.always, hs.1.stopped⟩, hs.2⟩
  have hreleased : ∀ s : Session σ, Due w due s → Due w due s.released := fun s hs =>
    hcontrol .release (fun _ h => h) _ ⟨⟨hs.1.always, hs.1.stopped⟩, hs.2⟩
  refine ensures_due hx fun e he => ?_
  obtain ⟨β, rfl⟩ | ⟨event, options, rfl⟩ | ⟨hadds, hout, hleaves⟩ := he.cases
  · show Ensures (Due w due) (halt : Engine σ β) (fun _ => Due w due) fun _ => Due w due
    exact ensures_halting (hcontrol .stop fun _ _ => rfl)
  · -- Holding the run and releasing it leaves the stop flag.
    exact ensures_awaitDecision (W := Due w due) (H := fun _ => Due w due) event options hheld
      (fun e he => keeps_due he.minor he.outward he.leavesControl) (fun _ => id) hreleased (fun _ => hreleased) fun _ => id
  · exact keeps_due hadds hout hleaves

theorem ensures_execute_due {index : Nat} {step : Step} (hstep : w.steps[index]? = some step) (value : Option String) :
    Ensures (Due w (some index)) (ask env (.execute step value)) (fun _ => Due w none) fun _ => Heeded w := by
  have hanswered : ∀ s : Session σ, Due w (some index) s → Due w none (s.answered env (.execute step value)) := by
    intro s hs
    let r := env.host.answer (.execute step value) s.world.host
    have hrecord : Due w none (s.record (.asked (.execute step value) r.answer)) := by
      refine ⟨hs.1.record nofun ⟨fun h => h.elim, fun step' value' r' he => ⟨index, hs.2, ?_⟩⟩, rfl⟩
      injection he with hq
      injection hq with hstep'
      rw [← hstep', hstep]
    exact (withstands_due none).accept (fun _ _ => trivial) hrecord
  exact .ask (fun s _ hs _ => hanswered s hs) fun s _ hs _ => (hanswered s hs).1

/-- An attempt executes its step once at most. -/
theorem ensures_attempt_due {index : Nat} {step : Step} (hstep : w.steps[index]? = some step) (row : DataRow) :
    Ensures (Due w (some index)) (attempt env index step row) (fun _ => Heeded w) fun _ => Heeded w := by
  have hwait : ∀ w : WaitSpec, Does env Looks (waitFor env w) := fun w => does_waitFor w fun _ => id
  have hpass : ∀ due, Ensures (Due w due) (resolvePass env) (fun _ => Due w due) fun _ => Heeded w :=
    fun due => ensures_pass_due due (does_resolvePass fun _ => id)
  have hact : ∀ spec, Ensures (Due w (some index)) (act env step spec row) (fun _ => Due w none) fun _ => Heeded w := by
    intro spec
    refine .bind (ensures_looks_due _ (does_valueFor row spec.value fun _ => id)) fun value => ?_
    refine .bind (ensures_looks_due _ (.ofOption hwait)) fun _ => ?_
    exact .bind (ensures_execute_due hstep value) fun _ => ensures_looks_due _ (.ofOption hwait)
  unfold attempt
  split
  · rename_i spec _
    refine .bind (hpass (some index)) fun before => ?_
    split
    · exact .pure fun s hs => hs.1
    · refine .bind (hact spec) fun _ => .bind (hpass none) fun after => ?_
      split
      · exact .pure fun s hs => hs.1
      · split
        · exact (ensures_pass_due none (does_confirmStep fun _ => id)).weaken fun _ _ hs => hs.1
        · exact .pure fun s hs => hs.1
  · exact .fail fun s hs => hs.1

/-! ## Steps and programs -/

theorem ensures_rest_heeded {reason : SleepReason} {x : Engine σ α} (hx : Does env (Rests reason) x) :
    Ensures (Heeded w) x (fun _ => Heeded w) fun _ => Heeded w :=
  hx.ensures (fun _ he => keeps_heeded (he.adds fun _ h => h.isMinor.idle) he.outward he.leavesControl) fun _ => id

theorem ensures_checkpoint_heeded :
    Ensures (Heeded w) (checkpoint env) (fun _ s => Heeded w s ∧ s.Free) fun _ => Heeded w :=
  ensures_checkpoint (fun _ he => keeps_heeded (he.adds fun _ h => h.isMinor.idle) he.outward he.leavesControl) fun _ => id

theorem stepRule_heeded (p : Program) {index : Nat} {step : Step} (hstep : w.steps[index]? = some step) (row : DataRow) :
    StepRule env p index step row (fun s => Heeded w s ∧ s.Free) (Heeded w) Session.Free (Due w (some index))
      (fun _ => Heeded w) fun _ => Heeded w := by
  have hbegins : ∀ event (s : Session σ), Heeded w s ∧ s.Free → Heeded w (s.told env event) := fun event s hs =>
    withstands_heeded.accept (fun _ _ => trivial) (hs.1.record (m := .progress event) nofun (hs.1.begins hs.2 id))
  have htold : ∀ event (s : Session σ), ¬(Moment.progress event).IsBeginning → Heeded w s → Heeded w (s.told env event) :=
    fun event s hevent hs => withstands_heeded.told env.host.within_all ⟨⟨hevent, id⟩, nofun⟩ hs
  exact {
    dryRun := fun typeName r s => hbegins _ s
    started := fun typeName r s => hbegins _ s
    rest := ensures_checkpoint_heeded
    begins := fun s hs hfree => by
      have hcontext : Heeded w (s.onContext fun c => { c with stepIndex := index }) := ⟨hs.always, hs.stopped⟩
      exact ⟨hcontext.record nofun (hcontext.begins hfree id), rfl⟩
    attempt := (ensures_attempt_due hstep row).imp (fun _ => id) (fun _ _ => id) fun _ _ hs => ⟨hs, fun _ _ _ => hs⟩
    retry := fun n e s => htold _ s id
    delay := fun ms => ensures_rest_heeded (does_sleep ms fun _ => id)
    completed := fun typeName s => htold _ s id
    failed := fun e s => htold _ s id
    fail := fun e s _ hs => hs
    unlabelled := fun label s _ _ _ hs => hs }

theorem steadyRule_heeded {p : Program} (hp : p.workflow = w) (tables : p.tables.Within p.workflow.steps.length) :
    SteadyRule env p (Heeded w) (fun s => Heeded w s ∧ s.Free) fun _ => Heeded w where
  tables := tables
  arrive i := by
    refine .bind ensures_checkpoint_heeded fun _ => ensures_visit fun s hs => ⟨?_, hs.2⟩
    have hcontext : Heeded w (s.onContext fun c => { c with stepIndex := i }) := ⟨hs.1.always, hs.1.stopped⟩
    exact hcontext.record nofun (.idle _ ⟨id, id⟩)
  stay _ hs := hs.1
  step i step row hstep _ := (stepRule_heeded p (hp ▸ hstep) row).executeStep
  entered _ _ _ s hs := hs.record nofun (.idle _ ⟨id, id⟩)
  left _ s hs := hs.record nofun (.idle _ ⟨id, id⟩)
  around i e he := keeps_heeded (he.minor (fun _ h => h.idle) fun _ => ⟨id, id⟩) he.outward he.leavesControl
  fault _ _ := id
  outOfFuel _ := id

/-! ## Runs -/

theorem due?_cons {e : Entry} (past : List Entry) (h : ¬e.moment.IsBeginning ∧ ¬e.moment.IsExecution) :
    due? (e :: past) = none ∨ due? (e :: past) = due? past := by
  rw [due?]
  split <;> rename_i hm
  · rw [hm] at h
    exact absurd trivial h.1
  all_goals first | exact .inl rfl | exact .inr rfl

/-- Where nothing begins, what was due is executed once or not at all. -/
theorem executions_after {later past : List Entry} (h : Always (Heeds w) (later ++ past))
    (hbegin : ∀ e ∈ later, ¬e.moment.IsBeginning) :
    later.Pairwise (fun e e' => ¬(e.moment.IsExecution ∧ e'.moment.IsExecution)) ∧
    (∀ e ∈ later, ∀ step value r, e.moment = .asked (.execute step value) r →
      ∃ i, due? past = some i ∧ w.steps[i]? = some step) ∧
    (due? (later ++ past) = none ∨ due? (later ++ past) = due? past ∧ ∀ e ∈ later, ¬e.moment.IsExecution) := by
  induction later with
  | nil => exact ⟨.nil, fun _ he => absurd he List.not_mem_nil, .inr ⟨rfl, fun _ he => absurd he List.not_mem_nil⟩⟩
  | cons e later ih =>
    obtain ⟨hpairs, hexecutes, hdue⟩ := ih h.2 fun x hx => hbegin x (.tail _ hx)
    by_cases hexecution : e.moment.IsExecution
    · obtain ⟨step, value, r, he⟩ : ∃ step value r, e.moment = .asked (.execute step value) r := by
        unfold Moment.IsExecution at hexecution
        split at hexecution
        · exact ⟨_, _, _, ‹_›⟩
        · exact hexecution.elim
      obtain ⟨i, hi, hstep⟩ : ∃ i, due? (later ++ past) = some i ∧ w.steps[i]? = some step :=
        h.1.executes step value r he
      -- What is executed is still due, so nothing was executed since.
      obtain hnone | ⟨hsame, hfirst⟩ := hdue
      · rw [hnone] at hi
        cases hi
      · refine ⟨List.pairwise_cons.2 ⟨fun x hx hboth => hfirst x hx hboth.2, hpairs⟩, ?_, .inl ?_⟩
        · refine List.forall_mem_cons.2 ⟨fun step' value' r' he' => ?_, hexecutes⟩
          cases he.symm.trans he'
          exact ⟨i, hsame ▸ hi, hstep⟩
        · rw [List.cons_append, due?, he]
    · refine ⟨List.pairwise_cons.2 ⟨fun x _ hboth => hexecution hboth.1, hpairs⟩, ?_, ?_⟩
      · refine List.forall_mem_cons.2 ⟨fun step value r he => ?_, hexecutes⟩
        rw [he] at hexecution
        exact absurd trivial hexecution
      · obtain hnone | hsame := due?_cons (later ++ past) ⟨hbegin e (.head _), hexecution⟩
        · exact .inl hnone
        · rw [List.cons_append, hsame]
          exact hdue.imp_right fun h => ⟨h.1, List.forall_mem_cons.2 ⟨hexecution, h.2⟩⟩

end Keeping

theorem heeded_history (env : Env σ) (w : Workflow) (input : RunInput) (world : World σ) :
    Always (Heeds w) (history env w input world) := by
  have htold : ∀ (s : Session σ) event, ¬(Moment.progress event).IsBeginning → Heeded w s → Heeded w (s.told env event) :=
    fun s event hevent hs => withstands_heeded.told env.host.within_all ⟨⟨hevent, id⟩, nofun⟩ hs
  have hstart : Heeded w (world.session w.handlers) := ⟨trivial, fun _ he => absurd he List.not_mem_nil⟩
  have hrun : Ensures (Heeded w) (conduct env w input) (fun _ => Heeded w) fun _ => Heeded w :=
    ensures_conduct w input (fun s => htold s _ id) (fun _ => id) (fun _ _ _ _ s => htold s _ id) fun _ =>
      (steadyRule_heeded (p := w.program w.analyze.1 input env.options) rfl w.within_analyze).executeProgram
  obtain ⟨s, hs, htrace⟩ := history_of_conduct world hstart hrun
  exact htrace ▸ hs.always

/-- **Stops and pauses are heeded**, in every run and whenever the host makes them.  After a stop no step and no
attempt begins, and at most one step is executed, that of the attempt under way; a retry may still be told of, but
it is an attempt and is not made.  And none begins while the run is paused. -/
theorem stops_and_pauses_heeded (env : Env σ) (w : Workflow) (input : RunInput) (world : World σ) :
    (∀ later stop past, history env w input world = later ++ stop :: past → stop.moment = .acted .stop →
      (∀ e ∈ later, ¬e.moment.IsBeginning) ∧
      later.Pairwise (fun e e' => ¬(e.moment.IsExecution ∧ e'.moment.IsExecution)) ∧
      ∀ e ∈ later, ∀ step value r, e.moment = .asked (.execute step value) r →
        ∃ i, due? past = some i ∧ w.steps[i]? = some step) ∧
    ∀ e ∈ history env w input world, e.moment.IsBeginning → e.control.isPaused = false := by
  have halways := heeded_history env w input world
  refine ⟨fun later stop past hsplit hstop => ?_, fun e he hbegin => ?_⟩
  · rw [hsplit] at halways
    have hbegin : ∀ e ∈ later, ¬e.moment.IsBeginning := by
      intro e he hbegin
      obtain ⟨newer, older, rfl⟩ := List.append_of_mem he
      rw [List.append_assoc] at halways
      exact (halways.split.begins hbegin).1 stop (List.mem_append_right _ (.head _)) hstop
    obtain ⟨hpairs, hexecutes, -⟩ := executions_after halways hbegin
    refine ⟨hbegin, hpairs, ?_⟩
    have hdue : due? (stop :: past) = due? past := by rw [due?, hstop]
    rwa [hdue] at hexecutes
  · obtain ⟨newer, older, hsplit⟩ := List.append_of_mem he
    rw [hsplit] at halways
    exact (halways.split.begins hbegin).2

end FormReplay
