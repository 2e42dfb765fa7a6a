import FormReplay.Proofs.Engine.Run
/-!
# Errors that end the run

An error policy answers an error of a retryable kind that an attempt of a step comes to.  Every other error that a
host reports is fatal, one of a condition among them, for conditions are evaluated between the attempts.  After a
fatal error the engine asks and reports nothing more: the error itself is what the execution comes to, from any depth
of frames, and the end of the run is told.
-/
namespace FormReplay

variable {σ α : Type} {env : Env σ}

/-! ## Reading errors off the trace -/

def Moment.error? : Moment → Option RunError
  | .asked _ (.error err) => some err
  | _                     => none

theorem Moment.Announces.error?_eq_none {m : Moment} (h : m.Announces) : m.error? = none := by
  cases m <;> first | rfl | exact h.elim

/-- Whether an attempt is under way from here on, where the moment tells.  Conditions are evaluated when a frame has
come to a step, or has ended. -/
def Moment.attempting? : Moment → Option Bool
  | .attempted _ => some true
  | .progress (.stepCompleted ..) | .progress (.stepRetry ..) | .progress (.stepFailed ..) => some false
  | .visited _ | .entered .. | .left _ => some false
  | _ => none

def attempting : List Entry → Bool
  | []        => false
  | e :: past => e.moment.attempting?.getD (attempting past)

/-- The error of an answer, if no error policy applies to it: its kind is not retryable, or no attempt is under way. -/
def fatal? (e : Entry) (past : List Entry) : Option RunError :=
  e.moment.error?.filter fun err => !(err.isRetryable && attempting past)

def fatalError? : List Entry → Option RunError
  | []        => none
  | e :: past => (fatalError? past).or (fatal? e past)

def Moment.IsEnd : Moment → Prop
  | .progress (.runEnded ..) => True
  | _                        => False

/-- What may come after a fatal error: acts of the host, and the end of the run. -/
def Moment.IsLate (m : Moment) : Prop := (∃ act, m = .acted act) ∨ m.IsEnd

def FailsStop (e : Entry) (past : List Entry) : Prop := fatalError? past ≠ none → e.moment.IsLate

theorem Moment.IsLate.error?_eq_none {m : Moment} (h : m.IsLate) : m.error? = none := by
  obtain ⟨act, rfl⟩ | hend := h
  · rfl
  · cases m with
    | progress event => rfl
    | _              => exact hend.elim

theorem fatalError?_late {later : List Entry} (h : ∀ e ∈ later, e.moment.IsLate) (past : List Entry) :
    fatalError? (later ++ past) = fatalError? past ∧ (Always FailsStop past → Always FailsStop (later ++ past)) := by
  induction later with
  | nil => exact ⟨rfl, id⟩
  | cons e later ih =>
    obtain ⟨hsame, halways⟩ := ih fun x hx => h x (.tail _ hx)
    have he := h e (.head _)
    refine ⟨?_, fun hpast => ⟨fun _ => he, halways hpast⟩⟩
    rw [List.cons_append, fatalError?, hsame, fatal?, he.error?_eq_none]
    exact Option.or_none

/-! ## Traces without and with a fatal error -/

/-- No error was fatal and the end is not told yet; an attempt is under way or not. -/
structure Sound (under : Bool) (trace : List Entry) : Prop where
  fatal : fatalError? trace = none
  going : ∀ e ∈ trace, ¬e.moment.IsEnd
  under : attempting trace = under

def Unharmed (trace : List Entry) : Prop := ∃ under, Sound under trace

/-- A fatal error was the last that happened, but for acts of the host. -/
def Struck (err : RunError) (trace : List Entry) : Prop :=
  ∃ acts e past, trace = acts ++ e :: past ∧ OnlyActs acts ∧ Unharmed past ∧ fatal? e past = some err

/-- What may be left where an action ends early: if an error was fatal, the action ends with that error. -/
def Stands (halt : Halt) (trace : List Entry) : Prop :=
  Unharmed trace ∨ ∃ err, halt = .error err ∧ Struck err trace

def Moment.Passes (m : Moment) : Prop := m.attempting? = none ∧ ¬m.IsEnd

def Moment.IsPlain (m : Moment) : Prop := m.error? = none ∧ m.Passes

theorem Moment.IsMinor.passes {m : Moment} (h : m.IsMinor) : m.Passes := by
  cases m with
  | progress event => cases event <;> first | exact h.elim | exact ⟨rfl, id⟩
  | attempted _ | visited _ | entered _ _ _ | left _ => exact h.elim
  | _              => exact ⟨rfl, id⟩

namespace Sound

variable {under : Bool} {e : Entry} {past : List Entry}

theorem cons (h : Sound under past) (hfatal : fatal? e past = none) (hend : ¬e.moment.IsEnd) :
    Sound (e.moment.attempting?.getD under) (e :: past) where
  fatal := by rw [fatalError?, h.fatal, hfatal]; rfl
  going := List.forall_mem_cons.2 ⟨hend, h.going⟩
  under := by rw [attempting, h.under]

theorem record {m : Moment} {s : Session σ} (h : Sound under s.trace) (herror : m.error? = none) (hend : ¬m.IsEnd) :
    Sound (m.attempting?.getD under) (s.record m).trace :=
  h.cons (e := ⟨s.world.clock, s.world.control, s.context, m⟩) (by rw [fatal?, herror]; rfl) hend

theorem plain (h : Sound under past) (he : e.moment.IsPlain) : Sound under (e :: past) := by
  have hcons := h.cons (e := e) (by rw [fatal?, he.1]; rfl) he.2.2
  rwa [he.2.1] at hcons

end Sound

theorem keptBy_sound (under : Bool) : KeptBy Moment.IsPlain fun s : Session σ => Sound under s.trace :=
  .ofTrace (fun _ => ⟨rfl, rfl, id⟩) fun _ _ he h => h.plain he

theorem Sound.stands {under : Bool} {trace : List Entry} (h : Sound under trace) (halt : Halt) : Stands halt trace :=
  .inl ⟨under, h⟩

theorem Sound.failsStop {under : Bool} {trace : List Entry} (h : Sound under trace) : Always FailsStop trace := by
  have hunharmed : ∀ trace : List Entry, fatalError? trace = none → Always FailsStop trace := by
    intro trace
    induction trace with
    | nil => exact fun _ => trivial
    | cons e past ih =>
      intro hnone
      have hpast : fatalError? past = none := (Option.or_eq_none_iff.1 hnone).1
      exact ⟨fun h => absurd hpast h, ih hpast⟩
  exact hunharmed trace h.fatal

theorem Stands.failsStop {halt : Halt} {trace : List Entry} (h : Stands halt trace) :
    Always FailsStop trace ∧ (∀ e ∈ trace, ¬e.moment.IsEnd) ∧ ∀ err, fatalError? trace = some err → halt = .error err := by
  obtain ⟨under, hsound⟩ | ⟨err, rfl, acts, e, past, rfl, honly, ⟨under, hsound⟩, hfatal⟩ := h
  · refine ⟨hsound.failsStop, hsound.going, fun err herr => ?_⟩
    rw [hsound.fatal] at herr
    cases herr
  · have hlate : ∀ x ∈ acts, x.moment.IsLate := fun x hx => .inl (honly x hx)
    obtain ⟨hsame, halways⟩ := fatalError?_late hlate (e :: past)
    have herror : fatalError? (e :: past) = some err := by rw [fatalError?, hsound.fatal, hfatal]; rfl
    refine ⟨halways ⟨fun h => absurd hsound.fatal h, hsound.failsStop⟩, ?_, fun err' herr' => ?_⟩
    · intro x hx hend
      rcases List.mem_append.1 hx with hx | hx
      · obtain ⟨act, hact⟩ := honly x hx
        rw [hact] at hend
        exact hend
      · rcases List.mem_cons.1 hx with rfl | hx
        · have hlate : x.moment.IsLate := .inr hend
          rw [fatal?, hlate.error?_eq_none] at hfatal
          cases hfatal
        · exact hsound.going x hx hend
    · rw [hsame, herror] at herr'
      rw [Option.some.inj herr']

/-! ## Operations and attempts -/

/-- What is left where an action ends early, and may be tried again if the error is retryable and an attempt is under
way. -/
def Fails (under : Bool) (halt : Halt) (s : Session σ) : Prop :=
  Stands halt s.trace ∧ ∀ err, halt = .error err → err.isRetryable = true → under = true → Sound under s.trace

theorem Sound.fails {under : Bool} {s : Session σ} (h : Sound under s.trace) (halt : Halt) : Fails under halt s :=
  ⟨h.stands halt, fun _ _ _ _ => h⟩

theorem keeps_ask {under : Bool} (q : Query) (hq : ∀ r, (Moment.asked q r).Passes) :
    (Operation.ask q : Operation σ).Keeps env (fun s => Sound under s.trace) (Fails under) := by
  refine .ask (fun s a hs ha => ?_) fun s err hs herr => ?_
  · refine (keptBy_sound under).accept _ _ (hs.plain (e := ⟨_, _, _, .asked q _⟩) ⟨?_, hq _⟩)
    rw [ha]
    rfl
  · let r := env.host.answer q s.world.host
    let e : Entry := ⟨s.world.clock, s.world.control, s.context, .asked q r.answer⟩
    have herror : e.moment.error? = some err := by
      show (Moment.asked q r.answer).error? = _
      rw [show r.answer = .error err from herr]
      rfl
    obtain ⟨acts, hacts, honly⟩ := (s.record (.asked q r.answer)).accept_trace r
    have htrace : (s.answered env q).trace = acts ++ e :: s.trace := hacts
    cases hfatal : fatal? e s.trace with
    | some err' =>
      obtain ⟨herr', hkind⟩ := Option.filter_eq_some_iff.1 hfatal
      obtain rfl : err = err' := Option.some.inj (herror.symm.trans herr')
      refine ⟨.inr ⟨err, rfl, acts, e, s.trace, htrace, honly, ⟨under, hs⟩, hfatal⟩, ?_⟩
      intro err' he' hretry hunder
      cases he'
      rw [hs.under, hretry, hunder] at hkind
      cases hkind
    | none =>
      have hcons := hs.cons hfatal (hq _).2
      rw [show e.moment.attempting? = none from (hq _).1] at hcons
      exact ((keptBy_sound under).accept (s.record (.asked q r.answer)) r hcons).fails _

theorem keeps_passing {under : Bool} {e : Operation σ} (he : e.Adds Moment.Passes) (hout : e.Outward) :
    e.Keeps env (fun s => Sound under s.trace) (Fails under) := by
  have hkept := keptBy_sound (σ := σ) under
  cases e with
  | ask q           => exact keeps_ask q he
  | report event    => exact fun s hs => hkept.told s event ⟨rfl, he⟩ hs
  | sleep reason ms => exact fun s hs => hkept.rested s reason ms ⟨rfl, he⟩ hs
  | edit f =>
    intro hf s hs
    show Sound under (f s).trace
    rw [hf.trace_eq]
    exact hs
  | fail err        => exact fun s hs => hs.fails _
  | note m          => exact fun s hs => hkept.record s m ⟨Moment.Announces.error?_eq_none hout, he⟩ hs
  | observe         => exact hout.elim
  | whole x         => exact he.elim

/-- An attempt: whatever it fails with, if that may be tried again, no error was fatal. -/
theorem ensures_attempt_sound (index : Nat) (step : Step) (row : DataRow) :
    Ensures (fun s => Sound true s.trace) (attempt env index step row) (fun _ s => Sound true s.trace) (Fails true) := by
  have hM : ∀ m : Moment, m.IsMinor → m.Passes := fun _ => Moment.IsMinor.passes
  have hattempt : Does env (Attempts env step) (attempt env index step row) := does_attempt index step row fun _ => id
  refine hattempt.ensures (fun e he => ?_) fun s hs => hs.fails _
  cases he with
  | act he          => exact keeps_passing (he.minor hM fun _ _ => ⟨rfl, id⟩) he.outward
  | notAnAction _ _ => exact keeps_passing trivial trivial
  | resolve he =>
    obtain ⟨β, rfl⟩ | ⟨event, options, rfl⟩ | ⟨hadds, hout, -⟩ := he.cases
    · show Ensures (fun s => Sound true s.trace) (halt : Engine σ β) (fun _ s => Sound true s.trace) (Fails true)
      exact ensures_halting fun s hs => Sound.fails (s := s.onControl .stop) hs _
    · -- The hold is no entry of the trace, and an error passes through it.
      refine ensures_awaitDecision (W := fun s => Sound true s.trace) (H := Fails true) event options (fun _ _ => id)
        (fun e he => keeps_passing (he.minor.mono hM) he.outward) (fun s hs => hs.fails _) (fun _ => id) (fun _ _ => id)
        fun _ => id
    · exact keeps_passing (hadds.mono hM) hout

/-! ## Steps and programs -/

theorem ensures_passing (under : Bool) {F : Operation σ → Prop} {x : Engine σ α} (hx : Does env F x)
    (hF : ∀ e, F e → e.Adds Moment.Passes ∧ e.Outward) :
    Ensures (fun s => Sound under s.trace) x (fun _ s => Sound under s.trace) fun halt s => Stands halt s.trace :=
  (hx.ensures (fun e he => keeps_passing (hF e he).1 (hF e he).2) fun _ hs => hs.fails _).imp (fun _ => id)
    (fun _ _ => id) fun _ _ hs => hs.1

theorem ensures_rest {reason : SleepReason} {x : Engine σ α} (hx : Does env (Rests reason) x) :
    Ensures (fun s => Unharmed s.trace) x (fun _ s => Unharmed s.trace) fun halt s => Stands halt s.trace :=
  .fix fun _ ⟨under, hs₀⟩ => (ensures_passing under hx fun _ he =>
    ⟨he.adds fun _ h => h.isMinor.passes, he.outward⟩).imp (fun _ hs => hs ▸ hs₀) (fun _ _ hs => ⟨under, hs⟩) fun _ _ => id

theorem stepRule_sound (p : Program) (index : Nat) (step : Step) (row : DataRow) :
    StepRule env p index step row (fun s => Sound false s.trace) (fun s => Unharmed s.trace) (fun _ => True)
      (fun s => Sound true s.trace) (fun _ s => Sound false s.trace) fun halt s => Stands halt s.trace := by
  have hkept := keptBy_sound (σ := σ) false
  have hover : ∀ event (s : Session σ), (Moment.progress event).attempting? = some false → Unharmed s.trace →
      Sound false (s.told env event).trace := by
    rintro event s hevent ⟨under, hs⟩
    have hcons := hs.record (m := .progress event) rfl (by cases event <;> first | exact id | cases hevent)
    rw [show (Moment.progress event).attempting?.getD under = false by rw [hevent]; rfl] at hcons
    exact hkept.accept (s.record (.progress event)) _ hcons
  exact {
    dryRun := fun typeName r s hs => hkept.told s _ ⟨rfl, rfl, id⟩ hs
    started := fun typeName r s hs => ⟨false, hkept.told s _ ⟨rfl, rfl, id⟩ hs⟩
    rest := (ensures_rest (does_checkpoint fun _ => id)).weaken fun _ s hs => ⟨hs, trivial⟩
    begins := fun s ⟨under, hs⟩ _ => Sound.record (m := .attempted index) (s := s.onContext _) hs rfl id
    attempt := (ensures_attempt_sound index step row).imp (fun _ => id) (fun _ _ hs => ⟨true, hs⟩) fun _ s hs =>
      ⟨hs.1, fun err herr hretry => ⟨true, hs.2 err herr hretry rfl⟩⟩
    retry := fun n err s hs => ⟨false, hover _ s rfl hs⟩
    delay := fun ms => ensures_rest (does_sleep ms fun _ => id)
    completed := fun typeName s => hover _ s rfl
    failed := fun err s => hover _ s rfl
    fail := fun err s _ hs => hs.stands _
    unlabelled := fun label s _ _ _ hs => hs.stands _ }

theorem steadyRule_sound {p : Program} (tables : p.tables.Within p.workflow.steps.length) :
    SteadyRule env p (fun s => Sound false s.trace) (fun s => Sound false s.trace) fun halt s => Stands halt s.trace where
  tables := tables
  arrive i := by
    have hcheck : Does env (Rests .pausePoll) (checkpoint env) := does_checkpoint fun _ => id
    refine .bind (ensures_passing false hcheck fun e he => ⟨he.adds fun _ h => h.isMinor.passes, he.outward⟩) fun _ => ?_
    exact ensures_visit fun s hs => Sound.record (m := .visited i) (s := s.onContext _) hs rfl id
  stay _ := id
  step i step row _ _ := (stepRule_sound p i step row).executeStep
  entered first last row s hs := hs.record (m := .entered first last row) rfl id
  left signal s hs := hs.record (m := .left signal) rfl id
  around i e he := by
    have hadds : e.Adds Moment.Passes := he.minor (fun _ => Moment.IsMinor.passes) fun _ => ⟨rfl, id⟩
    exact (keeps_passing hadds he.outward).weaken (fun _ _ hs => hs.1) he.ne_observe
  fault _ s hs := hs.stands _
  outOfFuel s hs := hs.stands _

/-! ## Runs -/

theorem sound_started (env : Env σ) (w : Workflow) (world : World σ) : Sound false (started env w world).trace :=
  (keptBy_sound false).told _ _ ⟨rfl, rfl, id⟩ ⟨rfl, fun _ he => absurd he List.not_mem_nil, rfl⟩

/-- A fatal error is what an execution comes to, and the end is not told before. -/
theorem failsStop_execution (env : Env σ) (w : Workflow) (input : RunInput) (world : World σ) :
    (∀ r s, ComesTo (execution env w input (started env w world)) r s →
      Always FailsStop s.trace ∧ (∀ e ∈ s.trace, ¬e.moment.IsEnd) ∧ ∀ err, fatalError? s.trace = some err → r = .error err) ∧
    ∀ s, execution env w input (started env w world) = .error .outOfFuel s →
      Always FailsStop s.trace ∧ fatalError? s.trace = none := by
  have hstarted := sound_started env w world
  have hrun : Ensures (fun s => Sound false s.trace) (execution env w input) (fun _ s => Sound false s.trace)
      fun halt s => Stands halt s.trace :=
    ensures_execution (fun _ => (steadyRule_sound w.within_analyze).executeProgram) fun _ s hs => hs.stands _
  refine ⟨fun r s hx => ?_, fun s hx => ?_⟩
  · cases r with
    | ok u =>
      have hs : Sound false s.trace := hrun.ok hstarted hx
      refine ⟨hs.failsStop, hs.going, fun err herr => ?_⟩
      rw [hs.fatal] at herr
      cases herr
    | error err =>
      obtain ⟨halways, hgoing, hfatal⟩ := (hrun.error hstarted hx).failsStop
      exact ⟨halways, hgoing, fun err' herr' => by cases hfatal err' herr'; rfl⟩
  · obtain ⟨halways, -, hfatal⟩ := (hrun.error hstarted hx).failsStop
    refine ⟨halways, Option.eq_none_iff_forall_ne_some.2 fun err herr => ?_⟩
    cases hfatal err herr

structure RunReport.TellsOf (r : RunReport) (err : RunError) (c : Context) : Prop where
  stopped : err = .stopped → r.outcome = .stopped ∧ r.resume = none
  suspended : ∀ reason, err = .navigation reason → r.outcome = .stopped ∧ r.resume = some ⟨c.stepIndex, c.rowIndex⟩
  failed : err ≠ .stopped → (∀ reason, err ≠ .navigation reason) → r.outcome = .failed err.message ∧ r.resume = none

theorem Session.tellsOf_report (err : RunError) (s : Session σ) : (s.report (.error err)).TellsOf err s.context := by
  cases err with
  | stopped           => exact ⟨fun _ => ⟨rfl, rfl⟩, nofun, fun h => absurd rfl h⟩
  | navigation reason => exact ⟨nofun, fun _ _ => ⟨rfl, rfl⟩, fun _ h => absurd rfl (h reason)⟩
  | _                 => exact ⟨nofun, nofun, fun _ _ => ⟨rfl, rfl⟩⟩

/-- The end of the run is told once, as it is reported, and nothing but acts of the host comes after it. -/
def Finished.TellsEnd (f : Finished σ) : Prop :=
  ∃ before e acts, f.trace = before ++ e :: acts ∧
    e.moment = .progress (.runEnded f.report.outcome f.report.resume f.report.rowsProcessed f.report.learned.length) ∧
    (∀ x ∈ before, ¬x.moment.IsEnd) ∧ OnlyActs acts

theorem Session.fatalError?_ended (env : Env σ) (r : Except RunError Unit) (s : Session σ) :
    fatalError? (s.ended env r).trace = fatalError? s.trace ∧
      (Always FailsStop s.trace → Always FailsStop (s.ended env r).trace) := by
  obtain ⟨acts, e, htrace, honly, he⟩ := s.told_trace env (.runEnded (s.report r).outcome (s.report r).resume
    (s.report r).rowsProcessed (s.report r).learned.length)
  have hlate : ∀ x ∈ acts ++ [e], x.moment.IsLate := by
    intro x hx
    rcases List.mem_append.1 hx with hx | hx
    · exact .inl (honly x hx)
    · rw [List.mem_singleton.1 hx, he]
      exact .inr trivial
  have hended : (s.ended env r).trace = (acts ++ [e]) ++ s.trace := by
    rw [List.append_assoc]
    exact htrace
  rw [hended]
  exact fatalError?_late hlate s.trace

theorem Session.tellsEnd_finished (env : Env σ) (w : Workflow) (r : Except RunError Unit) {s : Session σ}
    (hgoing : ∀ e ∈ s.trace, ¬e.moment.IsEnd) : (s.finished env w r).TellsEnd := by
  obtain ⟨acts, e, htrace, honly, he⟩ := s.told_trace env (.runEnded (s.report r).outcome (s.report r).resume
    (s.report r).rowsProcessed (s.report r).learned.length)
  refine ⟨s.trace.reverse, e, acts.reverse, ?_, he, fun x hx => hgoing x (List.mem_reverse.1 hx),
    fun x hx => honly x (List.mem_reverse.1 hx)⟩
  have hended : (s.ended env r).trace = acts ++ e :: s.trace := htrace
  show (s.ended env r).trace.reverse = _
  rw [hended]
  simp

theorem accepted_of_fatalError? {env : Env σ} {w : Workflow} {input : RunInput} {world : World σ}
    {r : Except RunError Unit} {s : Session σ} (hx : ComesTo (execution env w input (started env w world)) r s)
    {err : RunError} (herr : fatalError? s.trace = some err) : w.analyze.2 = [] := by
  refine Decidable.byContradiction fun h => ?_
  have hrefused : execution env w input = fail (.structural (.invalid w.analyze.2)) := if_neg h
  rw [hrefused] at hx
  cases r with
  | ok u     => cases hx
  | error e' =>
    cases hx
    rw [(sound_started env w world).fatal] at herr
    cases herr

/-- **A fatal error ends the run**, whatever the host does.  After it nothing is asked, retried or failed, and no
policy applies: it is what the program comes to.  The report tells of it by its kind, and in every run the end is
told once, last, and as it is reported. -/
theorem fatal_errors_end_runs (env : Env σ) (w : Workflow) (input : RunInput) (world : World σ) :
    let program := executeProgram env (w.program w.analyze.1 input env.options)
    Always FailsStop (history env w input world) ∧
    (∀ err, fatalError? (history env w input world) = some err →
      w.analyze.2 = [] ∧ ∃ s, program (started env w world) = .error (.error err) s) ∧
    (w.analyze.2 = [] → ∀ err s, program (started env w world) = .error (.error err) s →
      ∃ f, run env w input world = some f ∧ f.report.TellsOf err s.context) ∧
    ∀ f, run env w input world = some f → f.TellsEnd := by
  intro program
  obtain ⟨hresult, hfuel⟩ := failsStop_execution env w input world
  have haccepted : w.analyze.2 = [] → execution env w input = program := fun h => if_pos h
  obtain ⟨r, s, hx, hrun, hhistory⟩ | ⟨s, hx, hrun, hhistory⟩ := run_cases env w input world
  · obtain ⟨halways, hgoing, hfatal⟩ := hresult r s hx
    obtain ⟨hsame, hlater⟩ := s.fatalError?_ended env r
    rw [hhistory, hsame]
    refine ⟨hlater halways, fun err herr => ?_, fun h err s' hs' => ?_, fun f hf => ?_⟩
    · have h := accepted_of_fatalError? hx herr
      obtain rfl := hfatal err herr
      rw [haccepted h] at hx
      exact ⟨h, s, hx⟩
    · rw [haccepted h] at hx
      cases r with
      | ok u     => cases hx.symm.trans hs'
      | error e' =>
        cases hx.symm.trans hs'
        exact ⟨_, hrun, s.tellsOf_report err⟩
    · obtain rfl := Option.some.inj (hrun.symm.trans hf)
      exact s.tellsEnd_finished env w r hgoing
  · obtain ⟨halways, hnone⟩ := hfuel s hx
    rw [hhistory]
    refine ⟨halways, fun err herr => ?_, fun h err s' hs' => ?_, fun f hf => ?_⟩
    · rw [hnone] at herr
      cases herr
    · rw [haccepted h] at hx
      cases hx.symm.trans hs'
    · rw [hrun] at hf
      cases hf

end FormReplay
