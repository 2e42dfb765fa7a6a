import FormReplay.Proofs.Engine.Fuel
/-!
# Runs end

A run may go on for ever only by jumping back, or by waiting for a host.  Where every goto, of a step or of a policy,
leads forward, the index rises within each frame, and so it does from a frame to those inside it; conditions, repeats
and retries are counted.  Where the host never pauses the run and detects nothing, the engine waits for elements only,
and gives up at a deadline.  So a number of steps and polls suffices that hangs on the workflow and the configuration
alone, whatever the host answers.
-/
namespace FormReplay

variable {σ α : Type} {env : Env σ}

/-! ## Jumps and waits -/

/-- Where a step may jump to: as a goto, or by its error policy. -/
def Workflow.jump? (w : Workflow) (step : Step) : Option Nat :=
  match step.kind with
  | .goto label => w.analyze.1.label? label
  | .action ..  =>
    let policy := w.effectivePolicy step
    if policy.mode = .goto then w.analyze.1.label? (policy.gotoLabel.getD "") else none
  | _ => none

def Workflow.JumpsForward (w : Workflow) : Prop := ∀ q ∈ w.steps.zipIdx, ∀ t ∈ w.jump? q.1, q.2 < t

instance (w : Workflow) : Decidable w.JumpsForward :=
  inferInstanceAs (Decidable (∀ q ∈ w.steps.zipIdx, ∀ t ∈ w.jump? q.1, q.2 < t))

theorem Workflow.JumpsForward.lt {w : Workflow} (h : w.JumpsForward) {i t : Nat} {step : Step}
    (hstep : w.steps[i]? = some step) (ht : w.jump? step = some t) : i < t :=
  h (step, i) (List.mem_zipIdx_iff_getElem?.2 hstep) t ht

def WaitSpec.limit (c : Config) (w : WaitSpec) : Nat := (w.timeout.map UInt64.toNat).getD c.waitTimeout

def ActionSpec.waits (spec : ActionSpec) : List WaitSpec := spec.waitBefore.toList ++ spec.waitAfter.toList

def Step.waits (step : Step) : List WaitSpec := step.kind.action?.toList.flatMap ActionSpec.waits

theorem Step.mem_waits {step : Step} {spec : ActionSpec} (hspec : step.kind.action? = some spec) {wait : WaitSpec} :
    wait ∈ step.waits ↔ wait ∈ spec.waitBefore ∨ wait ∈ spec.waitAfter := by
  simp [Step.waits, hspec, ActionSpec.waits]

def Workflow.longestWait (w : Workflow) (c : Config) : Nat :=
  ((w.steps.flatMap Step.waits).map (WaitSpec.limit c)).max?.getD 0

/-- As many steps as a frame can dispatch, and as many polls as a wait can take. -/
def Workflow.enoughFuel (w : Workflow) (c : Config) : Nat := max w.steps.length (w.longestWait c) + 1

def Host.Quiet (h : Host σ) : Prop := ∀ s events, (h.answer .detect s).answer = .ok events → events = []

/-! ## Awake sessions -/

def AwakeSince (c : Nat) (s : Session σ) : Prop := s.world.control.isPaused = false ∧ c ≤ s.world.clock

def EndsSince (c : Nat) (halt : Halt) (s : Session σ) : Prop := halt ≠ .outOfFuel ∧ AwakeSince c s

theorem AwakeSince.mono {c c' : Nat} {s : Session σ} (h : AwakeSince c' s) (hc : c ≤ c') : AwakeSince c s :=
  ⟨h.1, Nat.le_trans hc h.2⟩

theorem AwakeSince.ends {c : Nat} {s : Session σ} (h : AwakeSince c s) (err : RunError) : EndsSince c (.error err) s :=
  ⟨nofun, h⟩

theorem withstands_awake (c : Nat) : Withstands (· ≠ .pause) (fun _ => True) (AwakeSince (σ := σ) c) where
  record _ _ _ hs := hs
  obey s act hact hs := by
    cases act with
    | pause  => exact absurd rfl hact
    | resume => exact ⟨(Control.isPaused_resume _).trans (Bool.or_eq_false_iff.1 hs.1).2, hs.2⟩
    | _      => exact hs
  host _ _ hs := hs
  clock _ _ ht hs := ⟨hs.1, Nat.le_trans hs.2 ht⟩

section Awake

variable {c : Nat} (hpause : env.host.Within (· ≠ .pause))

/-! ## Small operations -/

theorem awake_checkpoint (hfuel : 1 ≤ env.fuel) :
    Ensures (AwakeSince c) (checkpoint env) (fun _ => AwakeSince c) (EndsSince c) := by
  obtain ⟨fuel, hsome⟩ : ∃ fuel, env.fuel = fuel + 1 := ⟨env.fuel - 1, by omega⟩
  unfold checkpoint
  rw [hsome]
  refine .bind (R := fun _ => AwakeSince c) (.checkStop (fun s hs _ => hs) fun s hs _ => hs.ends _) fun _ => ?_
  refine .read fun s hs => ?_
  rw [hs.1]
  exact .pure fun s' hs' => hs' ▸ hs

include hpause

theorem awake_told (event : ProgressEvent) {s : Session σ} (hs : AwakeSince c s) : AwakeSince c (s.told env event) :=
  (withstands_awake c).told hpause trivial hs

theorem awake_ask (q : Query) : Ensures (AwakeSince c) (ask env q) (fun _ => AwakeSince c) (EndsSince c) :=
  .ask (fun _ _ hs _ => (withstands_awake c).answered hpause (fun _ => trivial) hs)
    fun _ _ hs _ => ((withstands_awake c).answered hpause (fun _ => trivial) hs).ends _

theorem awake_sleep (reason : SleepReason) (ms : Nat) :
    Ensures (AwakeSince c) (sleep env reason ms) (fun _ => AwakeSince c) (EndsSince c) := by
  have hstop : Ensures (AwakeSince (σ := σ) c) checkStop (fun _ => AwakeSince c) (EndsSince c) :=
    .checkStop (fun s hs _ => hs) fun s hs _ => hs.ends _
  have hpass : ∀ ms, Ensures (AwakeSince c) (pass env reason ms) (fun _ => AwakeSince c) (EndsSince c) :=
    fun ms => .pass fun s hs => (withstands_awake c).rested hpause trivial hs
  unfold sleep sleepFor
  dsimp only
  induction ms / max env.config.pausePoll 1 with
  | zero =>
    refine .bind hstop fun _ => ?_
    split
    · exact .bind (hpass _) fun _ => hstop
    · exact .pure fun s hs => hs
  | succ n ih => exact .bind hstop fun _ => .bind (hpass _) fun _ => ih

theorem awake_evaluate (row : DataRow) (condition : Condition) :
    Ensures (AwakeSince c) (evaluate env row condition) (fun _ => AwakeSince c) (EndsSince c) := by
  refine .bind (R := fun _ => AwakeSince c) (.note fun _ => id) fun _ => ?_
  split
  · exact awake_ask hpause _
  · cases condition with
    | data field op value   => exact .pure fun s hs => hs
    | ui target check value => exact .bind (awake_ask hpause _) fun _ => .pure fun s hs => hs

theorem awake_standardValue (row : DataRow) (source : ValueSource) :
    Ensures (AwakeSince c) (standardValue env row source) (fun _ => AwakeSince c) (EndsSince c) := by
  have hfail : ∀ e, Ensures (AwakeSince (σ := σ) c) (fail e : Engine σ String) (fun _ => AwakeSince c) (EndsSince c) :=
    fun e => .fail fun s hs => hs.ends e
  cases source with
  | static value => exact .pure fun s hs => hs
  | data field =>
    simp only [standardValue]
    split
    · exact .pure fun s hs => hs
    · exact hfail _
  | clipboard =>
    simp only [standardValue]
    split
    · refine .bind (awake_ask hpause .clipboard) fun found => ?_
      split
      · exact .pure fun s hs => hs
      · exact hfail _
    · exact hfail _

theorem awake_valueFor (row : DataRow) (source : Option ValueSource) :
    Ensures (AwakeSince c) (valueFor env row source) (fun _ => AwakeSince c) (EndsSince c) := by
  cases source with
  | none => exact .pure fun s hs => hs
  | some source =>
    refine .bind (R := fun _ => AwakeSince c) (.note fun _ => id) fun _ => ?_
    split
    · exact awake_ask hpause _
    · exact .bind (awake_standardValue hpause row source) fun _ => .pure fun s hs => hs

/-! ## Waits -/

/-- A wait is over by its deadline: every look but the last lets time pass. -/
theorem awake_pollElement (hpoll : 1 ≤ env.config.waitPoll) (hfuel : 1 ≤ env.fuel) (w : WaitSpec) (timeout deadline : Nat)
    {c' n : Nat} (hc : c ≤ c') (hn : deadline ≤ c' + n) :
    Ensures (AwakeSince c') (pollElement env w timeout deadline (n + 1)) (fun _ => AwakeSince c) (EndsSince c) := by
  induction n using Nat.strongRecOn generalizing c' with | ind n ih => ?_
  have hends : ∀ halt s, EndsSince c' halt s → EndsSince (σ := σ) c halt s := fun _ _ hs => ⟨hs.1, hs.2.mono hc⟩
  refine .bind ((awake_checkpoint hfuel).imp (fun _ => id) (fun _ _ => id) hends) fun _ => ?_
  refine .bind ((awake_ask hpause _).imp (fun _ => id) (fun _ _ => id) hends) fun state => ?_
  split
  · exact .pure fun s hs => hs.mono hc
  refine .read fun s hs => ?_
  split
  · exact .bind (R := fun _ _ => False) (.fail fun s' hs' => hs' ▸ (hs.mono hc).ends _) fun _ => nofun
  rename_i hearly
  -- The deadline is ahead, so there is a look left for after the rest.
  have hlater := hs.2
  obtain ⟨k, rfl⟩ : ∃ k, n = k + 1 := ⟨n - 1, by omega⟩
  refine .bind (R := fun _ => AwakeSince (c' + 1)) (.pass fun s' hs' => ?_) fun _ => ih k (by omega) (by omega) (by omega)
  subst hs'
  refine (withstands_awake (c' + 1)).accept (hpause.elapse _ _ _) ⟨hs.1, ?_⟩
  have hclock : c' + 1 ≤ s'.world.clock + env.config.waitPoll := by omega
  exact hclock

theorem awake_waitFor (hpoll : 1 ≤ env.config.waitPoll) (w : WaitSpec) (hfuel : w.limit env.config < env.fuel) :
    Ensures (AwakeSince c) (waitFor env w) (fun _ => AwakeSince c) (EndsSince c) := by
  obtain ⟨fuel, hsome⟩ : ∃ fuel, env.fuel = fuel + 1 := ⟨env.fuel - 1, by omega⟩
  unfold waitFor
  dsimp only
  refine .read fun s hs => ?_
  rw [hsome]
  have hlimit : s.world.clock + w.limit env.config ≤ s.world.clock + fuel := by omega
  refine (awake_pollElement hpause hpoll (by omega) w _ _ hs.2 hlimit).strengthen fun s' hs' => ?_
  exact hs' ▸ (⟨hs.1, Nat.le_refl _⟩ : AwakeSince s.world.clock s)

theorem awake_resolvePass (hquiet : env.host.Quiet) :
    Ensures (AwakeSince c) (resolvePass env) (fun _ => AwakeSince c) (EndsSince c) := by
  unfold resolvePass
  cases env.config.passDepth with
  | zero => exact .pure fun s hs => hs
  | succ n =>
    refine .bind (R := fun _ => AwakeSince c) (.checkStop (fun s hs _ => hs) fun s hs _ => hs.ends _) fun _ => ?_
    refine .bind (R := fun events s => AwakeSince c s ∧ events = []) (.ask (fun s events hs hanswer => ?_)
      fun s _ hs _ => ?_) fun events => .read fun s hs => ?_
    · exact ⟨(withstands_awake c).answered hpause (fun _ => trivial) hs, hquiet _ _ hanswer⟩
    · exact ((withstands_awake c).answered hpause (fun _ => trivial) hs).ends _
    · obtain ⟨hs, rfl⟩ := hs
      exact .pure fun s' hs' => hs' ▸ hs

end Awake

/-! ## Steps -/

/-- What a workflow asks of an environment so that its runs end. -/
structure Env.Suffices (env : Env σ) (w : Workflow) : Prop where
  pause : env.host.Within (· ≠ .pause)
  quiet : env.host.Quiet
  /-- Time passes between two looks at an element. -/
  poll  : 1 ≤ env.config.waitPoll
  alone : env.options.learningMode = false
  fuel  : w.enoughFuel env.config ≤ env.fuel

/-- The run may go on, and where a goto is under way it leads to a step of `G`. -/
def AwakeTo (G : Nat → Prop) (goal : Option Nat) (s : Session σ) : Prop := AwakeSince 0 s ∧ ∀ t ∈ goal, G t

theorem AwakeSince.stays {s : Session σ} (h : AwakeSince 0 s) {G : Nat → Prop} : AwakeTo G none s :=
  ⟨h, fun _ ht => absurd ht (Option.not_mem_none _)⟩

section Steps

variable {w : Workflow} (h : env.Suffices w)
include h

theorem Env.Suffices.one_le : 1 ≤ env.fuel :=
  Nat.le_trans (Nat.succ_le_succ (Nat.zero_le _)) h.fuel

theorem Env.Suffices.limit_lt {index : Nat} {step : Step} (hstep : w.steps[index]? = some step) {spec : WaitSpec}
    (hspec : spec ∈ step.waits) : spec.limit env.config < env.fuel := by
  have hmem : spec.limit env.config ∈ (w.steps.flatMap Step.waits).map (WaitSpec.limit env.config) :=
    List.mem_map_of_mem (List.mem_flatMap.2 ⟨step, List.mem_of_getElem? hstep, hspec⟩)
  have hle : spec.limit env.config ≤ w.longestWait env.config := List.le_max?_getD_of_mem hmem
  have hfuel := h.fuel
  unfold Workflow.enoughFuel at hfuel
  omega

theorem awake_attempt {index : Nat} {step : Step} (hstep : w.steps[index]? = some step) (row : DataRow) :
    Ensures (AwakeSince 0) (attempt env index step row) (fun _ => AwakeSince 0) (EndsSince 0) := by
  have hpass := awake_resolvePass (c := 0) h.pause h.quiet
  have hwait : ∀ o : Option WaitSpec, (∀ spec ∈ o, spec ∈ step.waits) →
      Ensures (AwakeSince 0) (o.forM (waitFor env)) (fun _ => AwakeSince 0) (EndsSince 0) := by
    intro o ho
    cases o with
    | none      => exact .pure fun s hs => hs
    | some spec => exact awake_waitFor h.pause h.poll spec (h.limit_lt hstep (ho spec rfl))
  unfold attempt
  split
  · rename_i spec hspec
    have hbefore : ∀ wait ∈ spec.waitBefore, wait ∈ step.waits := fun _ hw => (Step.mem_waits hspec).2 (.inl hw)
    have hafter : ∀ wait ∈ spec.waitAfter, wait ∈ step.waits := fun _ hw => (Step.mem_waits hspec).2 (.inr hw)
    refine .bind hpass fun before => ?_
    split
    · exact .pure fun s hs => hs
    refine .bind (.bind (awake_valueFor h.pause row _) fun value => .bind (hwait _ hbefore) fun _ =>
      .bind (awake_ask h.pause _) fun _ => hwait _ hafter) fun _ => .bind hpass fun after => ?_
    split
    · exact .pure fun s hs => hs
    rw [h.alone]
    exact .pure fun s hs => hs
  · exact .fail fun s hs => hs.ends _

variable {p : Program} (hw : p.workflow = w) (htables : p.tables = w.analyze.1) (hforward : w.JumpsForward)

omit h in
include hw htables hforward in
theorem onward_gotoTarget {index : Nat} : ∀ t ∈ p.gotoTarget? index, index < t := by
  intro t ht
  unfold Program.gotoTarget? at ht
  rw [hw] at ht
  split at ht
  · rename_i step hstep
    refine hforward.lt hstep ?_
    rw [Workflow.jump?]
    split at ht
    · rename_i label hkind
      rw [hkind, ← htables]
      exact ht
    · cases ht
  · cases ht

omit h in
include hw htables hforward in
theorem onward_policyTarget {index : Nat} {step : Step} (hstep : w.steps[index]? = some step)
    (haction : step.isAction = true) : ∀ t ∈ p.policyTarget? step, index < t := by
  intro t ht
  refine hforward.lt hstep ?_
  unfold Program.policyTarget? at ht
  rw [hw, htables] at ht
  rw [Workflow.jump?]
  cases hkind : step.kind with
  | action kind spec => exact ht
  | _                =>
    rw [Step.isAction, hkind] at haction
    cases haction

include hw htables hforward

theorem awake_step {index : Nat} {step : Step} (hstep : w.steps[index]? = some step) (haction : step.isAction = true)
    (row : DataRow) : StepRule env p index step row (AwakeSince 0) (AwakeSince 0) (fun _ => True) (AwakeSince 0)
      (AwakeTo (index < ·)) (EndsSince 0) where
  dryRun _ _ _ hs := (awake_told h.pause _ hs).stays
  started _ _ _ hs := awake_told h.pause _ hs
  rest := (awake_checkpoint h.one_le).weaken fun _ _ hs => ⟨hs, trivial⟩
  begins _ hs _ := hs
  attempt := (awake_attempt h hstep row).imp (fun _ => id) (fun _ _ => id) fun _ _ hs => ⟨hs, fun _ _ _ => hs.2⟩
  retry _ _ _ hs := awake_told h.pause _ hs
  delay ms := awake_sleep h.pause .retryDelay ms
  completed _ _ hs := (awake_told h.pause _ hs).stays
  failed _ _ hs := ⟨awake_told h.pause _ hs, onward_policyTarget hw htables hforward hstep haction⟩
  fail _ _ _ hs := hs.1.ends _
  unlabelled _ _ _ _ _ hs := hs.1.ends _

omit hw htables hforward in
theorem awake_runLoop {start : Nat} {spec : LoopSpec} {row : DataRow} {body : DataRow → Engine σ Signal} {G : Nat → Prop}
    (hbody : ∀ row, Ensures (AwakeSince 0) (body row) (fun signal => AwakeTo G signal.target?) (EndsSince 0)) :
    Ensures (AwakeSince 0) (runLoop env p start spec row body) (AfterLoop (AwakeTo G)) (EndsSince 0) := by
  have hrest : Ensures (AwakeTo G none) (checkpoint env) (fun _ => AwakeTo G none) (EndsSince (σ := σ) 0) :=
    (awake_checkpoint h.one_le).imp (fun _ hs => hs.1) (fun _ _ hs => hs.stays) fun _ _ => id
  have hturn : ∀ i row, Ensures (AwakeTo G none) (do report env (.loopIteration start i spec.id); body row)
      (fun signal => AwakeTo G signal.target?) (EndsSince (σ := σ) 0) :=
    fun i row => .bind (R := fun _ => AwakeSince 0) (.report fun _ hs => awake_told h.pause _ hs.1) fun _ => hbody row
  have henter : ∀ isPrimary first i merged, Ensures (AwakeTo G none) (enterRow env p isPrimary first i merged)
      (fun _ => AwakeTo G none) (EndsSince (σ := σ) 0) := by
    intro isPrimary first i merged
    unfold enterRow
    split
    · refine .bind (R := fun _ => AwakeTo G none) (.modifyContext fun _ hs => hs) fun _ => ?_
      exact .report fun _ hs => (awake_told h.pause _ hs.1).stays
    · exact .modifyContext fun _ hs => hs
  have hrule : LoopRule env p start spec row body (AwakeTo G) (fun _ _ => True) (EndsSince 0) := {
    rest := hrest
    test := fun c _ _ => .bind (R := fun _ => AwakeSince 0) (.modifyContext fun _ hs => hs.1) fun _ =>
      (awake_evaluate h.pause row c).weaken fun _ _ hs => hs.stays
    turn := fun _ i => hturn i row
    position := fun _ _ i item first _ _ => Ensures.imp
      (.bind hrest fun _ => .bind (henter _ first i _) fun _ => hturn i _) (fun _ hs => hs.1) (fun _ _ hs => ⟨hs, trivial⟩)
      fun _ _ => id
    restore := fun _ _ hs => hs }
  exact hrule.runLoop.strengthen fun s hs => hs.stays

/-! ## Walks -/

/-- **The index rises within a frame, and to the frames inside it**, so a frame dispatches no more steps than are left. -/
theorem awake_walk {k first last index : Nat} (hlast : last ≤ w.steps.length) (hk : w.steps.length - index < k)
    (row : DataRow) : Ensures (AwakeSince 0) (walk env p k first last index row)
      (fun signal => AwakeTo (fun t => index < t ∧ t < w.steps.length) signal.target?) (EndsSince 0) := by
  induction k generalizing first last index row with
  | zero => omega
  | succ k ih =>
    unfold walk
    split
    · exact .pure fun s hs => hs.stays
    rename_i hindex
    refine .bind (awake_checkpoint h.one_le) fun _ => .bind (R := fun _ => AwakeSince 0) (fun s hs => hs) fun _ => ?_
    split
    · rename_i step hstep
      have hstep' : w.steps[index]? = some step := hw ▸ hstep
      have htable : p.tables.Within p.workflow.steps.length := by rw [htables, hw]; exact w.within_analyze
      have hlater : ∀ {i}, index < i → w.steps.length - i < k := by omega
      refine .bind (ensures_dispatch (A := AwakeTo (index < ·)) htable hstep ?stay ?condition ?execute ?loop ?miss)
        fun m => ?go
      case stay => exact fun s hs => ⟨hs, onward_gotoTarget hw htables hforward⟩
      case condition => exact fun c _ => (awake_evaluate h.pause row c).weaken fun _ _ hs => hs.stays
      case execute => exact fun haction => (awake_step h hw htables hforward hstep' haction row).executeStep
      case loop =>
        intro spec stop _ hstop
        have hstop' : stop ≤ w.steps.length := Nat.le_of_lt (hw ▸ (htable.loopToEnd _ (Jumps.mem_of_target? hstop)).2)
        -- A goto that leads out of the body leads behind its first step.
        refine (awake_runLoop h (G := fun t => index < t ∧ t < w.steps.length) fun row => ?_).weaken fun signal s hs => ?_
        · refine ensures_inFrame (fun _ => id) (ih hstop' (hlater (Nat.lt_succ_self index)) row) fun signal s hs => ?_
          exact ⟨hs.1, fun t ht => ⟨Nat.lt_of_succ_lt (hs.2 t ht).1, (hs.2 t ht).2⟩⟩
        · exact ⟨⟨⟨hs.1.1, fun t ht => (hs.1.2 t ht).1⟩, fun t ht => hw ▸ (hs.1.2 t ht).2⟩, hs.2⟩
      case miss => exact fun fault s _ hs => hs.1.ends _
      case go =>
        have hon : ∀ i, index < i → Ensures (AwakeSince 0) (walk env p k first last i row)
            (fun signal => AwakeTo (fun t => index < t ∧ t < w.steps.length) signal.target?) (EndsSince (σ := σ) 0) :=
          fun i hi => (ih hlast (hlater hi) row).weaken fun signal s hs =>
            ⟨hs.1, fun t ht => ⟨Nat.lt_trans hi (hs.2 t ht).1, (hs.2 t ht).2⟩⟩
        refine .fix fun s₀ hs₀ => ?_
        cases m with
        | advance i => exact (hon i hs₀.2).strengthen fun s hs => hs ▸ hs₀.1.1
        | jump t =>
          have ht : index < t := hs₀.1.2 t rfl
          dsimp only
          split
          · exact (hon t ht).strengthen fun s hs => hs ▸ hs₀.1.1
          · refine .pure fun s hs => ⟨hs ▸ hs₀.1.1, fun t' ht' => ?_⟩
            cases ht'
            exact ⟨ht, hw ▸ hs₀.2⟩
        | leave signal =>
          refine .pure fun s hs => ⟨hs ▸ hs₀.1.1, fun t ht => ?_⟩
          rw [hs₀.2.target?_eq_none] at ht
          cases ht
    · exact .fail fun s hs => hs.ends _

theorem awake_executeProgram : Ensures (AwakeSince 0) (executeProgram env p) (fun _ => AwakeSince 0) (EndsSince 0) := by
  have hfuel : w.steps.length - 0 < env.fuel := by
    have := h.fuel
    unfold Workflow.enoughFuel at this
    omega
  have hrange : ∀ row, Ensures (AwakeSince 0) (executeRange env p 0 p.workflow.steps.length row)
      (fun _ s => AwakeSince 0 s ∧ True) (EndsSince (σ := σ) 0) := by
    intro row
    rw [hw]
    exact ensures_inFrame (fun _ => id) (awake_walk h hw htables hforward (Nat.le_refl _) hfuel row) fun _ _ hs =>
      ⟨hs.1, trivial⟩
  refine ensures_executeProgram (S := fun _ _ => AwakeSince 0) (O := fun _ => True) (awake_checkpoint h.one_le)
    (fun i row _ => ?_) (fun i row _ => hrange row) (hrange .empty) fun signal => ?_
  · exact .bind (R := fun _ => AwakeSince 0) (.modifyContext fun _ hs => hs) fun _ =>
      .report fun _ hs => awake_told h.pause _ hs
  · unfold checkEscaped
    split
    · exact .pure fun _ hs => hs.1
    split
    · exact .fail fun _ hs => hs.1.ends _
    · exact .fail fun _ hs => hs.1.ends _

end Steps

/-! ## Runs -/

theorem run_isSome {w : Workflow} (h : env.Suffices w) (hforward : w.JumpsForward) (input : RunInput) (world : World σ) :
    ∃ f, run env w input world = some f := by
  have hexecution : Ensures (AwakeSince 0) (execution env w input) (fun _ => AwakeSince 0) (EndsSince 0) :=
    ensures_execution (fun _ => awake_executeProgram h rfl rfl hforward) fun _ _ hs => hs.ends _
  have hstart : AwakeSince 0 (started env w world) := awake_told h.pause _ ⟨rfl, Nat.zero_le _⟩
  obtain ⟨r, s, -, hrun, -⟩ | ⟨s, hout, -, -⟩ := run_cases env w input world
  · exact ⟨_, hrun⟩
  · exact absurd rfl (hexecution.error hstart hout).1

/-- **Runs end.**  Let every jump of a workflow, of a goto step or of a policy, lead to a later step, let time pass
between two looks at an element, and let the host never pause the run and detect nothing.  Then so many steps and
polls suffice for every input, whatever the host answers: with that fuel or any more the run ends, and always in the
same way. -/
theorem run_terminates (env : Env σ) (w : Workflow) (input : RunInput) (world : World σ) (hforward : w.JumpsForward)
    (hpoll : 1 ≤ env.config.waitPoll) (halone : env.options.learningMode = false)
    (hpause : env.host.Within (· ≠ .pause)) (hquiet : env.host.Quiet) :
    ∃ f, ∀ fuel, w.enoughFuel env.config ≤ fuel → run (env.withFuel fuel) w input world = some f := by
  let enough : Env σ := env.withFuel (w.enoughFuel env.config)
  have hsuffices : enough.Suffices w := ⟨hpause, hquiet, hpoll, halone, Nat.le_refl _⟩
  obtain ⟨f, hf⟩ := run_isSome hsuffices hforward input world
  refine ⟨f, fun fuel hfuel => ?_⟩
  have hmore : enough.fuel ≤ fuel := hfuel
  exact run_withFuel hmore hf

/-- A step that always fails is repeated in a loop whose condition always holds, and the gotos lead forward. -/
def stubborn : Workflow where
  steps := [
    { kind := .loopStart { mode := .whileHolds (.data "x" .empty none) none } },
    { kind := .action .click { target := some "#x", waitBefore := some ⟨"#x", .visible, some 250⟩ },
      onError := some (ErrorPolicy.ofMode .repeatLoop |>.withRetries 2 10) },
    { kind := .loopEnd none },
    { kind := .goto "late" },
    { kind := .label "late" },
    { kind := .action .click { target := some "#y" }, onError := some (.goto "end") },
    { kind := .label "end" }]

def barren : Host Unit where
  answer q s :=
    match q with
    | .execute _ _ => ⟨.error (.step (.reported "failed")), s, []⟩
    | q            => Host.inert.answer q s
  observe := Host.inert.observe
  elapse := Host.inert.elapse
  hasClipboard := false

theorem stubborn_terminates :
    stubborn.analyze.2 = [] ∧ stubborn.JumpsForward ∧ barren.Within (· ≠ .pause) ∧ barren.Quiet ∧
      ∃ f, ∀ fuel, stubborn.enoughFuel {} ≤ fuel →
        run ⟨barren, {}, {}, fuel, ⟨0, 0⟩⟩ stubborn ⟨⟨"", []⟩, []⟩ { host := () } = some f := by
  have hforward : stubborn.JumpsForward := by decide
  have hwithin : barren.Within (· ≠ .pause) := {
    answer := fun q _ act hact => by cases q <;> cases hact
    observe := fun _ _ _ hact => by cases hact
    elapse := fun _ _ _ _ hact => by cases hact }
  have hquiet : barren.Quiet := fun _ _ h => by cases h; rfl
  refine ⟨by decide, hforward, hwithin, hquiet, ?_⟩
  exact run_terminates ⟨barren, {}, {}, 0, ⟨0, 0⟩⟩ stubborn ⟨⟨"", []⟩, []⟩ { host := () } hforward (by decide) rfl
    hwithin hquiet

end FormReplay
