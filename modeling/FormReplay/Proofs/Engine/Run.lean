import FormReplay.Proofs.Engine.Trace
/-!
# What a run consists of

A run tells that it starts, executes its program unless the analysis refuses the workflow, and tells how it ended.
So what holds once the program was executed gives what holds of the whole run, of its report and of its trace.
-/
namespace FormReplay

variable {σ : Type}

theorem Session.told_trace (env : Env σ) (s : Session σ) (event : ProgressEvent) :
    ∃ acts e, (s.told env event).trace = acts ++ e :: s.trace ∧ OnlyActs acts ∧ e.moment = .progress event := by
  obtain ⟨acts, hacts, honly⟩ := (s.record (.progress event)).accept_trace (env.host.observe event s.world.host)
  exact ⟨acts, _, hacts, honly, rfl⟩

theorem Session.told_learned {env : Env σ} (s : Session σ) (event : ProgressEvent) :
    (s.told env event).learned = s.learned ∧ (s.told env event).context = s.context := by
  have hkept : KeptBy (fun _ => True) fun s' : Session σ => s'.learned = s.learned ∧ s'.context = s.context :=
    ⟨fun _ => trivial, fun _ _ _ => id, fun _ _ => id⟩
  exact hkept.told s event trivial ⟨rfl, rfl⟩

def started (env : Env σ) (w : Workflow) (world : World σ) : Session σ :=
  (world.session w.handlers).told env (.runStarted w.name env.options)

def execution (env : Env σ) (w : Workflow) (input : RunInput) : Engine σ Unit :=
  if w.analyze.2 = [] then executeProgram env (w.program w.analyze.1 input env.options)
  else fail (.structural (.invalid w.analyze.2))

def Session.report (r : Except RunError Unit) (s : Session σ) : RunReport :=
  ⟨(conclude s.context r).1, (conclude s.context r).2, s.learned, s.context.rowsProcessed⟩

/-- **A run can be taken up again after a navigation only**, where its context is. -/
theorem Session.report_resume {r : Except RunError Unit} {s : Session σ} {point : ResumePoint}
    (h : point ∈ (s.report r).resume) :
    ∃ reason, r = .error (.navigation reason) ∧ point = ⟨s.context.stepIndex, s.context.rowIndex⟩ := by
  change point ∈ (conclude s.context r).2 at h
  unfold conclude at h
  split at h <;> cases h
  exact ⟨_, rfl, rfl⟩

def Session.ended (env : Env σ) (r : Except RunError Unit) (s : Session σ) : Session σ :=
  s.told env (.runEnded (s.report r).outcome (s.report r).resume (s.report r).rowsProcessed (s.report r).learned.length)

def Session.finished (env : Env σ) (w : Workflow) (r : Except RunError Unit) (s : Session σ) : Finished σ :=
  ⟨s.report r, s.learned.foldl Workflow.addHandler w, (s.ended env r).world, (s.ended env r).trace.reverse⟩

theorem conduct_eq (env : Env σ) (w : Workflow) (input : RunInput) (world : World σ) :
    conduct env w input (world.session w.handlers) =
      match execution env w input (started env w world) with
      | .ok () s             => .ok (s.report (.ok ()), s.learned.foldl Workflow.addHandler w) (s.ended env (.ok ()))
      | .error (.error e) s  => .ok (s.report (.error e), s.learned.foldl Workflow.addHandler w) (s.ended env (.error e))
      | .error .outOfFuel s  => .error .outOfFuel s := by
  unfold execution
  by_cases h : w.analyze.2 = []
  · rw [if_pos h]
    have hempty : w.analyze.2.isEmpty = true := List.isEmpty_iff.2 h
    have hconduct : conduct env w input = report env (.runStarted w.name env.options) >>= fun _ =>
        observing (executeProgram env (w.program w.analyze.1 input env.options)) >>= fun result => get >>= fun s =>
        finishRun env (conclude s.context result).1 (conclude s.context result).2 >>= fun r =>
        pure (r, s.learned.foldl Workflow.addHandler w) := by
      unfold conduct
      dsimp only
      rw [hempty]
      rfl
    rw [hconduct]
    show (observing (executeProgram env (w.program w.analyze.1 input env.options)) >>= _) (started env w world) = _
    simp only [bind, EStateM.bind, observing]
    cases executeProgram env (w.program w.analyze.1 input env.options) (started env w world) with
    | ok a s    => rfl
    | error e s => cases e <;> rfl
  · rw [if_neg h]
    have hempty : w.analyze.2.isEmpty = false := by simpa using h
    have hconduct : conduct env w input = report env (.runStarted w.name env.options) >>= fun _ =>
        finishRun env (.failed (RunError.structural (.invalid w.analyze.2)).message) none >>= fun r => pure (r, w) := by
      unfold conduct
      dsimp only
      rw [hempty]
      rfl
    have hlearned : (started env w world).learned = [] := ((world.session w.handlers).told_learned _).1
    have hsame : (started env w world).learned.foldl Workflow.addHandler w = w := by rw [hlearned]; rfl
    rw [hconduct]
    dsimp only [fail, throw, throwThe, MonadExceptOf.throw, EStateM.throw]
    rw [hsame]
    rfl

theorem Workflow.program_getElem? {w : Workflow} {tables : JumpTables} {input : RunInput} {o : RunOptions} {i : Nat}
    {item : Record} (h : (w.program tables input o).input.primary.rows[i]? = some item) :
    input.primary.rows[o.skipRows + i]? = some item ∧ ∀ n ∈ o.limitRows, i < n := by
  unfold Workflow.program Dataset.sliced at h
  dsimp only at h
  split at h
  · rename_i n hlimit
    rw [List.getElem?_take] at h
    split at h
    · rename_i hi
      refine ⟨List.getElem?_drop ▸ h, fun n' hn' => ?_⟩
      rw [hlimit] at hn'
      cases hn'
      exact hi
    · cases h
  · rename_i hlimit
    refine ⟨List.getElem?_drop ▸ h, fun n hn => ?_⟩
    rw [hlimit] at hn
    cases hn

def ComesTo (x : EStateM.Result Halt (Session σ) Unit) : Except RunError Unit → Session σ → Prop
  | .ok (), s   => x = .ok () s
  | .error e, s => x = .error (.error e) s

/-- **A run ends with its execution**: it has come to a result, which is what the run reports, or the fuel did not
suffice. -/
theorem run_cases (env : Env σ) (w : Workflow) (input : RunInput) (world : World σ) :
    (∃ r s, ComesTo (execution env w input (started env w world)) r s ∧ run env w input world = some (s.finished env w r) ∧
      history env w input world = (s.ended env r).trace) ∨
    ∃ s, execution env w input (started env w world) = .error .outOfFuel s ∧ run env w input world = none ∧
      history env w input world = s.trace := by
  unfold run history
  rw [conduct_eq]
  cases hx : execution env w input (started env w world) with
  | ok a s => exact .inl ⟨.ok (), s, rfl, rfl, rfl⟩
  | error e s =>
    cases e with
    | error e   => exact .inl ⟨.error e, s, rfl, rfl, rfl⟩
    | outOfFuel => exact .inr ⟨s, rfl, rfl, rfl⟩

theorem ComesTo.after {x : Engine σ Unit} {r : Except RunError Unit} {s s' : Session σ} (h : ComesTo (x s) r s') :
    s.after x = s' := by
  rw [Session.after]
  cases r with
  | ok _    => rw [show x s = _ from h]
  | error e => rw [show x s = _ from h]

theorem Always.execution {env : Env σ} {w : Workflow} {input : RunInput} {world : World σ}
    {R : Entry → List Entry → Prop} (h : Always R (history env w input world)) :
    Always R ((started env w world).after (execution env w input)).trace := by
  obtain ⟨r, s, hcomes, -, hhistory⟩ | ⟨s, hexecution, -, hhistory⟩ := run_cases env w input world
  · obtain ⟨acts, e, htrace, -⟩ := s.told_trace env
      (.runEnded (s.report r).outcome (s.report r).resume (s.report r).rowsProcessed (s.report r).learned.length)
    rw [hhistory, Session.ended, htrace] at h
    rw [hcomes.after]
    exact h.of_append.2
  · rw [Session.after, hexecution]
    exact hhistory ▸ h

theorem ensures_execution {env : Env σ} {w : Workflow} {input : RunInput} {P Q : Session σ → Prop}
    {E : Halt → Session σ → Prop}
    (hprogram : w.analyze.2 = [] →
      Ensures P (executeProgram env (w.program w.analyze.1 input env.options)) (fun _ => Q) E)
    (hrefused : ∀ fault s, P s → E (.error (.structural fault)) s) : Ensures P (execution env w input) (fun _ => Q) E := by
  unfold execution
  split
  · exact hprogram ‹_›
  · exact .fail (hrefused _)

theorem run_ensures {env : Env σ} {w : Workflow} {input : RunInput} {P Q : Session σ → Prop} {E : Halt → Session σ → Prop}
    (h : Ensures P (execution env w input) (fun _ => Q) E) (world : World σ) (hstart : P (started env w world)) :
    (∃ r s, (∀ a, r = .ok a → Q s) ∧ (∀ e, r = .error e → E (.error e) s) ∧
      run env w input world = some (s.finished env w r) ∧ history env w input world = (s.ended env r).trace) ∨
    ∃ s, E .outOfFuel s ∧ run env w input world = none ∧ history env w input world = s.trace := by
  obtain ⟨r, s, hcomes, hrun, hhistory⟩ | ⟨s, hexecution, hrun, hhistory⟩ := run_cases env w input world
  · refine .inl ⟨r, s, fun a ha => ?_, fun e he => ?_, hrun, hhistory⟩
    · subst ha
      exact h.ok hstart hcomes
    · subst he
      exact h.error hstart hcomes
  · exact .inr ⟨s, h.error hstart hexecution, hrun, hhistory⟩

end FormReplay
