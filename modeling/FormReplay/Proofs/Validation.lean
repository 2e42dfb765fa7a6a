import FormReplay.Proofs.Engine.Run
/-!
# What the analysis is good for

A workflow with issues is refused: its run asks the host nothing.  In a workflow without issues every lookup
of the walk succeeds, so the only structural error the engine comes to by itself is a loop signal outside a loop.
Any other that ends an execution is the answer of the host to the last query (`Reported`), passed on as it is.
-/
namespace FormReplay

variable {σ α : Type} {env : Env σ}

/-! ## Faults of the host -/

/-- The last query was answered with this fault, and only acts of the host came after. -/
def Reported (fault : StructuralFault) (trace : List Entry) : Prop :=
  ∃ acts e past q, trace = acts ++ e :: past ∧ OnlyActs acts ∧ e.moment = .asked q (.error (.structural fault))

/-- A structural error that ends an execution is a loop signal outside a loop, or the host's. -/
def Excused (e : Halt) (s : Session σ) : Prop :=
  ∀ fault, e = .error (.structural fault) →
    (∃ signal, signal.isLoopControl = true ∧ fault = .loopControlOutside signal) ∨ Reported fault s.trace

theorem excused_answered {q : Query} {e : RunError} {s : Session σ}
    (h : (env.host.answer q s.world.host).answer = .error e) : Excused (.error e) (s.answered env q) := by
  rintro fault he
  cases he
  obtain ⟨acts, hacts, honly⟩ := (s.record (.asked q _)).accept_trace (env.host.answer q s.world.host)
  exact .inr ⟨acts, _, s.trace, q, hacts, honly, by rw [← h]⟩

theorem excused_of_ne {e : Halt} {s : Session σ} (h : ∀ fault, e ≠ .error (.structural fault)) : Excused e s :=
  fun fault he => absurd he (h fault)

def Operation.Harmless : Operation σ → Prop
  | .fail e  => ∀ fault, e ≠ .structural fault
  | .whole x => ∀ C : Prop, Ensures (fun _ => C) x (fun _ _ => C) fun e s => Excused e s ∧ C
  | _        => True

theorem Operation.Harmless.keeps {e : Operation σ} (h : e.Harmless) (C : Prop) :
    e.Keeps env (fun _ => C) fun e s => Excused e s ∧ C := by
  cases e with
  | ask q   => exact .ask (fun _ _ hC _ => hC) fun s e hC he => ⟨excused_answered he, hC⟩
  | fail e  => exact fun s hC => ⟨excused_of_ne fun fault he => h fault (Halt.error.inj he), hC⟩
  | whole x => exact h C
  | observe => exact fun _ _ hs => hs.2
  | edit f  => exact fun _ _ hC => hC
  | report _ | note _ | sleep _ _ => exact fun _ hC => hC

section Harmless

theorem Rests.harmless {reason : SleepReason} {e : Operation σ} (h : Rests reason e) : e.Harmless := by
  cases h with
  | sleep _ => trivial
  | stopped => exact fun _ => nofun

theorem Judges.harmless {row : DataRow} {c : Condition} {e : Operation σ} (h : Judges row c e) : e.Harmless := by
  cases h <;> trivial

theorem Values.harmless {row : DataRow} {source : ValueSource} {e : Operation σ} (h : Values row source e) :
    e.Harmless := by
  cases h with
  | fault _ => exact fun _ => nofun
  | _       => trivial

theorem Looks.harmless {e : Operation σ} (h : Looks e) : e.Harmless := by
  cases h with
  | rest h     => exact h.harmless
  | judges h   => exact h.harmless
  | values h   => exact h.harmless
  | timedOut _ => exact fun _ => nofun
  | _          => trivial

theorem Waits.harmless {e : Operation σ} (h : Waits e) : e.Harmless := by
  cases h with
  | stopped => exact fun _ => nofun
  | _       => trivial

theorem Resolves.harmless {e : Operation σ} (h : Resolves env e) : e.Harmless := by
  cases h with
  | rest h => exact h.harmless
  | halt =>
    exact fun C => .bind (R := fun _ _ => C) (.modifyControl fun _ => id) fun _ =>
      .fail fun s hC => ⟨excused_of_ne fun _ => by nofun, hC⟩
  | await event options =>
    exact fun C => ensures_awaitDecision event options (fun _ _ => id) (fun _ he => he.harmless.keeps C)
      (fun _ hC => ⟨excused_of_ne fun _ => nofun, hC⟩) (fun _ => id) (fun _ _ => id) fun _ => id
  | _ => trivial

theorem Loops.harmless {start : Nat} {e : Operation σ} (h : Loops start e) : e.Harmless := by
  cases h with
  | rest h   => exact h.harmless
  | judges h => exact h.harmless
  | _        => trivial

theorem Rows.harmless {e : Operation σ} (h : Rows e) : e.Harmless := by
  cases h with
  | rest h => exact h.harmless
  | _      => trivial

theorem Steps.harmless {index : Nat} {e : Operation σ} (h : Steps index e) : e.Harmless := by
  cases h with
  | pause h | delay h => exact h.harmless
  | fail e he => rintro fault rfl; cases he
  | _ => trivial

theorem Attempts.harmless {step : Step} (hact : step.isAction = true) {e : Operation σ} (h : Attempts env step e) :
    e.Harmless := by
  cases h with
  | resolve h => exact h.harmless
  | act h =>
    cases h with
    | look h    => exact h.harmless
    | execute _ => trivial
  | notAnAction index hnone =>
    rw [Step.isAction, hnone] at hact
    cases hact

end Harmless

/-! ## Programs that cover their workflow -/

/-- **A covered program comes to no structural error but a loop signal outside a loop.** -/
theorem excused_program {p : Program} (hwithin : p.tables.Within p.workflow.steps.length)
    (hcovers : p.tables.Covers p.workflow) :
    Ensures (fun _ => True) (executeProgram env p) (fun _ _ => True) Excused := by
  -- A frame in the program keeps to it; of the session nothing is needed.
  let J (nest : Nest) : Prop := ∀ at_ ∈ nest, at_.1.last ≤ p.workflow.steps.length
  have keeps : ∀ nest (e : Operation σ), e ≠ .observe → e.Harmless → e.Keeps env (fun _ => J nest) Excused :=
    fun nest e hobserve he => (he.keeps (J nest)).weaken (fun _ _ hs => hs.1) hobserve
  have hrule : ProgramRule env p (fun _ nest _ => J nest) Excused := {
    tables := hwithin
    visit := fun _ f at_ outer i s _ _ hs => List.forall_mem_cons.2 (List.forall_mem_cons.1 hs)
    enter := fun f outer i stop row s _ hstop hs =>
      List.forall_mem_cons.2 ⟨Nat.le_of_lt (hwithin.loopToEnd _ (Jumps.mem_of_target? hstop)).2, hs⟩
    leave := fun f at_ outer signal s _ hs => (List.forall_mem_cons.1 hs).2
    step := by
      intro f outer i step _ hact
      have hattempt : Does env (Attempts env step) (attempt env i step f.row) := does_attempt i step f.row fun _ => id
      refine (hattempt.ensures (fun e he => (he.harmless hact).keeps (J ((f, some i) :: outer))) fun s hs => ?_).imp
        (fun s hs => hs.1) (fun _ _ => id) fun e s hs => ⟨hs.1, fun _ _ _ => hs.2⟩
      exact ⟨excused_of_ne fun _ => nofun, hs⟩
    failed := fun f outer i step e s _ hs => hs
    around := by
      rintro goal f outer i e (he | he)
      · exact keeps (f :: outer) e he.ne_observe he.harmless
      · exact keeps (f :: outer) e he.ne_observe he.harmless
    miss := fun f at_ outer i fault s hi hmiss hs =>
      absurd hmiss (hcovers.not_misses (Nat.lt_of_lt_of_le hi.2 (hs (f, at_) (.head _))))
    outOfFuel := fun _ _ _ _ => excused_of_ne fun _ => nofun
    range := fun row s hs => List.forall_mem_cons.2 ⟨Nat.le_refl _, hs⟩
    rows := fun e he => keeps [] e he.ne_observe he.harmless
    escaped := fun signal s hloop _ fault he => by cases he; exact .inl ⟨signal, hloop, rfl⟩ }
  exact hrule.executeProgram.imp (fun _ _ at_ hat => absurd hat List.not_mem_nil) (fun _ _ _ => trivial) fun _ _ => id

/-! ## Steps in bounds -/

def InBounds (length : Nat) (nest : Nest) (trace : List Entry) : Prop :=
  (∀ at_ ∈ nest, at_.1.last ≤ length) ∧ ∀ e ∈ trace, ∀ i, e.moment = .visited i → i < length

namespace InBounds

variable {length : Nat} {nest : Nest} {e : Entry} {past : List Entry}

theorem cons (h : InBounds length nest past) (he : ∀ i, e.moment = .visited i → i < length) :
    InBounds length nest (e :: past) :=
  ⟨h.1, List.forall_mem_cons.2 ⟨he, h.2⟩⟩

theorem aside (h : InBounds length nest past) (he : ¬e.moment.Steers) : InBounds length nest (e :: past) :=
  h.cons fun i hi => absurd (by rw [hi]; trivial) he

theorem other {m : Moment} (h : InBounds length nest past) (he : e.moment = m) (hm : ∀ i, m ≠ .visited i) :
    InBounds length nest (e :: past) :=
  h.cons fun i hi => absurd (he.symm.trans hi) (hm i)

end InBounds

theorem visited_lt (env : Env σ) (w : Workflow) (input : RunInput) (world : World σ) :
    ∀ e ∈ history env w input world, ∀ i, e.moment = .visited i → i < w.steps.length := by
  let p := w.program w.analyze.1 input env.options
  have hwithin := w.within_analyze
  have hrule : ProgramRule env p (fun _ nest s => InBounds w.steps.length nest s.trace)
      fun _ s => ∃ nest, InBounds w.steps.length nest s.trace := by
    refine .ofTrace (T := fun _ => InBounds w.steps.length) (E := fun trace => ∃ nest, InBounds w.steps.length nest trace)
      hwithin ?_ ?_ ?_ ?_ ?_ ?_ ?_
    · exact fun goal nest e past he h => h.aside he
    · intro goal f at_ outer i e past he hi _ h
      have hlast := List.forall_mem_cons.1 h.1
      refine InBounds.cons ⟨List.forall_mem_cons.2 hlast, h.2⟩ fun j hj => ?_
      cases he.symm.trans hj
      exact Nat.lt_of_lt_of_le hi.2 hlast.1
    · exact fun f outer i step mode err e past he _ h => h.other he fun _ => nofun
    · intro f outer i stop row e past he _ hstop h
      have hlast : stop < w.steps.length := (hwithin.loopToEnd _ (Jumps.mem_of_target? hstop)).2
      obtain ⟨hframes, htrace⟩ := h.other he fun _ => nofun
      exact ⟨List.forall_mem_cons.2 ⟨Nat.le_of_lt hlast, hframes⟩, htrace⟩
    · intro f at_ outer signal e past he _ h
      obtain ⟨hframes, htrace⟩ := h.other he fun _ => nofun
      exact ⟨(List.forall_mem_cons.1 hframes).2, htrace⟩
    · intro row e past he h
      obtain ⟨hframes, htrace⟩ := h.other he fun _ => nofun
      exact ⟨List.forall_mem_cons.2 ⟨Nat.le_refl _, hframes⟩, htrace⟩
    · exact fun goal nest past h => ⟨nest, h⟩
  have hhistory : ∃ nest, InBounds w.steps.length nest (history env w input world) := by
    refine history_of_program (T := InBounds w.steps.length []) (U := fun trace => ∃ nest, InBounds w.steps.length nest trace)
      ⟨fun _ hf => absurd hf List.not_mem_nil, fun _ he => absurd he List.not_mem_nil⟩ ?_ ?_ ?_ ?_ world
    · exact fun e past he h => h.aside he.not_steers
    · exact fun e past he ⟨nest, h⟩ => ⟨nest, h.aside he.not_steers⟩
    · exact fun past h => ⟨[], h⟩
    · exact fun _ => hrule.executeProgram.weaken fun _ s h => ⟨[], h⟩
  obtain ⟨nest, -, hall⟩ := hhistory
  exact hall

/-! ## Refused workflows -/

def Entry.event? (e : Entry) : Option ProgressEvent :=
  match e.moment with
  | .progress event => some event
  | _               => none

theorem OnlyActs.events {acts : List Entry} (h : OnlyActs acts) : acts.filterMap Entry.event? = [] := by
  refine List.filterMap_eq_nil_iff.2 fun e he => ?_
  obtain ⟨act, hact⟩ := h e he
  rw [Entry.event?, hact]

/-- The run of a workflow with issues: it tells that it starts and that it failed, and does nothing else. -/
theorem run_of_issues (env : Env σ) (w : Workflow) (input : RunInput) (world : World σ) (h : w.analyze.2 ≠ []) :
    ∃ f, run env w input world = some f ∧ f.workflow = w ∧
      f.report = ⟨.failed (RunError.structural (.invalid w.analyze.2)).message, none, [], 0⟩ ∧
      f.trace.filterMap Entry.event? = [.runStarted w.name env.options,
        .runEnded (.failed (RunError.structural (.invalid w.analyze.2)).message) none 0 0] ∧
      ∀ e ∈ f.trace, (∃ event, e.moment = .progress event) ∨ ∃ act, e.moment = .acted act := by
  let error : RunError := .structural (.invalid w.analyze.2)
  let outcome : RunOutcome := .failed error.message
  let s₁ := started env w world
  let s₂ := s₁.told env (.runEnded outcome none 0 0)
  obtain ⟨hlearned, hcontext⟩ : s₁.learned = [] ∧ s₁.context = {} := Session.told_learned _ _
  have hreport : s₁.report (.error error) = ⟨outcome, none, [], 0⟩ := by
    rw [Session.report, hlearned, hcontext]
    rfl
  have hrun : run env w input world = some ⟨⟨outcome, none, [], 0⟩, w, s₂.world, s₂.trace.reverse⟩ := by
    have hexecution : execution env w input s₁ = .error (.error error) s₁ := by
      rw [execution, if_neg h]
      rfl
    rw [run, conduct_eq, hexecution]
    dsimp only
    rw [Session.ended, hreport, hlearned]
    rfl
  obtain ⟨acts₁, e₁, htrace₁, honly₁, he₁⟩ := (world.session w.handlers).told_trace env (.runStarted w.name env.options)
  obtain ⟨acts₂, e₂, htrace₂, honly₂, he₂⟩ := s₁.told_trace env (.runEnded outcome none 0 0)
  have htrace : s₂.trace = acts₂ ++ e₂ :: (acts₁ ++ [e₁]) := by
    have hs₁ : s₁.trace = acts₁ ++ [e₁] := htrace₁
    rw [htrace₂, hs₁]
  refine ⟨_, hrun, rfl, rfl, ?_, fun e he => ?_⟩
  · have hevent₁ : e₁.event? = some (.runStarted w.name env.options) := by rw [Entry.event?, he₁]
    have hevent₂ : e₂.event? = some (.runEnded outcome none 0 0) := by rw [Entry.event?, he₂]
    show s₂.trace.reverse.filterMap Entry.event? = _
    rw [List.filterMap_reverse, htrace, List.filterMap_append, honly₂.events, List.filterMap_cons_some hevent₂,
      List.filterMap_append, honly₁.events, List.filterMap_cons_some hevent₁]
    rfl
  · have he : e ∈ s₂.trace := List.mem_reverse.1 he
    rw [htrace] at he
    rcases List.mem_append.1 he with he | he
    · exact .inr (honly₂ e he)
    rcases List.mem_cons.1 he with rfl | he
    · exact .inl ⟨_, he₂⟩
    rcases List.mem_append.1 he with he | he
    · exact .inr (honly₁ e he)
    · obtain rfl := List.mem_singleton.1 he
      exact .inl ⟨_, he₁⟩

/-- **The analysis is sound.**  A run of a workflow with issues asks nothing, tells that it started and failed, and
leaves the workflow as it is.  In a workflow without issues no run comes to a step that is not there, and no
execution comes to a structural error but a loop signal outside a loop, or one that the host reported. -/
theorem analysis_sound (env : Env σ) (w : Workflow) (input : RunInput) :
    (w.analyze.2 ≠ [] → ∀ world : World σ, ∃ f, run env w input world = some f ∧ f.workflow = w ∧
      f.report = ⟨.failed (RunError.structural (.invalid w.analyze.2)).message, none, [], 0⟩ ∧
      f.trace.filterMap Entry.event? = [.runStarted w.name env.options,
        .runEnded (.failed (RunError.structural (.invalid w.analyze.2)).message) none 0 0] ∧
      ∀ e ∈ f.trace, (∃ event, e.moment = .progress event) ∨ ∃ act, e.moment = .acted act) ∧
    (w.analyze.2 = [] →
      (∀ (world : World σ), ∀ e ∈ history env w input world, ∀ i, e.moment = .visited i → i < w.steps.length) ∧
      ∀ (s s' : Session σ) (fault : StructuralFault),
        executeProgram env (w.program w.analyze.1 input env.options) s = .error (.error (.structural fault)) s' →
        (∃ signal, signal.isLoopControl = true ∧ fault = .loopControlOutside signal) ∨ Reported fault s'.trace) := by
  refine ⟨fun h world => run_of_issues env w input world h, fun h => ⟨visited_lt env w input, fun s s' fault hx => ?_⟩⟩
  exact (excused_program w.within_analyze (w.covers_analyze h)).error trivial hx fault rfl

end FormReplay
