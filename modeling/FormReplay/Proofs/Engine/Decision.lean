import FormReplay.Proofs.Engine.Run
/-!
# What decisions ensure

The wait for a decision is taken apart to the last: the request that is told and put, the polls, and the decision
that one of them takes (`AwaitRule`).  An invariant that all but passes over interruptions keeps is kept by every
program if each pass keeps it, and each confirmation of a step (`PassRule.executeProgram`).  So is one that all but
decisions keeps, if each decision on an event, its request and all that it does, keeps it, and each confirmation
(`DecisionRule.executeProgram`).
-/
namespace FormReplay

variable {σ : Type} {env : Env σ} {E : Halt → Session σ → Prop}

/-! ## Waiting for a decision -/

def Session.request (event : Option Event) (options : List String) (s : Session σ) : DecisionRequest :=
  ⟨.issued (s.world.requests + 1), s.context.stepIndex, event, options⟩

def Session.withInbox (inbox : List Decision) (s : Session σ) : Session σ := { s with world.inbox := inbox }

/-- The rule of a wait that begins where `P` holds.  `A` holds once the request was told, `B` before each poll, and `Q`
once a decision was taken and the run is held no longer. -/
structure AwaitRule (env : Env σ) (event : Option Event) (options : List String) (P : Session σ → Prop)
    (A B : DecisionRequest → Session σ → Prop) (Q : DecisionRequest → Decision → Session σ → Prop)
    (E : Halt → Session σ → Prop) : Prop where
  begins : ∀ s, P s →
    A (s.request event options)
      ((s.held (s.request event options).id).told env (.decisionRequested (s.request event options)))
  put : ∀ r s, A r s → (env.host.answer (.request r) s.world.host).answer = .ok () → B r (s.answered env (.request r))
  refused : ∀ r s e, A r s → (env.host.answer (.request r) s.world.host).answer = .error e →
    E (.error e) (s.answered env (.request r)).released
  stopped : ∀ r s, B r s → s.world.control.stopped = true → E (.error .stopped) s.released
  taken : ∀ r s d rest, B r s → s.world.control.stopped = false → takeDecision r.id s.world.inbox = (some d, rest) →
    Q r d (s.withInbox rest).released
  missed : ∀ r s rest, B r s → s.world.control.stopped = false → takeDecision r.id s.world.inbox = (none, rest) →
    B r ((s.withInbox rest).rested env .decisionPoll env.config.decisionPoll)
  outOfFuel : ∀ r s, B r s → E .outOfFuel s

namespace AwaitRule

variable {event : Option Event} {options : List String} {P : Session σ → Prop} {A B : DecisionRequest → Session σ → Prop}
  {Q : DecisionRequest → Decision → Session σ → Prop}

/-- What is left where the polls end early: the run is held no longer once the error is passed on. -/
def AfterPolls (E : Halt → Session σ → Prop) : Halt → Session σ → Prop
  | .error e, s   => E (.error e) s.released
  | .outOfFuel, s => E .outOfFuel s

theorem pollDecision (h : AwaitRule env event options P A B Q E) (r : DecisionRequest) (fuel : Nat) :
    Ensures (B r) (pollDecision env r.id fuel) (fun d s => Q r d s.released) (AfterPolls E) := by
  induction fuel with
  | zero => exact .outOfFuel (h.outOfFuel r)
  | succ fuel ih =>
    refine .bind (R := fun _ s => B r s ∧ s.world.control.stopped = false)
      (.checkStop (fun s hs hgo => ⟨hs, hgo⟩) (h.stopped r)) fun _ => .read fun s₀ ⟨hs₀, hgo⟩ => ?_
    dsimp only
    refine .bind (R := fun _ s => s = s₀.withInbox (takeDecision r.id s₀.world.inbox).2) (.modify fun s hs => ?_) fun _ => ?_
    · rw [hs]
      rfl
    cases hfound : takeDecision r.id s₀.world.inbox with
    | mk found rest =>
      cases found with
      | some d => exact .pure fun s hs => hs ▸ h.taken r s₀ d rest hs₀ hgo hfound
      | none =>
        refine .bind (R := fun _ => B r) (.pass fun s hs => ?_) fun _ => ih
        exact hs ▸ h.missed r s₀ rest hs₀ hgo hfound

/-- **The rule of a wait**: it returns a decision that a poll took for its request. -/
theorem awaitDecision (h : AwaitRule env event options P A B Q E) :
    Ensures P (awaitDecision env event options) (fun d s => ∃ r, r.event = event ∧ Q r d s) E := by
  have hissue : Ensures P issueId (fun id s => ∃ s₀, P s₀ ∧ s = { s₀ with world.requests := s₀.world.requests + 1 } ∧
      id = (s₀.request event options).id) E :=
    fun s hs => ⟨s, hs, rfl, rfl⟩
  refine .bind hissue fun id => .read fun s₁ ⟨s₀, hs₀, hs₁, hid⟩ => ?_
  subst hid hs₁
  let r := s₀.request event options
  refine .bind (R := fun _ s => s.onControl .hold = s₀.held r.id) (fun s hs => by subst hs; rfl) fun _ => ?_
  refine .bind (R := fun _ s => s = s₀.held r.id) (fun s hs => hs) fun _ => ?_
  refine .bind (R := fun _ => A r) (.report fun s hs => hs ▸ h.begins s₀ hs₀) fun _ => ?_
  let R : Except RunError Decision → Session σ → Prop := fun
    | .ok d    => fun s => ∃ r, r.event = event ∧ Q r d s
    | .error e => E (.error e)
  refine .bind (R := fun result s => R result s.released) (.observing ?_) fun result => ?_
  · have hput : Ensures (A r) (ask env (.request r)) (fun _ => B r) (AfterPolls E) :=
      .ask (fun s _ hs => h.put r s hs) fun s e hs => h.refused r s e hs
    refine .bind (hput.imp (fun _ => id) (fun _ _ => id) fun e s hs => ?_) fun _ =>
      (h.pollDecision r env.fuel).imp (fun _ => id) (fun d s hs => ⟨r, rfl, hs⟩) fun e s hs => ?_
    · cases e <;> exact hs
    · cases e <;> exact hs
  refine .bind (R := fun _ s => R result (s.onControl .release)) (fun s hs => hs) fun _ => ?_
  refine .bind (R := fun _ => R result) (fun s hs => hs) fun _ => ?_
  cases result with
  | ok d    => exact .pure fun s hs => hs
  | error e => exact .fail fun s hs => hs

end AwaitRule

/-! ## Applying a decision -/

/-- The event is no benign notice, and no handler resolves it by itself. -/
def Event.Unresolved (handlers : List Handler) (event : Event) : Prop :=
  event.isBenignNotice = false ∧ ∀ h ∈ findHandler handlers event, h.mode ≠ .auto

instance (handlers : List Handler) : DecidablePred (Event.Unresolved handlers) := fun event =>
  inferInstanceAs (Decidable (event.isBenignNotice = false ∧ ∀ h ∈ findHandler handlers event, h.mode ≠ .auto))

theorem ensures_finishOutcome {D : Session σ → Prop} {outcome : Outcome} (hrest : ∀ e, Rests .settle e → e.Keeps env D E)
    (hfuel : ∀ s, D s → E .outOfFuel s) (hhalt : ∀ s, D s → E (.error .stopped) (s.onControl .stop)) :
    Ensures D (finishOutcome env outcome) (fun _ => D) E := by
  unfold finishOutcome
  split
  · exact ensures_halting hhalt
  · exact .pure fun _ => id
  · have hsleep : Does env (Rests .settle) (sleep env .settle env.config.settleDelay) := does_sleep _ fun _ => id
    exact .bind (hsleep.ensures hrest hfuel) fun _ => .pure fun _ => id

def concludeDecision (env : Env σ) (event : Event) (d : Decision) (actions : List HandlerAction) :
    Engine σ (Option Signal) := do
  if event.kind = .notice then acknowledge event.patternKey
  report env (.decisionApplied d.id (← get).context.stepIndex (some d.action) d.outcome)
  if d.saveRule then learn env event d actions
  finishOutcome env d.outcome

theorem applyDecision_eq (env : Env σ) (event : Event) (d : Decision) :
    applyDecision env event d = carryOut env event d >>= fun actions => concludeDecision env event d actions := rfl

theorem ensures_concludeDecision {event : Event} {d : Decision} {actions : List HandlerAction} {C D A : Session σ → Prop}
    (hacknowledge : ∀ s, C s → C (s.onContext (.acknowledge event.patternKey)))
    (happlied : ∀ s, C s → D (s.told env (.decisionApplied d.id s.context.stepIndex (some d.action) d.outcome)))
    (hlearn : d.saveRule = true → Ensures D (learn env event d actions) (fun _ => A) E)
    (hskip : d.saveRule = false → ∀ s, D s → A s) (hfinish : Ensures A (finishOutcome env d.outcome) (fun _ => A) E) :
    Ensures C (concludeDecision env event d actions) (fun _ => A) E := by
  have hrest : Ensures C (do
      report env (.decisionApplied d.id (← get).context.stepIndex (some d.action) d.outcome)
      if d.saveRule then learn env event d actions
      finishOutcome env d.outcome) (fun _ => A) E := by
    refine .read fun s₀ hs₀ => .bind (R := fun _ => D) (.report fun s hs => ?_) fun _ => ?_
    · exact hs ▸ happlied s₀ hs₀
    · cases hsave : d.saveRule with
      | true  => exact .bind (hlearn hsave) fun _ => hfinish
      | false => exact hfinish.strengthen (hskip hsave)
  unfold concludeDecision
  dsimp only
  split
  · exact .bind (R := fun _ => C) (.modifyContext hacknowledge) fun _ => hrest
  · exact hrest

theorem ensures_learn_told {event : Event} {d : Decision} {D A : Session σ → Prop} (hskip : ∀ s, D s → A s)
    (htold : ∀ id s, D s → A (s.told env (.handlerLearned id event.template d.outcome)))
    (hlearned : ∀ serial h s, A s → A (s.withLearned serial h)) (actions : List HandlerAction) :
    Ensures D (learn env event d actions) (fun _ => A) E := by
  refine .read fun s₀ hs₀ => ?_
  dsimp only
  split
  · exact .pure fun s hs => hs ▸ hskip s₀ hs₀
  · refine .bind (R := fun _ => A) (.report fun s hs => ?_) fun _ => .modify fun s hs => hlearned _ _ s hs
    subst hs
    exact htold _ s hs₀

/-- The rule of applying a decision on an event: `C` holds while it is carried out, `D` once that was told, and `A` once
its rule was saved, if it is to be. -/
structure ApplyRule (env : Env σ) (event : Event) (d : Decision) (C D A : Session σ → Prop) (E : Halt → Session σ → Prop) :
    Prop where
  carry : ∀ e, Carries event d e → e.Keeps env C E
  applied : ∀ s, C s → D (s.told env (.decisionApplied d.id s.context.stepIndex (some d.action) d.outcome))
  learn : d.saveRule = true → ∀ actions, Ensures D (learn env event d actions) (fun _ => A) E
  skip : d.saveRule = false → ∀ s, D s → A s
  finish : Ensures A (finishOutcome env d.outcome) (fun _ => A) E
  outOfFuel : ∀ s, C s → E .outOfFuel s

theorem ApplyRule.applyDecision {event : Event} {d : Decision} {C D A : Session σ → Prop}
    (h : ApplyRule env event d C D A E) : Ensures C (applyDecision env event d) (fun _ => A) E := by
  have hcarryOut : Ensures C (carryOut env event d) (fun _ => C) E :=
    (does_carryOut (F := Carries event d) fun _ => id).ensures h.carry h.outOfFuel
  rw [applyDecision_eq]
  exact .bind hcarryOut fun actions => ensures_concludeDecision (h.carry _ .acknowledge fun _ _ => rfl) h.applied
    (fun hsave => h.learn hsave actions) h.skip h.finish

theorem ensures_applyConfirmation {d : Decision} {C D : Session σ → Prop}
    (happlied : ∀ s, C s → D (s.told env (.decisionApplied d.id s.context.stepIndex none d.outcome)))
    (hfinish : Ensures D (finishOutcome env d.outcome) (fun _ => D) E) :
    Ensures C (applyConfirmation env d) (fun _ => D) E := by
  refine .read fun s₀ hs₀ => .bind (R := fun _ => D) (.report fun s hs => ?_) fun _ => ?_
  · exact hs ▸ happlied s₀ hs₀
  · exact .bind hfinish fun _ => .pure fun _ => id

/-! ## All but decisions -/

/-- The moment neither belongs to a decision nor is an act of the host. -/
def Moment.IsOrdinary : Moment → Prop
  | .progress (.decisionRequested _) | .progress (.decisionApplied ..) | .progress (.handlerLearned ..) => False
  | .asked (.request _) _ | .slept .decisionPoll _ | .acted _ => False
  | _ => True

structure Session.SameDesk (s s' : Session σ) : Prop where
  trace : s'.trace = s.trace
  world : s'.world = s.world
  handlers : s'.handlers = s.handlers
  learned : s'.learned = s.learned
  pending : s'.context.pending = s.context.pending

theorem Session.SameDesk.onContext {f : Context → Context} {s : Session σ} (h : (f s.context).pending = s.context.pending) :
    s.SameDesk (s.onContext f) := ⟨rfl, rfl, rfl, rfl, h⟩

def Operation.Ordinary (e : Operation σ) : Prop :=
  e.Adds Moment.IsOrdinary ∧ ∀ f, e = .edit f → ∀ s : Session σ, s.SameDesk (f s)

theorem Operation.Ordinary.ofAdds {e : Operation σ} (h : e.Adds Moment.IsOrdinary) (hedit : ∀ f, e ≠ .edit f) :
    e.Ordinary := ⟨h, fun f hf => absurd hf (hedit f)⟩

theorem Operation.Ordinary.onContext {f : Context → Context} (h : ∀ c, (f c).pending = c.pending) :
    (Operation.edit (.onContext f) : Operation σ).Ordinary :=
  ⟨trivial, fun _ hg s => by cases hg; exact Session.SameDesk.onContext (h s.context)⟩

/-- The moment neither belongs to a pass over interruptions nor to a decision, nor is it an act of the host. -/
def Moment.IsRoutine : Moment → Prop
  | .progress (.interruptionDetected ..) | .progress (.interruptionHandled ..) => False
  | .asked .detect _ | .asked (.press ..) _ | .asked (.dismiss _) _ => False
  | m => m.IsOrdinary

theorem Moment.IsRoutine.isOrdinary {m : Moment} (h : m.IsRoutine) : m.IsOrdinary := by
  unfold Moment.IsRoutine at h
  split at h <;> first | exact h.elim | exact h

theorem Moment.Enquires.isRoutine {m : Moment} (h : m.Enquires) : m.IsRoutine := by
  unfold Moment.Enquires at h
  split at h <;> first | exact h.elim | trivial

def Operation.Routine (e : Operation σ) : Prop :=
  e.Adds Moment.IsRoutine ∧
    ∀ f, e = .edit f → ∀ s : Session σ, s.SameDesk (f s) ∧ (f s).context.acknowledged = s.context.acknowledged

namespace Operation.Routine

theorem ordinary {e : Operation σ} (h : e.Routine) : e.Ordinary :=
  ⟨h.1.mono fun _ => Moment.IsRoutine.isOrdinary, fun f hf s => (h.2 f hf s).1⟩

theorem ofAdds {e : Operation σ} (h : e.Adds Moment.IsRoutine) (hedit : ∀ f, e ≠ .edit f) : e.Routine :=
  ⟨h, fun f hf => absurd hf (hedit f)⟩

theorem onContext {f : Context → Context} (h : ∀ c, (f c).pending = c.pending ∧ (f c).acknowledged = c.acknowledged) :
    (Operation.edit (.onContext f) : Operation σ).Routine :=
  ⟨trivial, fun _ hg s => by cases hg; exact ⟨.onContext (h s.context).1, (h s.context).2⟩⟩

end Operation.Routine

theorem Rests.routine {reason : SleepReason} {e : Operation σ} (h : Rests reason e) (hreason : reason ≠ .decisionPoll) :
    e.Routine := by
  cases h with
  | stopped  => exact .ofAdds trivial nofun
  | sleep ms =>
    refine .ofAdds ?_ nofun
    cases reason <;> first | exact trivial | exact absurd rfl hreason

theorem Judges.routine {row : DataRow} {c : Condition} {e : Operation σ} (h : Judges row c e) : e.Routine :=
  .ofAdds (h.adds.mono fun _ => Moment.Enquires.isRoutine) fun f hf => by subst hf; cases h

theorem Values.routine {row : DataRow} {source : ValueSource} {e : Operation σ} (h : Values row source e) : e.Routine :=
  .ofAdds (h.adds.mono fun _ => Moment.Enquires.isRoutine) fun f hf => by subst hf; cases h

theorem Acts.routine {step : Step} {e : Operation σ} (h : Acts step e) : e.Routine := by
  cases h with
  | execute _ => exact .ofAdds (fun _ => trivial) nofun
  | look h =>
    cases h with
    | rest h                  => exact h.routine nofun
    | judges h                => exact h.routine
    | values h                => exact h.routine
    | inspect _               => exact .ofAdds (fun _ => trivial) nofun
    | waitPoll _ | timedOut _ => exact .ofAdds trivial nofun

theorem Steps.routine {index : Nat} {e : Operation σ} (h : Steps index e) : e.Routine := by
  cases h with
  | pause h | delay h => exact h.routine nofun
  | current           => exact .onContext fun _ => ⟨rfl, rfl⟩
  | _                 => exact .ofAdds trivial nofun

theorem Loops.routine {start : Nat} {e : Operation σ} (h : Loops start e) : e.Routine := by
  cases h with
  | rest h                      => exact h.routine nofun
  | current | row _ | began _ _ => exact .onContext fun _ => ⟨rfl, rfl⟩
  | judges h                    => exact h.routine
  | _                           => exact .ofAdds trivial nofun

theorem Rests.ordinary {reason : SleepReason} {e : Operation σ} (h : Rests reason e) (hreason : reason ≠ .decisionPoll) :
    e.Ordinary := (h.routine hreason).ordinary

theorem Context.pending_acknowledge (key : String) (c : Context) : (c.acknowledge key).pending = c.pending := by
  unfold Context.acknowledge
  split <;> rfl

theorem Context.acknowledged_prefix (key : String) (c : Context) : c.acknowledged <+: (c.acknowledge key).acknowledged := by
  unfold Context.acknowledge
  split
  · exact List.prefix_rfl
  · exact List.prefix_append _ _

theorem Context.mem_acknowledge (key : String) (c : Context) : key ∈ (c.acknowledge key).acknowledged := by
  unfold Context.acknowledge
  split
  · rename_i h
    exact List.contains_iff_mem.1 h
  · exact List.mem_append_right _ (.head _)

theorem Context.mem_of_mem_acknowledge {key other : String} {c : Context}
    (h : other ∈ (c.acknowledge key).acknowledged) : other ∈ c.acknowledged ∨ other = key := by
  unfold Context.acknowledge at h
  split at h
  · exact .inl h
  · exact (List.mem_append.1 h).imp_right List.mem_singleton.1

theorem Context.pending_stall (key : String) (c : Context) : (c.stall key).pending = c.pending := by
  unfold Context.stall
  split <;> rfl

theorem Context.acknowledged_stall (key : String) (c : Context) : (c.stall key).acknowledged = c.acknowledged := by
  unfold Context.stall
  split <;> rfl

theorem Carries.ordinary {event : Event} {d : Decision} {e : Operation σ} (h : Carries event d e) : e.Ordinary := by
  cases h with
  | settle _ _ h => exact h.ordinary nofun
  | acknowledge  => exact .onContext (Context.pending_acknowledge event.patternKey)
  | select _ _ _ | detect _ _ | followUp _ _ _ _ | dismiss _ => exact .ofAdds (fun _ => trivial) nofun

theorem Carries.ne_observe {event : Event} {d : Decision} {e : Operation σ} (h : Carries event d e) : e ≠ .observe := by
  cases h with
  | settle _ _ h => exact h.ne_observe
  | _            => nofun

/-- What a pass is made of: halting, decisions, and what has nothing to do with them. -/
theorem Handles.cases {e : Operation σ} (h : Handles env e) :
    (∃ α : Type, e = .whole (FormReplay.halt : Engine σ α)) ∨ (∃ event, e = .whole (decideOn env event)) ∨ e.Ordinary := by
  cases h with
  | @halt β                              => exact .inl ⟨β, rfl⟩
  | decide event                         => exact .inr (.inl ⟨event, rfl⟩)
  | rest hreason h                       => exact .inr (.inr (h.ordinary hreason))
  | acknowledge key                      => exact .inr (.inr (.onContext (Context.pending_acknowledge key)))
  | stall key                            => exact .inr (.inr (.onContext (Context.pending_stall key)))
  | detect | press _ _ | dismiss _       => exact .inr (.inr (.ofAdds (fun _ => trivial) nofun))
  | detected _ _ | handled _ _ _         => exact .inr (.inr (.ofAdds trivial nofun))

/-! ## Programs -/

structure PassRule (env : Env σ) (J : Session σ → Prop) (E : Halt → Session σ → Prop) : Prop where
  keeps : ∀ e : Operation σ, e.Routine → e.Keeps env J fun _ => J
  ends : ∀ e s, J s → E e s
  pass : Ensures J (resolvePass env) (fun _ => J) (Recovers J E)
  confirm : Ensures J (confirmStep env) (fun _ => J) (Recovers J E)

namespace PassRule

variable {J : Session σ → Prop}

theorem ensures {α : Type} (h : PassRule env J E) {F : Operation σ → Prop} {x : Engine σ α} (hx : Does env F x)
    (hF : ∀ e, F e → e.Routine) : Ensures J x (fun _ => J) fun _ => J :=
  hx.ensures (fun e he => h.keeps e (hF e he)) fun _ => id

theorem recovers (h : PassRule env J E) (e : Halt) (s : Session σ) (hs : J s) : Recovers J E e s :=
  ⟨h.ends e s hs, fun _ _ _ => hs⟩

theorem attempt (h : PassRule env J E) (index : Nat) (step : Step) (row : DataRow) :
    Ensures J (attempt env index step row) (fun _ => J) (Recovers J E) := by
  have hact : ∀ step spec row, Ensures J (act env step spec row) (fun _ => J) (Recovers J E) := fun step spec row =>
    (h.ensures (does_act step spec row fun _ he => he) fun _ => Acts.routine).imp (fun _ => id) (fun _ _ => id) h.recovers
  exact ensures_attempt h.pass hact h.confirm (fun _ => h.recovers _) index step row

/-- **The rule of a program** for what passes over interruptions change. -/
theorem executeProgram (h : PassRule env J E) {p : Program} (tables : p.tables.Within p.workflow.steps.length) :
    Ensures J (executeProgram env p) (fun _ => J) E := by
  have hrest : Ensures J (checkpoint env) (fun _ => J) E :=
    (h.ensures (does_checkpoint fun _ he => he) fun _ he => he.routine nofun).imp (fun _ => id) (fun _ _ => id) h.ends
  have hnote : ∀ m : Moment, m.IsRoutine → ∀ s : Session σ, J s → J (s.record m) := fun m hm =>
    h.keeps (.note m) (.ofAdds hm nofun)
  have hcurrent : ∀ i (s : Session σ), J s → J (s.onContext fun c => { c with stepIndex := i }) := fun i =>
    h.keeps (.edit (.onContext fun c => { c with stepIndex := i })) (.onContext fun _ => ⟨rfl, rfl⟩) fun _ _ => rfl
  have hrule : SteadyRule env p J J E := {
    tables
    arrive := fun i => .bind hrest fun _ => ensures_visit fun s hs => hnote (.visited i) trivial _ (hcurrent i s hs)
    stay := fun _ => id
    step := by
      intro i step row _ _
      have hsteps : ∀ e : Operation σ, Steps i e → e.Keeps env J E := fun e he =>
        (h.keeps e he.routine).weaken h.ends he.ne_observe
      exact (StepRule.ofKeeps (A := fun _ => J) hsteps (h.ends _) rfl (fun _ s _ _ _ => h.ends _ s)
        (fun e => h.keeps (.report _) (.ofAdds trivial nofun))
        ((h.attempt i step row).strengthen fun s hs => hs.1)).executeStep
    entered := fun first last row => hnote (.entered first last row) trivial
    left := fun signal => hnote (.left signal) trivial
    around := fun i e he => (h.keeps e he.routine).weaken h.ends he.ne_observe
    fault := fun _ s => h.ends _ s
    outOfFuel := fun s => h.ends _ s }
  exact hrule.executeProgram

end PassRule

structure DecisionRule (env : Env σ) (J : Session σ → Prop) (E : Halt → Session σ → Prop) : Prop where
  keeps : ∀ e : Operation σ, e.Ordinary → e.Keeps env J fun _ => J
  ends : ∀ e s, J s → E e s
  halt : ∀ s, J s → E (.error .stopped) (s.onControl .stop)
  decide : ∀ event, Ensures J (decideOn env event) (fun _ => J) (Recovers J E)
  confirm : Ensures J (confirmStep env) (fun _ => J) (Recovers J E)

namespace DecisionRule

variable {J : Session σ → Prop}

theorem ensures_halt {α : Type} {Q : α → Session σ → Prop} (hhalt : ∀ s, J s → E (.error .stopped) (s.onControl .stop)) :
    Ensures J (FormReplay.halt : Engine σ α) Q (Recovers J E) :=
  ensures_halting fun s hs => ⟨hhalt s hs, fun err herr hretry => by cases herr; cases hretry⟩

theorem resolvePass (h : DecisionRule env J E) : Ensures J (resolvePass env) (fun _ => J) (Recovers J E) := by
  have hrecovers : ∀ e s, J s → Recovers J E e s := fun e s hs => ⟨h.ends e s hs, fun _ _ _ => hs⟩
  refine handles_resolvePass.ensures (fun e he => ?_) (hrecovers _)
  obtain ⟨β, rfl⟩ | ⟨event, rfl⟩ | hordinary := he.cases
  · exact ensures_halt (Q := fun _ : β => J) h.halt
  · exact h.decide event
  · refine (h.keeps e hordinary).weaken hrecovers fun hobserve => ?_
    subst hobserve
    cases he with
    | rest _ hrest => exact hrest.ne_observe rfl

theorem passRule (h : DecisionRule env J E) : PassRule env J E where
  keeps e he := h.keeps e he.ordinary
  ends := h.ends
  pass := h.resolvePass
  confirm := h.confirm

/-- **The rule of a program** for what decisions change. -/
theorem executeProgram (h : DecisionRule env J E) {p : Program} (tables : p.tables.Within p.workflow.steps.length) :
    Ensures J (executeProgram env p) (fun _ => J) E := h.passRule.executeProgram tables

end DecisionRule

end FormReplay
