import FormReplay.Proofs.Engine.Operation
/-!
# The operations of each part of the engine

Rests, looks at the surface, actions, decisions, passes over interruptions, attempts, steps and loops,
each with the operations it is made of.  Waiting for a decision and halting the run are taken as a whole
in a pass, for what they keep shows only at their end.
-/
namespace FormReplay

variable {σ α : Type} {env : Env σ} {F : Operation σ → Prop}

/-! ## Edits -/

def Session.onContext (f : Context → Context) (s : Session σ) : Session σ := { s with context := f s.context }

def Session.onControl (f : Control → Control) (s : Session σ) : Session σ :=
  { s with world.control := f s.world.control }

namespace Context

def acknowledge (key : String) (c : Context) : Context :=
  if c.acknowledged.contains key then c else { c with acknowledged := c.acknowledged ++ [key] }

def stall (key : String) (c : Context) : Context :=
  if c.stalled.contains key then c else { c with stalled := c.stalled ++ [key] }

end Context

def Session.withLearned (serial : Nat) (h : Handler) (s : Session σ) : Session σ :=
  { s with world.rules := serial, handlers := s.handlers ++ [h], learned := s.learned ++ [h] }

def Moment.Announces : Moment → Prop
  | .resolving .. | .judging .. => True
  | _                           => False

/-- Operations other than the catching of errors, and than notes of the way through the steps. -/
def Operation.Outward : Operation σ → Prop
  | .note m  => m.Announces
  | .observe => False
  | _        => True

def Operation.LeavesControl : Operation σ → Prop
  | .edit f             => ∀ s, (f s).world.control = s.world.control
  | .observe | .whole _ => False
  | _                   => True

def Operation.LeavesRow : Operation σ → Prop
  | .edit f => ∀ s, (f s).context.rowIndex = s.context.rowIndex ∧ (f s).context.rowsProcessed = s.context.rowsProcessed
  | _       => True

structure Context.SamePlace (c c' : Context) : Prop where
  stepIndex : c'.stepIndex = c.stepIndex
  row : c'.row = c.row
  rowIndex : c'.rowIndex = c.rowIndex
  rowsProcessed : c'.rowsProcessed = c.rowsProcessed

def Operation.LeavesPlace : Operation σ → Prop
  | .edit f => ∀ s : Session σ, s.context.SamePlace (f s).context
  | _       => True

theorem Operation.LeavesPlace.leavesRow {e : Operation σ} (h : e.LeavesPlace) : e.LeavesRow := by
  cases e with
  | edit f => exact fun s => ⟨(h s).rowIndex, (h s).rowsProcessed⟩
  | _      => trivial

namespace Does

theorem onContext (f : Context → Context) (h : F (.edit (.onContext f))) : Does env F (modifyContext f) :=
  .edit (f := .onContext f) (fun _ _ => rfl) h

theorem onControl (f : Control → Control) (h : F (.edit (.onControl f))) : Does env F (modifyControl f) :=
  .edit (f := .onControl f) (fun _ _ => rfl) h

theorem forM {l : List α} {f : α → Engine σ Unit} (hf : ∀ a, Does env F (f a)) : Does env F (l.forM f) := by
  induction l with
  | nil => exact .pure ()
  | cons a l ih => exact .bind (hf a) fun _ => ih

theorem ofOption {o : Option α} {f : α → Engine σ Unit} (hf : ∀ a, Does env F (f a)) : Does env F (o.forM f) := by
  cases o with
  | none   => exact .pure ()
  | some a => exact hf a

end Does

/-! ## Rests -/

inductive Rests (reason : SleepReason) : Operation σ → Prop
  | sleep (ms : Nat) : Rests reason (.sleep reason ms)
  | stopped : Rests reason (.fail .stopped)

theorem Rests.outward {reason : SleepReason} {e : Operation σ} (h : Rests reason e) : e.Outward := by
  cases h <;> trivial

theorem Rests.leavesControl {reason : SleepReason} {e : Operation σ} (h : Rests reason e) : e.LeavesControl := by
  cases h <;> trivial

theorem Rests.leavesPlace {reason : SleepReason} {e : Operation σ} (h : Rests reason e) : e.LeavesPlace := by
  cases h <;> trivial

theorem Rests.ne_observe {reason : SleepReason} {e : Operation σ} (h : Rests reason e) : e ≠ .observe := by
  cases h <;> nofun

theorem does_checkStop (h : F (.fail .stopped)) : Does env F checkStop := by
  refine .read (fun _ _ => rfl) fun s => ?_
  split
  · exact .fail h
  · exact .pure ()

theorem does_checkpoint (h : ∀ e, Rests .pausePoll e → F e) : Does env F (checkpoint env) := by
  unfold checkpoint
  induction env.fuel with
  | zero => exact .outOfFuel
  | succ fuel ih =>
    refine .bind (does_checkStop (h _ .stopped)) fun _ => .read (fun _ _ => rfl) fun s => ?_
    split
    · exact .bind (.sleep (h _ (.sleep _))) fun _ => ih
    · exact .pure ()

theorem does_sleep {reason : SleepReason} (ms : Nat) (h : ∀ e, Rests reason e → F e) :
    Does env F (sleep env reason ms) := by
  have hstop : Does env F checkStop := does_checkStop (h _ .stopped)
  unfold sleep sleepFor
  dsimp only
  induction ms / max env.config.pausePoll 1 with
  | zero =>
    refine .bind hstop fun _ => ?_
    split
    · exact .bind (.sleep (h _ (.sleep _))) fun _ => hstop
    · exact .pure ()
  | succ n ih => exact .bind hstop fun _ => .bind (.sleep (h _ (.sleep _))) fun _ => ih

/-! ## Conditions and values -/

/-- Judging a condition for a row: by rules of the host's own, or with a look at the element. -/
inductive Judges (row : DataRow) (c : Condition) : Operation σ → Prop
  | judging : Judges row c (.note (.judging c row))
  | judge : Judges row c (.ask (.judge c row))
  | inspect {target : String} {check : UiCheck} {value : Option String} : c = .ui target check value →
      Judges row c (.ask (.inspect target))

/-- Resolving the value of a source for a row: by rules of the host's own, or with a look at the clipboard. -/
inductive Values (row : DataRow) (source : ValueSource) : Operation σ → Prop
  | resolving : Values row source (.note (.resolving source row))
  | resolve : Values row source (.ask (.resolve source row))
  | clipboard : Values row source (.ask .clipboard)
  | fault (f : ValueFault) : Values row source (.fail (.value f))

theorem Judges.outward {row : DataRow} {c : Condition} {e : Operation σ} (h : Judges row c e) : e.Outward := by
  cases h <;> trivial

theorem Judges.leavesControl {row : DataRow} {c : Condition} {e : Operation σ} (h : Judges row c e) : e.LeavesControl := by
  cases h <;> trivial

theorem Judges.leavesPlace {row : DataRow} {c : Condition} {e : Operation σ} (h : Judges row c e) : e.LeavesPlace := by
  cases h <;> trivial

theorem Judges.ne_observe {row : DataRow} {c : Condition} {e : Operation σ} (h : Judges row c e) : e ≠ .observe := by
  cases h <;> nofun

theorem does_evaluate (row : DataRow) (c : Condition) (h : ∀ e, Judges row c e → F e) :
    Does env F (evaluate env row c) := by
  refine .bind (.note (h _ .judging)) fun _ => ?_
  split
  · exact .ask (h _ .judge)
  · cases c with
    | data field op value => exact .pure _
    | ui target check value => exact .bind (.ask (h _ (.inspect rfl))) fun _ => .pure _

theorem does_standardValue (row : DataRow) (source : ValueSource) (h : ∀ e, Values row source e → F e) :
    Does env F (standardValue env row source) := by
  cases source with
  | static value => exact .pure _
  | data field =>
    simp only [standardValue]
    split
    · exact .pure _
    · exact .fail (h _ (.fault _))
  | clipboard =>
    simp only [standardValue]
    split
    · refine .bind (.ask (h _ .clipboard)) fun found => ?_
      split
      · exact .pure _
      · exact .fail (h _ (.fault _))
    · exact .fail (h _ (.fault _))

theorem does_resolveValue (row : DataRow) (source : ValueSource) (h : ∀ e, Values row source e → F e) :
    Does env F (resolveValue env row source) := by
  refine .bind (.note (h _ .resolving)) fun _ => ?_
  split
  · exact .ask (h _ .resolve)
  · exact .bind (does_standardValue row source h) fun _ => .pure _

/-! ## Looks at the surface -/

inductive Looks : Operation σ → Prop
  | judges {row : DataRow} {c : Condition} {e : Operation σ} : Judges row c e → Looks e
  | values {row : DataRow} {source : ValueSource} {e : Operation σ} : Values row source e → Looks e
  | inspect (target : String) : Looks (.ask (.inspect target))
  | waitPoll (ms : Nat) : Looks (.sleep .waitPoll ms)
  | rest {e : Operation σ} : Rests .pausePoll e → Looks e
  | timedOut (f : StepFault) : Looks (.fail (.step f))

theorem Looks.outward {e : Operation σ} (h : Looks e) : e.Outward := by
  cases h with
  | rest h   => exact h.outward
  | judges h => exact h.outward
  | values h => cases h <;> trivial
  | _        => trivial

theorem Looks.leavesControl {e : Operation σ} (h : Looks e) : e.LeavesControl := by
  cases h with
  | rest h   => exact h.leavesControl
  | judges h => exact h.leavesControl
  | values h => cases h <;> trivial
  | _        => trivial

theorem Looks.leavesPlace {e : Operation σ} (h : Looks e) : e.LeavesPlace := by
  cases h with
  | rest h   => exact h.leavesPlace
  | judges h => exact h.leavesPlace
  | values h => cases h <;> trivial
  | _        => trivial

theorem does_waitFor (w : WaitSpec) (h : ∀ e, Looks e → F e) : Does env F (waitFor env w) := by
  refine .read (fun _ _ => rfl) fun s => ?_
  generalize (w.timeout.map UInt64.toNat).getD env.config.waitTimeout = timeout
  induction env.fuel with
  | zero => exact .outOfFuel
  | succ fuel ih =>
    refine .bind (does_checkpoint fun e he => h e (.rest he)) fun _ => .bind (.ask (h _ (.inspect _))) fun state => ?_
    split
    · exact .pure ()
    · refine .read (fun _ _ => rfl) fun s' => ?_
      split
      · exact .bind (.fail (h _ (.timedOut _))) fun _ => .bind (.sleep (h _ (.waitPoll _))) fun _ => ih
      · exact .bind (.sleep (h _ (.waitPoll _))) fun _ => ih

inductive Acts (step : Step) : Operation σ → Prop
  | look {e : Operation σ} : Looks e → Acts step e
  | execute (value : Option String) : Acts step (.ask (.execute step value))

theorem Acts.outward {step : Step} {e : Operation σ} (h : Acts step e) : e.Outward := by
  cases h with
  | look h    => exact h.outward
  | execute _ => trivial

theorem Acts.leavesControl {step : Step} {e : Operation σ} (h : Acts step e) : e.LeavesControl := by
  cases h with
  | look h    => exact h.leavesControl
  | execute _ => trivial

theorem Acts.leavesPlace {step : Step} {e : Operation σ} (h : Acts step e) : e.LeavesPlace := by
  cases h with
  | look h    => exact h.leavesPlace
  | execute _ => trivial

theorem does_valueFor (row : DataRow) (source : Option ValueSource) (h : ∀ e, Looks e → F e) :
    Does env F (valueFor env row source) := by
  cases source with
  | none        => exact .pure none
  | some source => exact does_resolveValue row source fun e he => h e (.values he)

theorem does_act (step : Step) (spec : ActionSpec) (row : DataRow) (h : ∀ e, Acts step e → F e) :
    Does env F (act env step spec row) := by
  have hwait : ∀ w, Does env F (waitFor env w) := fun w => does_waitFor w fun e he => h e (.look he)
  refine .bind (does_valueFor row spec.value fun e he => h e (.look he)) fun value => ?_
  exact .bind (.ofOption hwait) fun _ => .bind (.ask (h _ (.execute _))) fun _ => .ofOption hwait

/-! ## Decisions -/

inductive Waits : Operation σ → Prop
  | requested (r : DecisionRequest) : Waits (.report (.decisionRequested r))
  | request (r : DecisionRequest) : Waits (.ask (.request r))
  | inbox (rest : List Decision) : Waits (.edit fun s => { s with world.inbox := rest })
  | poll (ms : Nat) : Waits (.sleep .decisionPoll ms)
  | stopped : Waits (.fail .stopped)

theorem Waits.outward {e : Operation σ} (h : Waits e) : e.Outward := by
  cases h <;> trivial

theorem Waits.leavesControl {e : Operation σ} (h : Waits e) : e.LeavesControl := by
  cases h with
  | inbox rest => exact fun _ => rfl
  | _          => trivial

/-- Holding the run for a decision; an error is passed on once the hold is over. -/
inductive Decides : Operation σ → Prop
  | wait {e : Operation σ} : Waits e → Decides e
  | issue : Decides (.edit fun s => { s with world.requests := s.world.requests + 1 })
  | pending (id : Option RequestId) : Decides (.edit (.onContext fun c => { c with pending := id }))
  | hold : Decides (.edit (.onControl .hold))
  | release : Decides (.edit (.onControl .release))
  | observe : Decides .observe
  | fail (e : RunError) : Decides (.fail e)

theorem Decides.leavesPlace {e : Operation σ} (h : Decides e) : e.LeavesPlace := by
  cases h with
  | wait h                                  => cases h <;> first | trivial | exact fun _ => ⟨rfl, rfl, rfl, rfl⟩
  | issue | pending _ | hold | release      => exact fun _ => ⟨rfl, rfl, rfl, rfl⟩
  | observe | fail _                        => trivial

theorem does_pollDecision (id : RequestId) (fuel : Nat) (h : ∀ e, Waits e → F e) :
    Does env F (pollDecision env id fuel) := by
  induction fuel with
  | zero => exact .outOfFuel
  | succ fuel ih =>
    refine .bind (does_checkStop (h _ .stopped)) fun _ => .read (fun _ _ => rfl) fun s => ?_
    refine .bind (.edit (fun _ _ => rfl) (h _ (.inbox _))) fun _ => ?_
    split
    · exact .pure _
    · exact .bind (.sleep (h _ (.poll _))) fun _ => ih

theorem does_awaitDecision (event : Option Event) (options : List String) (h : ∀ e, Decides e → F e) :
    Does env F (awaitDecision env event options) := by
  have hwait : ∀ e, Waits e → F e := fun e he => h e (.wait he)
  refine .bind (.bind (.edit (fun _ _ => rfl) (h _ .issue)) fun _ => .read (fun _ _ => rfl) fun _ => .pure _) fun id => ?_
  refine .read (fun _ _ => rfl) fun s => .bind (.onContext _ (h _ (.pending _))) fun _ => ?_
  refine .bind (.onControl _ (h _ .hold)) fun _ => .bind (.report (hwait _ (.requested _))) fun _ => ?_
  refine .bind (.observing (h _ .observe) (.bind (.ask (hwait _ (.request _))) fun _ => does_pollDecision id _ hwait))
    fun result => ?_
  refine .bind (.onContext _ (h _ (.pending none))) fun _ => .bind (.onControl _ (h _ .release)) fun _ => ?_
  cases result with
  | ok d    => exact .pure d
  | error e => exact .fail (h _ (.fail e))

/-! ## Passes over interruptions -/

def halt : Engine σ α := do
  modifyControl .stop
  fail .stopped

inductive Resolves (env : Env σ) : Operation σ → Prop
  | detect : Resolves env (.ask .detect)
  | press (event : Event) (control : String) : Resolves env (.ask (.press event control))
  | dismiss (event : Event) : Resolves env (.ask (.dismiss event))
  | detected (step : Nat) (event : Event) : Resolves env (.report (.interruptionDetected step event))
  | handled (step : Nat) (id : String) (outcome : Outcome) :
      Resolves env (.report (.interruptionHandled step id outcome))
  | applied (id : RequestId) (step : Nat) (action : Option DecisionAction) (outcome : Outcome) :
      Resolves env (.report (.decisionApplied id step action outcome))
  | learned (id template : String) (outcome : Outcome) : Resolves env (.report (.handlerLearned id template outcome))
  | rest {reason : SleepReason} {e : Operation σ} : Rests reason e → Resolves env e
  | acknowledge (key : String) : Resolves env (.edit (.onContext (.acknowledge key)))
  | stall (key : String) : Resolves env (.edit (.onContext (.stall key)))
  | learn (serial : Nat) (h : Handler) : Resolves env (.edit (.withLearned serial h))
  | halt {α : Type} : Resolves env (.whole (FormReplay.halt : Engine σ α))
  | await (event : Option Event) (options : List String) : Resolves env (.whole (awaitDecision env event options))

theorem Resolves.leavesPlace {e : Operation σ} (h : Resolves env e) : e.LeavesPlace := by
  have hacknowledge : ∀ (key : String) (c : Context), c.SamePlace (c.acknowledge key) := fun key c => by
    unfold Context.acknowledge
    split <;> exact ⟨rfl, rfl, rfl, rfl⟩
  have hstall : ∀ (key : String) (c : Context), c.SamePlace (c.stall key) := fun key c => by
    unfold Context.stall
    split <;> exact ⟨rfl, rfl, rfl, rfl⟩
  cases h with
  | rest h          => exact h.leavesPlace
  | acknowledge key => exact fun s => hacknowledge key s.context
  | stall key       => exact fun s => hstall key s.context
  | learn _ _       => exact fun _ => ⟨rfl, rfl, rfl, rfl⟩
  | _               => trivial

theorem does_halt (hstop : F (.edit (.onControl .stop))) (hfail : F (.fail .stopped)) : Does env F (halt : Engine σ α) :=
  .bind (.onControl .stop hstop) fun _ => .fail hfail

theorem does_finishOutcome (hhalt : F (.whole (halt : Engine σ (Option Signal)))) (hrest : ∀ e, Rests .settle e → F e)
    (outcome : Outcome) : Does env F (finishOutcome env outcome) := by
  unfold finishOutcome
  split
  · exact .whole hhalt
  · exact .pure _
  · exact .bind (does_sleep _ hrest) fun _ => .pure _

/-! ### What a handler does -/

inductive Performs : Operation σ → Prop
  | press (event : Event) (control : String) : Performs (.ask (.press event control))
  | dismiss (event : Event) : Performs (.ask (.dismiss event))
  | wait {e : Operation σ} : Rests .handlerWait e → Performs e
  | handled (step : Nat) (id : String) (outcome : Outcome) : Performs (.report (.interruptionHandled step id outcome))
  | settle {e : Operation σ} : Rests .settle e → Performs e
  | halt {α : Type} : Performs (.whole (FormReplay.halt : Engine σ α))

theorem does_applyAction {event : Event} (hpress : ∀ control, F (.ask (.press event control)))
    (hdismiss : F (.ask (.dismiss event))) (hwait : ∀ e, Rests .handlerWait e → F e) (action : HandlerAction) :
    Does env F (applyAction env event action) := by
  cases action with
  | press control => exact .ask (hpress control)
  | dismiss       => exact .ask hdismiss
  | wait ms       => exact does_sleep _ hwait

theorem does_applyHandler (h : ∀ e, Performs e → F e) (event : Event) (handler : Handler) :
    Does env F (applyHandler env event handler) := by
  refine .bind (.forM (does_applyAction (fun _ => h _ (.press _ _)) (h _ (.dismiss _)) fun e he => h e (.wait he))) fun _ => ?_
  exact .read (fun _ _ => rfl) fun _ => .bind (.report (h _ (.handled _ _ _))) fun _ =>
    does_finishOutcome (h _ .halt) (fun e he => h e (.settle he)) _

/-! ### What a decision does -/

def applyConfirmation (env : Env σ) (d : Decision) : Engine σ Signal := do
  report env (.decisionApplied d.id (← get).context.stepIndex none d.outcome)
  return (← finishOutcome env d.outcome).getD .next

theorem confirmStep_eq (env : Env σ) :
    confirmStep env = awaitDecision env none ["continue"] >>= fun d => applyConfirmation env d := rfl

inductive Carries (event : Event) (d : Decision) : Operation σ → Prop
  | select (control : String) : d.action = .press → d.selectedOption = some control →
      Carries event d (.ask (.press event control))
  | settle {e : Operation σ} : d.action = .press → d.followUpOption.isSome = true → Rests .settle e → Carries event d e
  | detect : d.action = .press → d.followUpOption.isSome = true → Carries event d (.ask .detect)
  | followUp (offering : Event) (control : String) : d.action = .press → d.followUpOption = some control →
      Carries event d (.ask (.press offering control))
  | dismiss : d.action = .dismiss → Carries event d (.ask (.dismiss event))
  | acknowledge : Carries event d (.edit (.onContext (.acknowledge event.patternKey)))

inductive Applies (event : Event) (d : Decision) : Operation σ → Prop
  | carry {e : Operation σ} : Carries event d e → Applies event d e
  | applied (step : Nat) : Applies event d (.report (.decisionApplied d.id step (some d.action) d.outcome))
  | learned (id : String) : d.saveRule = true → Applies event d (.report (.handlerLearned id event.template d.outcome))
  | learn (serial : Nat) (h : Handler) : d.saveRule = true → Applies event d (.edit (.withLearned serial h))
  | finish {e : Operation σ} : Rests .settle e → Applies event d e
  | halt {α : Type} : Applies event d (.whole (FormReplay.halt : Engine σ α))

theorem Applies.resolves {event : Event} {d : Decision} {e : Operation σ} (h : Applies event d e) : Resolves env e := by
  cases h with
  | applied _   => exact .applied _ _ _ _
  | learned _ _ => exact .learned _ _ _
  | learn _ _ _ => exact .learn _ _
  | finish he   => exact .rest he
  | halt        => exact .halt
  | carry h =>
    cases h with
    | select _ _ _ | followUp _ _ _ _ => exact .press _ _
    | settle _ _ he                   => exact .rest he
    | detect _ _                      => exact .detect
    | dismiss _                       => exact .dismiss _
    | acknowledge                     => exact .acknowledge _

theorem does_pressFollowUp {event : Event} {d : Decision} (h : ∀ e, Carries event d e → F e) (hpress : d.action = .press) :
    Does env F (pressFollowUp env event d.followUpOption) := by
  cases hfollow : d.followUpOption with
  | none => exact .pure _
  | some control =>
    have hask : ∀ offering, Does env F (ask env (.press offering control)) := fun offering =>
      .ask (h _ (.followUp offering control hpress hfollow))
    have hsome : d.followUpOption.isSome = true := by rw [hfollow]; rfl
    refine .bind (does_sleep _ fun e he => h e (.settle hpress hsome he)) fun _ => ?_
    refine .bind (.ask (h _ (.detect hpress hsome))) fun events => ?_
    split
    · exact .bind (hask _) fun _ => .pure _
    · split
      · exact .bind (hask _) fun _ => .pure _
      · exact .pure _

theorem does_carryOut {event : Event} {d : Decision} (h : ∀ e, Carries event d e → F e) :
    Does env F (carryOut env event d) := by
  unfold carryOut
  split <;> rename_i haction
  · refine .bind ?_ fun _ => .bind (does_pressFollowUp h haction) fun _ => .pure _
    cases hselected : d.selectedOption with
    | none         => exact .pure _
    | some control => exact .bind (.ask (h _ (.select control haction hselected))) fun _ => .pure _
  · exact .bind (.ask (h _ (.dismiss haction))) fun _ => .pure _
  · exact .bind (.onContext _ (h _ .acknowledge)) fun _ => .pure _

theorem does_learn {event : Event} {d : Decision} (hlearned : ∀ id, F (.report (.handlerLearned id event.template d.outcome)))
    (hlearn : ∀ serial h, F (.edit (.withLearned serial h))) (actions : List HandlerAction) :
    Does env F (learn env event d actions) := by
  refine .read (fun _ _ => rfl) fun s => ?_
  dsimp only
  split
  · exact .pure ()
  · exact .bind (.report (hlearned _)) fun _ => .edit (f := .withLearned _ _) (fun _ _ => rfl) (hlearn _ _)

theorem does_applyDecision {event : Event} {d : Decision} (h : ∀ e, Applies event d e → F e) :
    Does env F (applyDecision env event d) := by
  have hcarry : ∀ e, Carries event d e → F e := fun e he => h e (.carry he)
  refine .bind (does_carryOut hcarry) fun actions => ?_
  have hfinish : Does env F (finishOutcome env d.outcome) :=
    does_finishOutcome (h _ .halt) (fun e he => h e (.finish he)) d.outcome
  have hrest : Does env F (do
      report env (.decisionApplied d.id (← get).context.stepIndex (some d.action) d.outcome)
      if d.saveRule then learn env event d actions
      finishOutcome env d.outcome) := by
    refine .read (fun _ _ => rfl) fun _ => .bind (.report (h _ (.applied _))) fun _ => ?_
    split
    · rename_i hsave
      exact .bind (does_learn (fun id => h _ (.learned id hsave)) (fun n g => h _ (.learn n g hsave)) actions) fun _ => hfinish
    · exact hfinish
  dsimp only
  split
  · exact .bind (.onContext _ (h _ (.carry .acknowledge))) fun _ => hrest
  · exact hrest

theorem does_applyConfirmation {d : Decision} (happlied : ∀ step, F (.report (.decisionApplied d.id step none d.outcome)))
    (hhalt : F (.whole (halt : Engine σ (Option Signal)))) (hrest : ∀ e, Rests .settle e → F e) :
    Does env F (applyConfirmation env d) :=
  .read (fun _ _ => rfl) fun _ => .bind (.report (happlied _)) fun _ =>
    .bind (does_finishOutcome hhalt hrest d.outcome) fun _ => .pure _

/-! ### What a pass does

A decision on an event is taken as a whole first, for its parts belong together. -/

def decideOn (env : Env σ) (event : Event) : Engine σ (Option Signal) := do
  let d ← awaitDecision env (some event) (rankOptions event.controls)
  applyDecision env event d

/-- What a pass is made of but for decisions, and each decision on an event as a whole. -/
inductive Handles (env : Env σ) : Operation σ → Prop
  | detect : Handles env (.ask .detect)
  | press (event : Event) (control : String) : Handles env (.ask (.press event control))
  | dismiss (event : Event) : Handles env (.ask (.dismiss event))
  | detected (step : Nat) (event : Event) : Handles env (.report (.interruptionDetected step event))
  | handled (step : Nat) (id : String) (outcome : Outcome) :
      Handles env (.report (.interruptionHandled step id outcome))
  | rest {reason : SleepReason} {e : Operation σ} : reason ≠ .decisionPoll → Rests reason e → Handles env e
  | acknowledge (key : String) : Handles env (.edit (.onContext (.acknowledge key)))
  | stall (key : String) : Handles env (.edit (.onContext (.stall key)))
  | halt {α : Type} : Handles env (.whole (FormReplay.halt : Engine σ α))
  | decide (event : Event) : Handles env (.whole (decideOn env event))

theorem Performs.handles {e : Operation σ} (h : Performs e) : Handles env e := by
  cases h with
  | press event control => exact .press event control
  | dismiss event       => exact .dismiss event
  | wait he             => exact .rest (by nofun) he
  | settle he           => exact .rest (by nofun) he
  | handled _ _ _       => exact .handled _ _ _
  | halt                => exact .halt

theorem does_awaitCleared (key : String) (fuel : Nat) (hpause : ∀ e, Rests .pausePoll e → F e)
    (hstall : ∀ e, Rests .stallPoll e → F e) (hdetect : F (.ask .detect)) : Does env F (awaitCleared env key fuel) := by
  induction fuel with
  | zero => exact .outOfFuel
  | succ fuel ih =>
    refine .bind (does_checkpoint hpause) fun _ => .bind (.sleep (hstall _ (.sleep _))) fun _ => ?_
    refine .bind (.ask hdetect) fun events => ?_
    split
    · exact ih
    · exact .pure ()

theorem does_resolveUnhandled {event : Event} (hhalt : F (.whole (halt : Engine σ (Option Signal))))
    (hdecide : Does env F (decideOn env event)) (hstall : F (.edit (.onContext (.stall event.patternKey))))
    (hcleared : Does env F (awaitCleared env event.patternKey env.fuel))
    (hacknowledge : F (.edit (.onContext (.acknowledge event.patternKey)))) : Does env F (resolveUnhandled env event) := by
  unfold resolveUnhandled
  dsimp only
  split
  · exact .whole (x := FormReplay.halt) hhalt
  · split
    · exact hdecide
    · split
      · exact .bind (.onContext _ hstall) fun _ => .bind hcleared fun _ => .pure _
      · exact .bind (.onContext _ hacknowledge) fun _ => .pure _

theorem handles_resolveUnhandled (event : Event) : Does env (Handles env) (resolveUnhandled env event) :=
  does_resolveUnhandled .halt (.whole (.decide event)) (.stall _)
    (does_awaitCleared _ _ (fun _ => .rest nofun) (fun _ => .rest nofun) .detect) (.acknowledge _)

theorem handles_resolveEvent (event : Event) : Does env (Handles env) (resolveEvent env event) := by
  refine .read (fun _ _ => rfl) fun s => .bind (.report (.detected _ _)) fun _ => ?_
  split
  · split
    · exact does_applyHandler (fun _ => Performs.handles) event _
    · exact handles_resolveUnhandled event
  · exact handles_resolveUnhandled event

theorem handles_passFrom (seen n : Nat) : Does env (Handles env) (passFrom env seen n) := by
  have hrest : ∀ e : Operation σ, Rests .settle e → Handles env e := fun _ => .rest nofun
  induction n generalizing seen with
  | zero => exact .pure _
  | succ n ih =>
    refine .bind (does_checkStop (hrest _ .stopped)) fun _ => .bind (.ask .detect) fun events => ?_
    refine .read (fun _ _ => rfl) fun s => ?_
    dsimp only
    split
    · exact .pure _
    · split
      · exact .bind (.onContext _ (.acknowledge _)) fun _ => ih _
      · refine .bind (handles_resolveEvent _) fun result => ?_
        split
        · exact .pure _
        · exact ih _

theorem handles_resolvePass : Does env (Handles env) (resolvePass env) := handles_passFrom _ _

theorem Does.resolves {x : Engine σ α} (hx : Does env (Handles env) x) : Does env (Resolves env) x := by
  refine hx.unfold (fun y hy => ?_) fun e he hwhole => ?_
  · cases hy with
    | halt         => exact .whole .halt
    | decide event => exact .bind (.whole (.await _ _)) fun d => does_applyDecision fun _ => Applies.resolves
    | rest _ he    => cases he
  · cases he with
    | detect          => exact .detect
    | press event c   => exact .press event c
    | dismiss event   => exact .dismiss event
    | detected _ _    => exact .detected _ _
    | handled _ _ _   => exact .handled _ _ _
    | rest _ he       => exact .rest he
    | acknowledge key => exact .acknowledge key
    | stall key       => exact .stall key
    | halt            => exact .halt
    | decide event    => exact absurd rfl (hwhole _)

section Passes

variable (h : ∀ e, Resolves env e → F e)
include h

theorem does_resolveEvent (event : Event) : Does env F (resolveEvent env event) :=
  (handles_resolveEvent event).resolves.mono h

theorem does_resolvePass : Does env F (resolvePass env) := handles_resolvePass.resolves.mono h

theorem does_confirmStep : Does env F (confirmStep env) :=
  .bind (.whole (h _ (.await _ _))) fun _ =>
    does_applyConfirmation (fun _ => h _ (.applied _ _ _ _)) (h _ .halt) fun e he => h e (.rest he)

end Passes

end FormReplay
