import FormReplay.Proofs.Acknowledgement
/-!
# Runs until interception

A run may be told to stop at the first interruption that it does not resolve by itself.  A pass that takes up such an
event reports it and sets the stop flag; no error policy applies to a stop, so the execution ends with it from any depth
of frames, and the end of the run is told next.  What no handler resolves is neither decided on nor waited for in such a
run, so that nothing is learned and the handlers in force are those of the workflow throughout.
-/
namespace FormReplay

variable {σ α : Type} {env : Env σ}

/-! ## Interceptions in a trace -/

/-- The event that a pass takes up after this look at the surface, if it is unresolved and so intercepts the run. -/
def Entry.intercepted? (handlers : List Handler) (x : Entry) : Option Event :=
  x.firstNew?.filter fun event => event.Unresolved handlers

/-- A decision on an event is asked for or applied, a handler is learned, or a dialog is waited for. -/
def Moment.IsInquiry : Moment → Prop
  | .progress (.decisionRequested r) | .asked (.request r) _ => r.event ≠ none
  | .progress (.decisionApplied _ _ action _)                => action ≠ none
  | .progress (.handlerLearned ..) | .slept .stallPoll _     => True
  | _                                                        => False

/-- All that comes after a look at the surface is the report of an event, and acts of the host. -/
def Entry.ReportedBy (x : Entry) (event : Event) (later : List Entry) : Prop :=
  ∃ acts told acts', later = acts ++ told :: acts' ∧ OnlyActs acts ∧ OnlyActs acts' ∧
    told.moment = .progress (.interruptionDetected x.context.stepIndex event)

def Undisputed (handlers : List Handler) (trace : List Entry) : Prop :=
  ∀ x ∈ trace, x.intercepted? handlers = none ∧ ¬x.moment.IsInquiry

section Readings

variable {handlers : List Handler} {x : Entry} {event : Event} {later past trace : List Entry}

theorem intercepted?_eq_none (h : ∀ events, x.moment ≠ .asked .detect (.ok events)) : x.intercepted? handlers = none := by
  have hnone : x.firstNew? = none := by
    unfold Entry.firstNew?
    split
    · rename_i events hm
      exact absurd hm (h events)
    · rfl
  rw [Entry.intercepted?, hnone]
  rfl

theorem OnlyActs.undisputed (h : OnlyActs later) : Undisputed handlers later := by
  intro x hx
  obtain ⟨act, hact⟩ := h x hx
  exact ⟨intercepted?_eq_none fun events hm => (by rw [hact] at hm; cases hm), fun hm => by rw [hact] at hm; exact hm⟩

theorem Undisputed.append (hlater : Undisputed handlers later) (hpast : Undisputed handlers past) :
    Undisputed handlers (later ++ past) := fun x hx => (List.mem_append.1 hx).elim (hlater x) (hpast x)

theorem Entry.ReportedBy.undisputed (h : x.ReportedBy event later) : Undisputed handlers later := by
  obtain ⟨acts, told, acts', rfl, hacts, hacts', htold⟩ := h
  refine hacts.undisputed.append (List.forall_mem_cons.2 ⟨⟨intercepted?_eq_none fun events hm => ?_, fun hm => ?_⟩,
    hacts'.undisputed⟩)
  · rw [htold] at hm
    cases hm
  · rw [htold] at hm
    exact hm

theorem Undisputed.split (hlater : Undisputed handlers later) (hpast : Undisputed handlers past) {later' past' : List Entry}
    {x' : Entry} (hsplit : later ++ x :: past = later' ++ x' :: past') (hx' : x'.intercepted? handlers = some event) :
    later' = later ∧ x' = x ∧ past' = past := by
  have hnone : ∀ {trace}, Undisputed handlers trace → x' ∉ trace := fun htrace hmem => by
    rw [(htrace x' hmem).1] at hx'
    cases hx'
  rcases List.append_eq_append_iff.1 hsplit with ⟨more, rfl, hmore⟩ | ⟨more, rfl, hmore⟩
  · cases more with
    | nil =>
      cases hmore
      exact ⟨List.append_nil later, rfl, rfl⟩
    | cons a more =>
      cases hmore
      exact absurd (List.mem_append_right more (.head past')) (hnone hpast)
  · cases more with
    | nil =>
      cases hmore
      exact ⟨(List.append_nil later').symm, rfl, rfl⟩
    | cons a more =>
      cases hmore
      exact absurd (List.mem_append_right later' (.head more)) (hnone hlater)

end Readings

/-! ## What a run keeps -/

structure Unintercepted (handlers : List Handler) (s : Session σ) : Prop where
  stock : s.handlers = handlers
  learned : s.learned = []
  trace : Undisputed handlers s.trace

structure Looked (handlers : List Handler) (events : List Event) (s : Session σ) : Prop where
  stock : s.handlers = handlers
  learned : s.learned = []
  shown : ∃ acts x past, s.trace = acts ++ x :: past ∧ OnlyActs acts ∧ Undisputed handlers past ∧
    x.moment = .asked .detect (.ok events) ∧ x.context = s.context

structure Raised (handlers : List Handler) (event : Event) (s : Session σ) : Prop where
  stock : s.handlers = handlers
  learned : s.learned = []
  reported : ∃ later x past, s.trace = later ++ x :: past ∧ x.ReportedBy event later ∧ Undisputed handlers past ∧
    x.firstNew? = some event ∧ ¬x.moment.IsInquiry

/-- What is left where an action ends early: nothing intercepted the run, or an event did and it ends with a stop. -/
def Interrupts (handlers : List Handler) (halt : Halt) (s : Session σ) : Prop :=
  Unintercepted handlers s ∨ halt = .error .stopped ∧ ∃ event, Raised handlers event s ∧ event.Unresolved handlers

def Moment.IsUndisputed (m : Moment) : Prop := (∀ events, m ≠ .asked .detect (.ok events)) ∧ ¬m.IsInquiry

section Keeping

variable {handlers : List Handler} {event : Event} {events : List Event} {s : Session σ} {e : Operation σ}

theorem keptBy_unintercepted : KeptBy Moment.IsUndisputed fun s : Session σ => Unintercepted handlers s where
  acted _ := ⟨nofun, id⟩
  record _ _ hm hs := ⟨hs.stock, hs.learned, List.forall_mem_cons.2 ⟨⟨intercepted?_eq_none hm.1, hm.2⟩, hs.trace⟩⟩
  world _ _ hs := ⟨hs.stock, hs.learned, hs.trace⟩

theorem keptBy_looked : KeptBy Moment.IsAct fun s : Session σ => Looked handlers events s where
  acted _ := trivial
  record _ _ hm hs := by
    obtain ⟨acts, x, past, htrace, honly, hpast, hmoment, hcontext⟩ := hs.shown
    refine ⟨hs.stock, hs.learned, ⟨_ :: acts, x, past, congrArg (_ :: ·) htrace, ?_, hpast, hmoment, hcontext⟩⟩
    exact List.forall_mem_cons.2 ⟨hm.exists, honly⟩
  world _ _ hs := ⟨hs.stock, hs.learned, hs.shown⟩

theorem keeps_unintercepted (he : e.Ordinary) (hadds : e.Adds Moment.IsUndisputed) :
    e.Keeps env (Unintercepted handlers) fun _ => Unintercepted handlers := by
  refine keptBy_unintercepted.keeps hadds fun f hf _ s hs => ?_
  have hsame := he.2 f hf s
  exact ⟨hsame.handlers.trans hs.stock, hsame.learned.trans hs.learned, hsame.trace ▸ hs.trace⟩

theorem Interrupts.recovers {halt : Halt} (h : Interrupts handlers halt s) :
    Recovers (Unintercepted handlers) (Interrupts handlers) halt s := by
  refine ⟨h, fun err herr hretry => h.resolve_right fun ⟨hstop, _⟩ => ?_⟩
  cases herr.symm.trans hstop
  cases hretry

/-! ### The operations of a run -/

theorem Rests.undisputed {reason : SleepReason} (h : Rests reason e) (hreason : reason ≠ .stallPoll) :
    e.Adds Moment.IsUndisputed := by
  cases h with
  | stopped  => trivial
  | sleep ms =>
    refine ⟨nofun, fun h => ?_⟩
    cases reason <;> first | exact h | exact hreason rfl

theorem Moment.Enquires.isUndisputed {m : Moment} (h : m.Enquires) : m.IsUndisputed := by
  unfold Moment.Enquires at h
  split at h <;> first | exact h.elim | exact ⟨nofun, id⟩

theorem Acts.undisputed {step : Step} (h : Acts step e) : e.Adds Moment.IsUndisputed := by
  cases h with
  | execute _ => exact fun _ => ⟨nofun, id⟩
  | look h =>
    cases h with
    | rest h     => exact h.undisputed nofun
    | judges h   => exact h.adds.mono fun _ => Moment.Enquires.isUndisputed
    | values h   => exact h.adds.mono fun _ => Moment.Enquires.isUndisputed
    | inspect _  => exact fun _ => ⟨nofun, id⟩
    | waitPoll _ => exact ⟨nofun, id⟩
    | timedOut _ => trivial

theorem Steps.undisputed {index : Nat} (h : Steps index e) : e.Adds Moment.IsUndisputed := by
  cases h with
  | pause h | delay h                                              => exact h.undisputed nofun
  | dryRun _ _ | started _ _ | completed _ | retry _ _ | attempted => exact ⟨nofun, id⟩
  | current | fail _ _                                             => trivial

theorem Loops.undisputed {start : Nat} (h : Loops start e) : e.Adds Moment.IsUndisputed := by
  cases h with
  | rest h                         => exact h.undisputed nofun
  | iteration _ _ | rowStarted _   => exact ⟨nofun, id⟩
  | judges h                       => exact h.adds.mono fun _ => Moment.Enquires.isUndisputed
  | current | row _ | began _ _    => trivial

theorem keeps_acknowledge (key : String) (hs : Unintercepted handlers s) :
    Unintercepted handlers (s.onContext (.acknowledge key)) := ⟨hs.stock, hs.learned, hs.trace⟩

theorem unintercepted_finish (outcome : Outcome) : Ensures (Unintercepted handlers) (finishOutcome env outcome)
    (fun _ => Unintercepted handlers) fun _ => Unintercepted handlers :=
  ensures_finishOutcome (fun _ he => keeps_unintercepted (he.ordinary nofun) (he.undisputed nofun)) (fun _ => id)
    fun _ hs => ⟨hs.stock, hs.learned, hs.trace⟩

theorem unintercepted_applyHandler (event : Event) (h : Handler) : Ensures (Unintercepted handlers) (applyHandler env event h)
    (fun _ => Unintercepted handlers) fun _ => Unintercepted handlers := by
  have hperforms : Does env Performs (applyHandler env event h) := does_applyHandler (fun _ => id) event h
  refine hperforms.ensures (fun e he => ?_) fun _ => id
  cases he with
  | press _ _ | dismiss _ => exact keeps_unintercepted (.ofAdds (fun _ => trivial) nofun) fun _ => ⟨nofun, id⟩
  | handled _ _ _         => exact keeps_unintercepted (.ofAdds trivial nofun) ⟨nofun, id⟩
  | wait he | settle he   => exact keeps_unintercepted (he.ordinary nofun) (he.undisputed nofun)
  | @halt β =>
    have hhalt : Ensures (Unintercepted handlers) (halt : Engine σ β) (fun _ => Unintercepted handlers)
        fun _ => Unintercepted handlers := ensures_halting fun _ hs => ⟨hs.stock, hs.learned, hs.trace⟩
    exact hhalt

theorem unintercepted_confirmStep : Ensures (Unintercepted handlers) (confirmStep env) (fun _ => Unintercepted handlers)
    fun _ => Unintercepted handlers := by
  have hsame : ∀ {s s' : Session σ}, Unintercepted handlers s → s'.handlers = s.handlers → s'.learned = s.learned →
      s'.trace = s.trace → Unintercepted handlers s' :=
    fun hs hh hl ht => ⟨hh.trans hs.stock, hl.trans hs.learned, ht ▸ hs.trace⟩
  let A : DecisionRequest → Session σ → Prop := fun r s => r.event = none ∧ Unintercepted handlers s
  have hanswered : ∀ r s, A r s → Unintercepted handlers (s.answered env (.request r)) := fun r s hs =>
    keptBy_unintercepted.answered s (.request r) (fun _ => ⟨nofun, fun h => h hs.1⟩) hs.2
  have hawait : AwaitRule env none ["continue"] (Unintercepted handlers) A A (fun _ _ => Unintercepted handlers)
      fun _ => Unintercepted handlers := {
    begins := fun s hs => ⟨rfl, keptBy_unintercepted.told _ _ ⟨nofun, fun h => h rfl⟩ (hsame hs rfl rfl rfl)⟩
    put := fun r s hs _ => ⟨hs.1, hanswered r s hs⟩
    refused := fun r s _ hs _ => hsame (hanswered r s hs) rfl rfl rfl
    stopped := fun _ _ hs _ => hsame hs.2 rfl rfl rfl
    taken := fun _ _ _ _ hs _ _ => hsame hs.2 rfl rfl rfl
    missed := fun _ s _ hs _ _ => ⟨hs.1, keptBy_unintercepted.rested _ _ _ ⟨nofun, id⟩ (hsame hs.2 rfl rfl rfl)⟩
    outOfFuel := fun _ _ hs => hs.2 }
  rw [confirmStep_eq]
  refine .bind (hawait.awaitDecision.weaken fun _ _ ⟨_, _, hs⟩ => hs) fun d => ?_
  refine ensures_applyConfirmation (fun s hs => ?_) (unintercepted_finish d.outcome)
  exact keptBy_unintercepted.told s _ ⟨nofun, fun h => h rfl⟩ hs

/-! ### Passes -/

theorem ensures_detect_looked : Ensures (Unintercepted handlers) (ask env .detect) (fun events => Looked handlers events)
    fun _ => Unintercepted handlers := by
  refine .ask (fun s events hs hanswer => ?_) fun s err hs hanswer => ?_
  · exact keptBy_looked.accept _ _ ⟨hs.stock, hs.learned, [], _, _, rfl, fun _ hx => absurd hx List.not_mem_nil, hs.trace,
      congrArg (Moment.asked .detect) hanswer, rfl⟩
  · refine keptBy_unintercepted.accept _ _ (keptBy_unintercepted.record s _ ?_ hs)
    rw [hanswer]
    exact ⟨nofun, id⟩

namespace Looked

theorem unintercepted (h : Looked handlers events s)
    (hnone : ∀ event, (events.find? fun event => !s.context.acknowledged.contains event.patternKey) = some event →
      ¬event.Unresolved handlers) : Unintercepted handlers s := by
  obtain ⟨acts, x, past, htrace, honly, hpast, hmoment, hcontext⟩ := h.shown
  refine ⟨h.stock, h.learned, htrace ▸ honly.undisputed.append (List.forall_mem_cons.2 ⟨⟨?_, ?_⟩, hpast⟩)⟩
  · rw [Entry.intercepted?, Entry.firstNew?, hmoment, hcontext]
    exact Option.filter_eq_none_iff.2 fun event hevent => by simpa using hnone event hevent
  · rw [hmoment]
    exact id

theorem raised (h : Looked handlers events s)
    (hfound : (events.find? fun event => !s.context.acknowledged.contains event.patternKey) = some event) :
    Raised handlers event (s.told env (.interruptionDetected s.context.stepIndex event)) := by
  obtain ⟨acts, x, past, htrace, honly, hpast, hmoment, hcontext⟩ := h.shown
  obtain ⟨acts', told, htold, honly', hreport⟩ := s.told_trace env (.interruptionDetected s.context.stepIndex event)
  have hkept : KeptBy (fun _ => True) fun s : Session σ => s.handlers = handlers ∧ s.learned = [] :=
    ⟨fun _ => trivial, fun _ _ _ => id, fun _ _ => id⟩
  obtain ⟨hhandlers, hlearned⟩ : (s.told env (.interruptionDetected s.context.stepIndex event)).handlers = handlers ∧
      (s.told env (.interruptionDetected s.context.stepIndex event)).learned = [] :=
    hkept.told s _ trivial ⟨h.stock, h.learned⟩
  refine ⟨hhandlers, hlearned, acts' ++ told :: acts, x, past, by rw [htold, htrace]; simp, ?_, hpast, ?_, ?_⟩
  · exact ⟨acts', told, acts, rfl, honly', honly, hcontext ▸ hreport⟩
  · rw [Entry.firstNew?, hmoment, hcontext]
    exact hfound
  · rw [hmoment]
    exact id

end Looked

theorem Raised.unintercepted (h : Raised handlers event s) (hnot : ¬event.Unresolved handlers) :
    Unintercepted handlers s := by
  obtain ⟨later, x, past, htrace, hreported, hpast, hfirst, hx⟩ := h.reported
  refine ⟨h.stock, h.learned, htrace ▸ hreported.undisputed.append (List.forall_mem_cons.2 ⟨⟨?_, hx⟩, hpast⟩)⟩
  rw [Entry.intercepted?, hfirst]
  simpa using hnot

variable (huntil : env.options.runUntilInterception = true)
include huntil

/-- **What no handler resolves by itself ends the run.** -/
theorem interrupts_resolveUnhandled (hunresolved : event.Unresolved handlers) :
    Ensures (Raised handlers event) (resolveUnhandled env event) (fun _ => Unintercepted handlers) (Interrupts handlers) := by
  unfold resolveUnhandled
  dsimp only
  rw [if_pos huntil]
  have hhalt : Ensures (Raised handlers event) (halt : Engine σ (Option Signal)) (fun _ => Unintercepted handlers)
      (Interrupts handlers) := ensures_halting fun s hs =>
    .inr ⟨rfl, event, ⟨hs.stock, hs.learned, hs.reported⟩, hunresolved⟩
  exact hhalt

theorem interrupts_resolveEvent (hbenign : event.isBenignNotice = false) :
    Ensures (fun s => Looked handlers events s ∧
        (events.find? fun event => !s.context.acknowledged.contains event.patternKey) = some event)
      (resolveEvent env event) (fun _ => Unintercepted handlers) (Interrupts handlers) := by
  refine .read fun s₀ ⟨hlooked, hfound⟩ => .bind (R := fun _ => Raised handlers event) (.report fun s hs => ?_) fun _ => ?_
  · subst hs
    exact hlooked.raised hfound
  · have hunhandled : (∀ h ∈ findHandler handlers event, h.mode ≠ .auto) → Ensures (Raised handlers event)
        (resolveUnhandled env event) (fun _ => Unintercepted handlers) (Interrupts handlers) :=
      fun hasks => interrupts_resolveUnhandled huntil ⟨hbenign, hasks⟩
    rw [hlooked.stock]
    split
    · rename_i h hh
      split
      · rename_i hauto
        refine (unintercepted_applyHandler event h).imp (fun s hs => hs.unintercepted fun hunresolved => ?_) (fun _ _ => id)
          fun _ _ => .inl
        exact hunresolved.2 h hh hauto
      · rename_i hasks
        refine hunhandled fun g hg => ?_
        cases hh.symm.trans hg
        exact hasks
    · rename_i hnone
      refine hunhandled fun g hg => ?_
      cases hnone.symm.trans hg

/-- **A pass takes up events until one intercepts.** -/
theorem lookRule_unintercepted : LookRule env (Unintercepted handlers) (Looked handlers) (Interrupts handlers) where
  stopped _ hs := .inl hs
  look := ensures_detect_looked.imp (fun _ => id) (fun _ _ => id) fun _ _ => .inl
  nothing _ _ hs hnone := hs.unintercepted fun event hevent => by rw [hnone] at hevent; cases hevent
  benign events event s hs hfound hbenign := by
    refine keeps_acknowledge event.patternKey (hs.unintercepted fun event' hevent' hunresolved => ?_)
    cases hfound.symm.trans hevent'
    rw [hunresolved.1] at hbenign
    cases hbenign
  resolve _ _ _ hs hfound hbenign := (interrupts_resolveEvent huntil hbenign).strengthen fun _ heq => by
    subst heq
    exact ⟨hs, hfound⟩

/-! ### Steps and programs -/

/-- **An interception goes through retries, policies and frames** as it is, for it is a stop. -/
theorem steadyRule_unintercepted {p : Program} (tables : p.tables.Within p.workflow.steps.length) :
    SteadyRule env p (Unintercepted handlers) (Unintercepted handlers) (Interrupts handlers) := by
  have haround : ∀ {e : Operation σ}, e.Routine → e.Adds Moment.IsUndisputed → e ≠ .observe →
      e.Keeps env (Unintercepted handlers) (Interrupts handlers) := fun he hadds hobserve =>
    (keeps_unintercepted he.ordinary hadds).weaken (fun _ _ => .inl) hobserve
  have hsteps : ∀ i (e : Operation σ), Steps i e → e.Keeps env (Unintercepted handlers) (Interrupts handlers) :=
    fun _ _ he => haround he.routine he.undisputed he.ne_observe
  have hcheck : Does env (Steps 0) (checkpoint env) := does_checkpoint fun _ => .pause
  have hact : ∀ step spec row, Ensures (Unintercepted handlers) (act env step spec row) (fun _ => Unintercepted handlers)
      (Interrupts handlers) := fun step spec row =>
    ((does_act step spec row fun _ => id).ensures (fun _ he => keeps_unintercepted (Acts.routine he).ordinary he.undisputed)
      fun _ => id).imp (fun _ => id) (fun _ _ => id) fun _ _ => .inl
  exact {
    tables
    arrive := fun i => by
      refine .bind (hcheck.ensures (hsteps 0) fun _ => .inl) fun _ => ensures_visit fun s hs => ?_
      exact keptBy_unintercepted.record _ _ ⟨nofun, id⟩ ⟨hs.stock, hs.learned, hs.trace⟩
    stay := fun _ => id
    step := fun i step row _ _ => by
      have hattempt := ensures_attempt ((lookRule_unintercepted huntil).passFrom 0 _) hact
        (unintercepted_confirmStep.imp (fun _ => id) (fun _ _ => id) fun _ _ => .inl) (fun _ _ => .inl) i step row
      refine (StepRule.ofKeeps (A := fun _ => Unintercepted handlers) (hsteps i) (fun _ => .inl) rfl (fun _ _ _ _ _ => .inl)
        (fun _ s hs => keptBy_unintercepted.told s _ ⟨nofun, id⟩ hs)
        (hattempt.imp (fun _ hs => hs.1) (fun _ _ => id) fun _ _ => Interrupts.recovers)).executeStep
    entered := fun _ _ _ s => keptBy_unintercepted.record s _ ⟨nofun, id⟩
    left := fun _ s => keptBy_unintercepted.record s _ ⟨nofun, id⟩
    around := fun _ _ he => haround he.routine he.undisputed he.ne_observe
    fault := fun _ _ => .inl
    outOfFuel := fun _ => .inl }

end Keeping

/-! ## Runs -/

theorem Raised.split {handlers : List Handler} {event : Event} {s : Session σ} (h : Raised handlers event s)
    {front later past : List Entry} {x : Entry} {event' : Event} (hfront : Undisputed handlers front)
    (hsplit : front ++ s.trace = later ++ x :: past) (hx : x.intercepted? handlers = some event') :
    ∃ before, later = front ++ before ∧ x.ReportedBy event' before := by
  obtain ⟨before, x', past', htrace, hreported, hpast, hfirst, -⟩ := h.reported
  rw [htrace, ← List.append_assoc] at hsplit
  obtain ⟨rfl, rfl, rfl⟩ := (hfront.append hreported.undisputed).split hpast hsplit hx
  have hevent : event = event' := by
    rw [Entry.intercepted?, hfirst] at hx
    exact Option.some.inj (Option.eq_some_of_filter_eq_some hx)
  exact ⟨before, rfl, hevent ▸ hreported⟩

theorem Raised.not_isInquiry {handlers : List Handler} {event : Event} {s : Session σ} (h : Raised handlers event s) :
    ∀ x ∈ s.trace, ¬x.moment.IsInquiry := by
  obtain ⟨later, x, past, htrace, hreported, hpast, -, hx⟩ := h.reported
  have hlater : Undisputed handlers later := hreported.undisputed
  rw [htrace]
  intro y hy
  rcases List.mem_append.1 hy with hy | hy
  · exact (hlater y hy).2
  · rcases List.mem_cons.1 hy with rfl | hy
    · exact hx
    · exact (hpast y hy).2

theorem Session.ended_trace (env : Env σ) (handlers : List Handler) (r : Except RunError Unit) (s : Session σ) :
    ∃ acts ended, (s.ended env r).trace = (acts ++ [ended]) ++ s.trace ∧ OnlyActs acts ∧
      Undisputed handlers (acts ++ [ended]) ∧ ended.moment = .progress (.runEnded (s.report r).outcome (s.report r).resume
        (s.report r).rowsProcessed (s.report r).learned.length) := by
  obtain ⟨acts, ended, htrace, honly, hended⟩ := s.told_trace env (.runEnded (s.report r).outcome (s.report r).resume
    (s.report r).rowsProcessed (s.report r).learned.length)
  refine ⟨acts, ended, htrace.trans (by simp), honly, honly.undisputed.append ?_, hended⟩
  refine List.forall_mem_singleton.2 ⟨intercepted?_eq_none fun events hm => ?_, fun hm => ?_⟩
  · rw [hended] at hm
    cases hm
  · rw [hended] at hm
    exact hm

/-- **The first interception ends the run.**  In a run until interception, whatever its host does and whatever it comes to
execute: once a pass takes up an event that is no benign notice and that no handler of the workflow resolves by itself, the
event is reported and the run is told to have been stopped, which is its outcome, without a place to take it up again; all
else that comes after the look at the surface are acts of the host.  Nobody is asked about an event, no dialog is waited
for, and nothing is learned. -/
theorem runs_end_at_interception (env : Env σ) (huntil : env.options.runUntilInterception = true) (w : Workflow)
    (input : RunInput) (world : World σ) :
    (∀ later x past event, history env w input world = later ++ x :: past → event ∈ x.intercepted? w.handlers →
      ∃ f acts ended before, run env w input world = some f ∧ f.report.outcome = .stopped ∧ f.report.resume = none ∧
        later = acts ++ ended :: before ∧ OnlyActs acts ∧ x.ReportedBy event before ∧
        ended.moment = .progress (.runEnded .stopped none f.report.rowsProcessed f.report.learned.length)) ∧
    (∀ x ∈ history env w input world, ¬x.moment.IsInquiry) ∧
    ∀ f ∈ run env w input world, f.report.learned = [] := by
  have hexecution : Ensures (Unintercepted w.handlers) (execution env w input) (fun _ => Unintercepted w.handlers)
      (Interrupts w.handlers) :=
    ensures_execution (fun _ => (steadyRule_unintercepted huntil w.within_analyze).executeProgram) fun _ _ => .inl
  have hstart : Unintercepted w.handlers (started env w world) :=
    keptBy_unintercepted.told _ _ ⟨nofun, id⟩ ⟨rfl, rfl, fun _ hx => absurd hx List.not_mem_nil⟩
  obtain ⟨r, s, hok, herror, hrun, hhistory⟩ | ⟨s, hout, hrun, hhistory⟩ := run_ensures hexecution world hstart
  · obtain ⟨acts, ended, htrace, honly, hlate, hended⟩ := s.ended_trace env w.handlers r
    rw [hhistory, htrace, hrun]
    have hs : Unintercepted w.handlers s ∨ r = .error .stopped ∧ ∃ event, Raised w.handlers event s := by
      cases r with
      | ok a => exact .inl (hok a rfl)
      | error err =>
        refine (herror err rfl).imp_right fun ⟨hstop, event, hraised, _⟩ => ⟨?_, event, hraised⟩
        cases hstop
        rfl
    have hlearned : ∀ f ∈ some (s.finished env w r), s.learned = [] → f.report.learned = [] := fun f hf hs => by
      cases hf
      exact hs
    rcases hs with hs | ⟨rfl, event, hraised⟩
    · have hall := hlate.append hs.trace
      refine ⟨fun later x past event hsplit hx => ?_, fun x hx => (hall x hx).2, fun f hf => hlearned f hf hs.learned⟩
      have hmem : x ∈ (acts ++ [ended]) ++ s.trace := hsplit ▸ List.mem_append_right _ (.head _)
      rw [(hall x hmem).1] at hx
      cases hx
    · refine ⟨fun later x past event' hsplit hx => ?_, fun x hx => ?_, fun f hf => hlearned f hf hraised.learned⟩
      · obtain ⟨before, rfl, hreported⟩ := hraised.split hlate hsplit hx
        exact ⟨_, acts, ended, before, rfl, rfl, rfl, by simp, honly, hreported, hended⟩
      · exact (List.mem_append.1 hx).elim (fun hx => (hlate x hx).2) (hraised.not_isInquiry x)
  · have hs : Unintercepted w.handlers s := hout.resolve_right fun ⟨hstop, _⟩ => by cases hstop
    rw [hhistory, hrun]
    refine ⟨fun later x past event hsplit hx => ?_, fun x hx => (hs.trace x hx).2, nofun⟩
    rw [(hs.trace x (hsplit ▸ List.mem_append_right _ (.head _))).1] at hx
    cases hx

def connectionLost : Event := .ofText .dialog "Connection lost" ["Retry"]

def disconnecting : Host Bool where
  answer q down :=
    match q with
    | .execute .. => ⟨.ok (), true, []⟩
    | .detect     => ⟨.ok (if down then [connectionLost] else []), down, []⟩
    | q           => ⟨(Host.inert.answer q ()).answer, down, []⟩
  observe _ down := ⟨(), down, []⟩
  elapse _ _ down := ⟨(), down, []⟩
  hasClipboard := false

def triedInLoops : Workflow where
  steps := [
    { kind := .loopStart { mode := .count 2 } },
    { kind := .loopStart { mode := .count 2 } },
    { kind := .action .click { target := some "#x" }, onError := some { mode := .skip, retryCount := 3 } },
    { kind := .loopEnd none },
    { kind := .loopEnd none }]
  handlers := [{ id := "asks", mode := .alwaysAsk, trigger := ⟨.dialog, "Connection lost", .contains, ["Retry"]⟩ }]

def untilInterception : Env Bool :=
  ⟨disconnecting, {}, { learningMode := true, runUntilInterception := true }, 10, ⟨0, 0⟩⟩

/-- The dialog ends the run in the first turn of the loop inside, in the midst of the attempt. -/
theorem lost_connection_ends_run :
    untilInterception.options.runUntilInterception = true ∧
      ∃ later x past f, history untilInterception triedInLoops ⟨⟨"p", []⟩, []⟩ { host := false } = later ++ x :: past ∧
        x.intercepted? triedInLoops.handlers = some connectionLost ∧
        run untilInterception triedInLoops ⟨⟨"p", []⟩, []⟩ { host := false } = some f ∧ f.report.outcome = .stopped ∧
        f.report.resume = none := by
  have hfound : ∃ x ∈ history untilInterception triedInLoops ⟨⟨"p", []⟩, []⟩ { host := false },
      x.intercepted? triedInLoops.handlers = some connectionLost := by decide +kernel
  obtain ⟨x, hx, hintercepted⟩ := hfound
  obtain ⟨later, past, hsplit⟩ := List.append_of_mem hx
  obtain ⟨f, -, -, -, hrun, houtcome, hresume, -⟩ :=
    (runs_end_at_interception untilInterception rfl triedInLoops _ _).1 later x past connectionLost hsplit hintercepted
  exact ⟨rfl, later, x, past, f, hsplit, hintercepted, hrun, houtcome, hresume⟩

end FormReplay
