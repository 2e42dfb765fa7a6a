import FormReplay.Proofs.Engine.Alike
import FormReplay.Proofs.Validation
/-!
# Smooth runs

A run is smooth if it sees no interruptions and no attempt of a step fails.  A step of such a run leaves the context
as it was and is told of twice, when it starts and when it is completed (`ensures_executeStep_smooth`).  A trace that
is rough stays so, so that whatever comes after the first interruption or failure need not be followed.
-/
namespace FormReplay

variable {σ α : Type} {env : Env σ}

/-! ## Smooth traces -/

/-- No detection found anything, and no step is tried again or given up. -/
def Entry.isSmooth (e : Entry) : Bool :=
  match e.moment with
  | .asked .detect (.ok events)                            => events.isEmpty
  | .progress (.stepRetry ..) | .progress (.stepFailed ..) => false
  | _                                                      => true

def Rough (trace : List Entry) : Prop := ∃ e ∈ trace, e.isSmooth = false

/-- The step whose attempt began last, until it is completed. -/
def underWay? : List Entry → Option Nat
  | [] => none
  | e :: past =>
    match e.moment with
    | .attempted i                  => some i
    | .progress (.stepCompleted ..) => none
    | _                             => underWay? past

/-- A run is smooth if it saw no events and none of its attempts failed: no step was tried again or given up, and
the run did not end within an attempt. -/
structure Finished.Smooth (f : Finished σ) : Prop where
  entries   : ∀ e ∈ f.trace, e.isSmooth = true
  completed : underWay? f.trace.reverse = none

theorem keptBy_rough : KeptBy (fun _ => True) fun s : Session σ => Rough s.trace := by
  refine .ofTrace (fun _ => trivial) fun e past _ h => ?_
  obtain ⟨e', hmem, he'⟩ := h
  exact ⟨e', .tail _ hmem, he'⟩

theorem Does.rough {x : Engine σ α} (h : Does env (Operation.Adds fun _ => True) x) :
    Ensures (fun s => Rough s.trace) x (fun _ s => Rough s.trace) fun _ s => Rough s.trace :=
  h.ensures (fun _ he => keptBy_rough.keeps he fun _ _ hf s hs => by rw [hf.trace_eq]; exact hs) fun _ => id

theorem Ensures.roughly {x : Engine σ α} {P : Session σ → Prop} {Q : α → Session σ → Prop}
    {E : Halt → Session σ → Prop} (hx : Does env (Operation.Adds fun _ => True) x)
    (h : Ensures P x (fun a s => Rough s.trace ∨ Q a s) fun e s => Rough s.trace ∨ E e s) :
    Ensures (fun s => Rough s.trace ∨ P s) x (fun a s => Rough s.trace ∨ Q a s) fun e s => Rough s.trace ∨ E e s := by
  rintro s (hs | hs)
  · exact hx.rough.imp (fun _ => id) (fun _ _ => .inl) (fun _ _ => .inl) s hs
  · exact h s hs

/-! ## Attempts -/

def Session.events (s : Session σ) : List ProgressEvent := s.trace.filterMap Entry.event?

theorem Session.events_told (env : Env σ) (s : Session σ) (event : ProgressEvent) :
    (s.told env event).events = event :: s.events := by
  obtain ⟨acts, e, htrace, honly, he⟩ := s.told_trace env event
  have hevent : e.event? = some event := by rw [Entry.event?, he]
  rw [events, htrace, List.filterMap_append, honly.events, List.filterMap_cons_some hevent]
  rfl

def Moment.IsSilent : Moment → Prop
  | .asked .. | .resolving .. | .judging .. | .slept .. | .acted _ => True
  | _ => False

theorem Moment.Enquires.isSilent {m : Moment} (h : m.Enquires) : m.IsSilent := by
  unfold Moment.Enquires at h
  split at h <;> first | exact h.elim | trivial

/-- Since a session nothing has been told, and nothing is changed that the steps go by. -/
structure Unmoved (s₀ s : Session σ) : Prop where
  context : s.context = s₀.context
  learned : s.learned = s₀.learned
  events  : s.events = s₀.events

theorem keptBy_unmoved (s₀ : Session σ) : KeptBy Moment.IsSilent (Unmoved s₀) where
  acted _ := trivial
  record s m hm hs := by
    refine ⟨hs.context, hs.learned, ?_⟩
    rw [← hs.events]
    cases m <;> first | rfl | exact hm.elim
  world _ _ hs := ⟨hs.context, hs.learned, hs.events⟩

/-- The attempt of a step is under way, and so far it has come to nothing. -/
structure UnderWay (i : Nat) (s₀ s : Session σ) : Prop extends Unmoved s₀ s where
  underWay : underWay? s.trace = some i

theorem keptBy_underWay (i : Nat) (s₀ : Session σ) : KeptBy Moment.IsSilent (UnderWay i s₀) where
  acted _ := trivial
  record s m hm hs := by
    refine ⟨(keptBy_unmoved s₀).record s m hm hs.toUnmoved, ?_⟩
    rw [← hs.underWay]
    cases m <;> first | rfl | exact hm.elim
  world s w hs := ⟨(keptBy_unmoved s₀).world s w hs.toUnmoved, hs.underWay⟩

theorem KeptBy.clearly {M : Moment → Prop} {J : Session σ → Prop} (h : KeptBy M J) :
    Withstands HostAct.IsCalm M fun s : Session σ => s.Clear ∧ J s where
  record s m hm hs := ⟨hs.1, h.record s m hm hs.2⟩
  obey s act hact hs := by
    have hpaused : s.world.control.paused = false := by rw [hs.1]; rfl
    exact ⟨(hact.obey_control hpaused).trans hs.1, h.withstands.obey s act trivial hs.2⟩
  host s _ hs := ⟨hs.1, h.world s _ hs.2⟩
  clock s _ _ hs := ⟨hs.1, h.world s _ hs.2⟩

theorem Host.Calm.within {h : Host σ} (hcalm : h.Calm) : h.Within HostAct.IsCalm :=
  ⟨hcalm.answer, hcalm.observe, hcalm.elapse⟩

theorem checkpoint_of_not_pos {s : Session σ} (hfuel : ¬0 < env.fuel) : checkpoint env s = .error .outOfFuel s := by
  rw [checkpoint, Nat.eq_zero_of_not_pos hfuel]
  rfl

theorem ensures_checkpoint_clear {J : Session σ → Prop} :
    Ensures (fun s => s.Clear ∧ J s) (checkpoint env) (fun _ s => s.Clear ∧ J s) fun e _ => e = .outOfFuel := by
  intro s hs
  by_cases hfuel : 0 < env.fuel
  · rw [checkpoint_eq hs.1 hfuel]
    exact hs
  · rw [checkpoint_of_not_pos hfuel]

section Attempts

variable (hcalm : env.host.Calm) {i : Nat} {s₀ : Session σ}
include hcalm

theorem underWay_act (step : Step) (spec : ActionSpec) (row : DataRow) :
    Ensures (fun s => s.Clear ∧ UnderWay i s₀ s) (act env step spec row) (fun _ s => s.Clear ∧ UnderWay i s₀ s)
      fun _ s => s.Clear ∧ UnderWay i s₀ s := by
  have hlook : ∀ m : Moment, m.IsLook → m.IsSilent := fun m hm => by
    cases m <;> trivial
  have hacts : Does env (Acts step) (act env step spec row) := does_act step spec row fun _ => id
  refine hacts.ensures (fun e he => (keptBy_underWay i s₀).clearly.keeps hcalm.within ?_ ?_) fun _ => id
  · cases he with
    | look he   => exact he.adds hlook
    | execute v => exact fun _ => trivial
  · rintro f rfl
    cases he with
    | look he =>
      cases he with
      | rest he | judges he | values he => cases he

theorem underWay_passFrom (seen n : Nat) :
    Ensures (fun s => s.Clear ∧ UnderWay i s₀ s) (passFrom env seen n)
      (fun r s => Rough s.trace ∨ r = ⟨.next, seen⟩ ∧ s.Clear ∧ UnderWay i s₀ s)
      fun _ s => Rough s.trace ∨ s.Clear ∧ UnderWay i s₀ s := by
  cases n with
  | zero => exact .pure fun s hs => .inr ⟨rfl, hs⟩
  | succ n =>
    have hgo : ∀ s : Session σ, s.Clear → s.world.control.stopped = false := fun s hs => by rw [hs]; rfl
    have hasked : ∀ s : Session σ, s.Clear ∧ UnderWay i s₀ s → (s.answered env .detect).Clear ∧
        UnderWay i s₀ (s.answered env .detect) := fun s hs =>
      (keptBy_underWay i s₀).clearly.answered hcalm.within (fun _ => trivial) hs
    refine .bind (R := fun _ s => s.Clear ∧ UnderWay i s₀ s) (.checkStop (fun s hs _ => hs) fun s hs hstop => ?_) fun _ => ?_
    · rw [hgo s hs.1] at hstop
      cases hstop
    refine .bind (R := fun events s => Rough s.trace ∨ events = [] ∧ s.Clear ∧ UnderWay i s₀ s) (.ask ?_ ?_) fun events => ?_
    · intro s events hs hanswer
      by_cases hevents : events = []
      · exact .inr ⟨hevents, hasked s hs⟩
      · -- What is found makes the trace rough, whatever the host does meanwhile.
        obtain ⟨acts, htrace, -⟩ := (s.record (.asked .detect (env.host.answer .detect s.world.host).answer)).accept_trace
          (env.host.answer .detect s.world.host)
        refine .inl ?_
        rw [Session.answered, htrace, hanswer]
        exact ⟨_, List.mem_append_right _ (.head _), List.isEmpty_eq_false_iff.2 hevents⟩
    · exact fun s e hs _ => .inr (hasked s hs)
    refine .read fun s₁ hs₁ => ?_
    obtain hrough | ⟨rfl, hs₁⟩ := hs₁
    · -- The rest of the pass is as it may be.
      refine Ensures.imp (P := fun s => Rough s.trace) (Q := fun _ s => Rough s.trace) (E := fun _ s => Rough s.trace) ?_
        (fun s hs => hs ▸ hrough) (fun _ _ => .inl) fun _ _ => .inl
      have hall : ∀ m : Moment, m.IsAside → True := fun _ _ => trivial
      have hpass : ∀ seen, Does env (Operation.Adds fun _ => True) (passFrom env seen n) := fun seen =>
        ((handles_passFrom seen n).resolves).ofResolves hall
      dsimp only
      split
      · exact .pure fun _ => id
      · split
        · exact .bind (R := fun _ s => Rough s.trace) (.modifyContext fun _ => id) fun _ => (hpass _).rough
        · refine .bind (((handles_resolveEvent _).resolves).ofResolves hall).rough fun result => ?_
          split
          · exact .pure fun _ => id
          · exact (hpass _).rough
    · exact .pure fun s hs => .inr ⟨rfl, hs ▸ hs₁⟩

theorem underWay_attempt (hlearning : env.options.learningMode = false) (step : Step) (row : DataRow) :
    Ensures (fun s => s.Clear ∧ UnderWay i s₀ s) (attempt env i step row)
      (fun signal s => Rough s.trace ∨ signal = .next ∧ s.Clear ∧ UnderWay i s₀ s)
      fun _ s => Rough s.trace ∨ s.Clear ∧ UnderWay i s₀ s := by
  have hpass : Ensures (fun s => Rough s.trace ∨ s.Clear ∧ UnderWay i s₀ s) (resolvePass env)
      (fun r s => Rough s.trace ∨ r = ⟨.next, 0⟩ ∧ s.Clear ∧ UnderWay i s₀ s)
      fun _ s => Rough s.trace ∨ s.Clear ∧ UnderWay i s₀ s :=
    (underWay_passFrom hcalm 0 _).roughly ((does_resolvePass fun _ => id).ofResolves fun _ _ => trivial)
  have hact : ∀ spec, Ensures (fun s => Rough s.trace ∨ s.Clear ∧ UnderWay i s₀ s) (act env step spec row)
      (fun _ s => Rough s.trace ∨ s.Clear ∧ UnderWay i s₀ s) fun _ s => Rough s.trace ∨ s.Clear ∧ UnderWay i s₀ s := by
    intro spec
    refine .roughly (does_act step spec row fun e he => he.minor (fun _ _ => trivial) fun _ _ => trivial) ?_
    exact (underWay_act hcalm step spec row).imp (fun _ => id) (fun _ _ => .inr) fun _ _ => .inr
  unfold attempt
  split
  · refine .bind (hpass.strengthen fun _ => .inr) fun before => ?_
    split
    · rename_i hsignal
      refine .pure fun s hs => ?_
      obtain hs | ⟨rfl, -⟩ := hs
      · exact .inl hs
      · exact absurd rfl hsignal
    refine .bind ((hact _).strengthen fun s hs => hs.imp id And.right) fun _ => .bind hpass fun after => ?_
    split
    · rename_i hsignal
      refine .pure fun s hs => ?_
      obtain hs | ⟨rfl, -⟩ := hs
      · exact .inl hs
      · exact absurd rfl hsignal
    split
    · rename_i hconfirm
      rw [hlearning] at hconfirm
      cases hconfirm.1
    · exact .pure fun s hs => hs.imp id fun hs => ⟨rfl, hs.2⟩
  · exact .fail fun s hs => .inr hs

end Attempts

/-! ## Steps -/

def Unfinished (e : Halt) (s : Session σ) : Prop := e = .outOfFuel ∨ Rough s.trace ∨ underWay? s.trace ≠ none

theorem rough_told {event : ProgressEvent} (h : ∀ e : Entry, e.moment = .progress event → e.isSmooth = false)
    (s : Session σ) : Rough (s.told env event).trace := by
  obtain ⟨acts, e, htrace, -, he⟩ := s.told_trace env event
  rw [htrace]
  exact ⟨e, List.mem_append_right _ (.head _), h e he⟩

theorem rough_retried (s : Session σ) (i n : Nat) (e : RunError) : Rough (s.told env (.stepRetry i n e)).trace :=
  rough_told (fun entry hentry => by rw [Entry.isSmooth, hentry]) s

theorem rough_failed (s : Session σ) (i : Nat) (mode : ErrorMode) (e : RunError) :
    Rough (s.told env (.stepFailed i mode e)).trace :=
  rough_told (fun entry hentry => by rw [Entry.isSmooth, hentry]) s

/-- What one attempt of a step comes to, as it is seen: it goes on to the next step, or fails while it is under way. -/
def Attempted (i : Nat) (s₀ : Session σ) : Except RunError Signal → Session σ → Prop
  | .ok signal, s => Rough s.trace ∨ signal = .next ∧ s.Clear ∧ UnderWay i s₀ s
  | .error _, s   => Rough s.trace ∨ s.Clear ∧ UnderWay i s₀ s

/-- What the attempts of a step come to: the first of them succeeds, or the trace is about to be rough. -/
def Tried (i : Nat) (s₀ : Session σ) : Except RunError Signal → Session σ → Prop
  | .ok signal, s => Rough s.trace ∨ signal = .next ∧ s.Clear ∧ UnderWay i s₀ s
  | .error _, _   => True

section Steps

variable (hcalm : env.host.Calm) {i : Nat} {s₀ : Session σ} (hclear : s₀.Clear) (hi : s₀.context.stepIndex = i)
  (hlearning : env.options.learningMode = false)
include hcalm hclear hi hlearning

theorem tried_tryOnce (step : Step) (row : DataRow) :
    Ensures (· = s₀) (tryOnce env i (attempt env i step row)) (Tried i s₀) Unfinished := by
  refine .bind (R := fun _ s => s.Clear ∧ s = s₀) ?_ fun _ => ?_
  · exact ensures_checkpoint_clear.imp (fun s hs => ⟨hs ▸ hclear, hs⟩) (fun _ _ => id) fun _ _ => .inl
  refine .bind (R := fun _ s => s = s₀) (.modifyContext fun s hs => ?_) fun _ => ?_
  · rw [hs.2, ← hi]
  refine .bind (R := fun _ s => s.Clear ∧ UnderWay i s₀ s) (.note fun s hs => ?_) fun _ => ?_
  · subst hs
    exact ⟨hclear, ⟨rfl, rfl, rfl⟩, rfl⟩
  refine .bind (R := Attempted i s₀) (.observing ?_) fun r => ?_
  · refine (underWay_attempt hcalm hlearning step row).imp (fun _ => id) (fun _ _ => id) fun e s hs => ?_
    cases e with
    | error e   => exact hs
    | outOfFuel => exact .inl rfl
  · cases r with
    | ok signal => exact .pure fun s hs => hs
    | error e =>
      dsimp only
      split
      · exact .pure fun _ _ => trivial
      · exact .fail fun s hs => .inr (hs.imp id fun hs => by rw [hs.2.underWay]; exact Option.some_ne_none i)

theorem tried_attempts (step : Step) (row : DataRow) (delay made left : Nat) :
    Ensures (· = s₀) (attempts env i delay (attempt env i step row) made left) (Tried i s₀) Unfinished := by
  have htry := tried_tryOnce hcalm hclear hi hlearning step row
  cases left with
  | zero => exact htry
  | succ left =>
    refine .bind htry fun r => ?_
    cases r with
    | ok signal => exact .pure fun s hs => hs
    | error e =>
      have hattempt : Does env (Operation.Adds fun _ => True) (attempt env i step row) :=
        does_attempt_adds (fun _ _ => trivial) (fun _ _ _ => trivial) i step row
      have hagain : Does env (Operation.Adds fun _ => True) (do
          sleep env .retryDelay delay
          attempts env i delay (attempt env i step row) (made + 1) left) :=
        .bind (does_sleep delay fun e he => he.adds fun _ _ => trivial) fun _ =>
          does_attempts (fun _ he => he.adds (fun _ _ => trivial) fun _ => trivial) (fun _ => trivial) trivial hattempt _ _ _
      refine .bind (R := fun _ s => Rough s.trace) (.report fun s _ => rough_retried s _ _ _) fun _ => ?_
      refine hagain.rough.imp (fun _ => id) (fun r s hs => ?_) fun _ _ hs => .inr (.inl hs)
      cases r with
      | ok signal => exact .inl hs
      | error e   => trivial

/-- **A step of a smooth run** gives the next step, leaves what the steps go by, and is told of when it starts and when
it is completed. -/
theorem ensures_executeStep_smooth (hdry : env.options.dryRun = false) (p : Program) (step : Step) (row : DataRow) :
    Ensures (· = s₀) (executeStep env p i step row)
      (fun signal s => Rough s.trace ∨ signal = .next ∧ s.Clear ∧ s.context = s₀.context ∧ s.learned = s₀.learned ∧
        s.events = .stepCompleted i step.kind.typeName ::
          .stepStarted i step.kind.typeName s₀.context.rowIndex :: s₀.events) Unfinished := by
  let s₁ := s₀.told env (.stepStarted i step.kind.typeName s₀.context.rowIndex)
  obtain ⟨hlearned, hcontext⟩ : s₁.learned = s₀.learned ∧ s₁.context = s₀.context := s₀.told_learned _
  have hevents : s₁.events = _ := s₀.events_told env _
  have hclear₁ : s₁.Clear := hcalm.told rfl _ hclear
  have hi₁ : s₁.context.stepIndex = i := by rw [hcontext, hi]
  refine .read fun s₀' hs₀ => ?_
  subst hs₀
  dsimp only
  rw [hdry, if_neg Bool.false_ne_true]
  refine .bind (R := fun _ s => s = s₁) (.report fun s hs => by rw [hs]) fun _ => ?_
  refine .bind (tried_attempts hcalm hclear₁ hi₁ hlearning step row _ _ _) fun r => ?_
  cases r with
  | ok signal =>
    refine .bind (R := fun _ s => _) (.report fun s hs => ?_) fun _ => .pure fun s hs => hs
    refine hs.imp (keptBy_rough.told s _ trivial) fun ⟨hsignal, hclear, hunder⟩ => ?_
    let s₂ := s.told env (.stepCompleted i step.kind.typeName)
    obtain ⟨hlearned', hcontext'⟩ : s₂.learned = s.learned ∧ s₂.context = s.context := s.told_learned _
    refine ⟨hsignal, hcalm.told rfl _ hclear, ?_, ?_, ?_⟩
    · rw [hcontext', hunder.context, hcontext]
    · rw [hlearned', hunder.learned, hlearned]
    · rw [s.events_told, hunder.events, hevents]
  | error e =>
    refine .bind (R := fun _ s => Rough s.trace) (.report fun s _ => rough_failed s _ _ _) fun _ => ?_
    have hpolicy : Does env (Operation.Adds fun _ => True) (applyPolicy p.tables i (p.workflow.effectivePolicy step) e) :=
      does_applyPolicy (fun _ => trivial) _ _ _ e
    exact hpolicy.rough.imp (fun _ => id) (fun _ _ => .inl) fun _ _ hs => .inr (.inl hs)

end Steps

end FormReplay
