import FormReplay.Proofs.Engine.Smooth
import FormReplay.Proofs.Sleeping
/-!
# The law of retries

How often a step is tried, and what its policy makes of it.  While nothing stops or pauses the run, a step is tried
until it succeeds, or fails in a way that is not tried again, or its retries are used up; between two tries the clock
moves by the delay of the policy exactly (`tried_until_settled`).
-/
namespace FormReplay

variable {σ : Type} {env : Env σ}

/-! ## Sleeping -/

/-- Since a session so many milliseconds have passed, without anything told or changed that the steps go by. -/
structure RestedFor (ms : Nat) (s₀ s : Session σ) : Prop where
  clear   : s.Clear
  unmoved : Unmoved s₀ s
  clock   : s.world.clock = s₀.world.clock + ms

section Sleeping

variable (hcalm : env.host.Calm)
include hcalm

theorem RestedFor.rested {before ms : Nat} {s₀ s : Session σ} (h : RestedFor before s₀ s) (reason : SleepReason) :
    RestedFor (before + ms) s₀ (s.rested env reason ms) := by
  obtain ⟨hclear, hunmoved⟩ : (s.rested env reason ms).Clear ∧ Unmoved s₀ (s.rested env reason ms) :=
    (keptBy_unmoved s₀).clearly.rested hcalm.within trivial ⟨h.clear, h.unmoved⟩
  refine ⟨hclear, hunmoved, ?_⟩
  rw [Session.rested, Session.accept_clock, ← Nat.add_assoc, ← h.clock]

theorem restedFor_sleepFor (reason : SleepReason) (ms poll : Nat) {before : Nat} {s₀ s : Session σ}
    (h : RestedFor before s₀ s) : ∃ s', sleepFor env reason ms poll s = .ok () s' ∧ RestedFor (before + ms) s₀ s' := by
  induction ms using Nat.strongRecOn generalizing before s with
  | ind ms ih =>
    have hgo : s.world.control.stopped = false := by rw [h.clear]; rfl
    rw [sleepFor_of_not_stopped hgo]
    split
    · rename_i hzero
      exact ⟨s, rfl, hzero ▸ h⟩
    · generalize hnap : min ms (max poll 1) = nap
      obtain ⟨s', hslept, hrested⟩ := ih (ms - nap) (by omega) (h.rested hcalm reason)
      have hsum : before + nap + (ms - nap) = before + ms := by omega
      exact ⟨s', hslept, hsum ▸ hrested⟩

/-- **A sleep lasts as long as it is asked to**, while no flag is set. -/
theorem sleep_exact {s : Session σ} (hs : s.Clear) (reason : SleepReason) (ms : Nat) :
    ∃ s', sleep env reason ms s = .ok () s' ∧ RestedFor ms s s' := by
  have hstart : RestedFor 0 s s := ⟨hs, ⟨rfl, rfl, rfl⟩, rfl⟩
  have hslept := restedFor_sleepFor hcalm reason ms env.config.pausePoll hstart
  rwa [Nat.zero_add] at hslept

end Sleeping

/-! ## What is told of steps -/

def ProgressEvent.isOfStep : ProgressEvent → Bool
  | .stepDryRun .. | .stepStarted .. | .stepCompleted .. | .stepRetry .. | .stepFailed .. => true
  | _ => false

def Session.stepEvents (s : Session σ) : List ProgressEvent := s.events.filter ProgressEvent.isOfStep

theorem Session.stepEvents_told (s : Session σ) {e : ProgressEvent} (he : e.isOfStep = true) :
    (s.told env e).stepEvents = e :: s.stepEvents := by
  rw [stepEvents, events_told, List.filter_cons_of_pos he]
  rfl

theorem Entry.moment_of_event? {e : Entry} {event : ProgressEvent} (h : e.event? = some event) :
    e.moment = .progress event := by
  unfold event? at h
  split at h
  · injection h with h
    rw [← h]
    assumption
  · cases h

theorem stepEvents_attempt (index : Nat) (step : Step) (row : DataRow) (told : List ProgressEvent) :
    Ensures (fun s : Session σ => s.stepEvents = told) (attempt env index step row) (fun _ s => s.stepEvents = told)
      fun _ s => s.stepEvents = told := by
  let M : Moment → Prop := fun m => ∀ e, m = .progress e → e.isOfStep = false
  have hminor : ∀ m : Moment, m.IsMinor → M m := by
    rintro m hm e rfl
    cases e <;> first | rfl | exact hm.elim
  have hattempt : Does env (Operation.Adds M) (attempt env index step row) :=
    (does_attempt_minor hminor (fun _ _ _ => nofun) index row).mono fun _ => And.left
  refine hattempt.ensures_trace (T := fun trace => (trace.filterMap Entry.event?).filter ProgressEvent.isOfStep = told)
    (fun _ _ => nofun) fun e past hm hpast => ?_
  rw [← hpast]
  cases hevent : e.event? with
  | none => rw [List.filterMap_cons_none hevent]
  | some event =>
    have hother : ¬event.isOfStep = true := by rw [hm event (Entry.moment_of_event? hevent)]; exact Bool.false_ne_true
    rw [List.filterMap_cons_some hevent, List.filter_cons_of_neg hother]

/-! ## Tries -/

structure Try (σ : Type) where
  start   : Session σ
  outcome : Except RunError Signal
  ended   : Session σ

def Session.attempting (index : Nat) (s : Session σ) : Session σ :=
  (s.onContext fun c => { c with stepIndex := index }).record (.attempted index)

/-! Lists of tries have the newest first. -/

/-- Where a try after the earlier ones starts: the first at the session, and any other once a retryable error is told of,
with the number of the retry, and the delay has been slept through, no longer and no shorter. -/
def StartsAt (env : Env σ) (index delay : Nat) (s : Session σ) : List (Try σ) → Session σ → Prop
  | [], start           => start = s
  | t :: earlier, start => ∃ e, t.outcome = .error e ∧ e.isRetryable = true ∧
      sleep env .retryDelay delay (t.ended.told env (.stepRetry index (earlier.length + 1) e)) = .ok () start ∧
      RestedFor delay (t.ended.told env (.stepRetry index (earlier.length + 1) e)) start

/-- The tries of a step from a session on; nothing happens between the start of a try and its attempt. -/
inductive Tries (env : Env σ) (index delay : Nat) (once : Engine σ Signal) (s : Session σ) : List (Try σ) → Prop
  | nil : Tries env index delay once s []
  | next {earlier : List (Try σ)} {start ended : Session σ} {outcome : Except RunError Signal}
      (before : Tries env index delay once s earlier) (starts : StartsAt env index delay s earlier start)
      (attempt : observing once (start.attempting index) = .ok outcome ended) :
      Tries env index delay once s (⟨start, outcome, ended⟩ :: earlier)

/-- The retries that were told of if each of the tries was followed by one, the newest first. -/
def retryEvents (index : Nat) : List (Try σ) → List ProgressEvent
  | []           => []
  | t :: earlier =>
    match t.outcome with
    | .ok _    => retryEvents index earlier
    | .error e => .stepRetry index (earlier.length + 1) e :: retryEvents index earlier

def Starves (env : Env σ) (index delay : Nat) (once : Engine σ Signal) (s : Session σ) (tries : List (Try σ))
    (s' : Session σ) : Prop :=
  ∃ start, StartsAt env index delay s tries start ∧
    (env.fuel = 0 ∧ s' = start ∨ observing once (start.attempting index) = .error .outOfFuel s')

/-- What tries come to, with so many retries at most: the last of them succeeds, or fails in a way that is not tried
again, or is the last that is allowed. -/
def SettledAfter (env : Env σ) (index delay : Nat) (once : Engine σ Signal) (s : Session σ) (retries : Nat)
    (tries : List (Try σ)) : EStateM.Result Halt (Session σ) (Except RunError Signal) → Prop
  | .ok outcome s' => ∃ t earlier, tries = t :: earlier ∧ t.outcome = outcome ∧ t.ended = s' ∧ earlier.length ≤ retries ∧
      ∀ e, outcome = .error e → e.isRetryable = true ∧ earlier.length = retries
  | .error (.error e) s' => ∃ t earlier, tries = t :: earlier ∧ t.outcome = .error e ∧ t.ended = s' ∧
      earlier.length ≤ retries ∧ e.isRetryable = false
  | .error .outOfFuel s' => tries.length ≤ retries ∧ Starves env index delay once s tries s'

section Tries

variable {index delay retries : Nat} {once : Engine σ Signal} {s : Session σ}

theorem observing_eq_error {α : Type} {x : Engine σ α} {s s' : Session σ} {halt : Halt}
    (h : observing x s = .error halt s') : halt = .outOfFuel := by
  unfold observing at h
  split at h <;> cases h
  rfl

theorem observing_eq_ok_error {α : Type} {x : Engine σ α} {s s' : Session σ} {e : RunError}
    (h : observing x s = .ok (.error e) s') : x s = .error (.error e) s' := by
  unfold observing at h
  split at h <;> cases h
  assumption

theorem tryOnce_eq {start : Session σ} (hclear : start.Clear) (hfuel : 0 < env.fuel) :
    tryOnce env index once start = match observing once (start.attempting index) with
      | .ok (.ok signal) s' => .ok (.ok signal) s'
      | .ok (.error e) s'   => if e.isRetryable then .ok (.error e) s' else .error (.error e) s'
      | .error halt s'      => .error halt s' := by
  rw [tryOnce, Engine.bind_apply, checkpoint_eq hclear hfuel]
  show (observing once >>= _) (start.attempting index) = _
  rw [Engine.bind_apply]
  cases observing once (start.attempting index) with
  | error halt s' => rfl
  | ok outcome s' =>
    cases outcome with
    | ok signal => rfl
    | error e   => dsimp only; split <;> rfl

theorem attempts_eq (made left : Nat) (start : Session σ) :
    attempts env index delay once made left start = match tryOnce env index once start with
      | .ok (.ok signal) s' => .ok (.ok signal) s'
      | .ok (.error e) s'   =>
        if left = 0 then .ok (.error e) s'
        else (do sleep env .retryDelay delay; attempts env index delay once (made + 1) (left - 1))
          (s'.told env (.stepRetry index (made + 1) e))
      | .error halt s'      => .error halt s' := by
  cases left with
  | zero =>
    rw [attempts]
    cases tryOnce env index once start with
    | error halt s' => rfl
    | ok outcome s' => cases outcome <;> rfl
  | succ left =>
    rw [attempts, Engine.bind_apply]
    cases tryOnce env index once start with
    | error halt s' => rfl
    | ok outcome s' => cases outcome <;> rfl

variable (hcalm : env.host.Calm)
include hcalm

theorem startsAt_of_retryable {t : Try σ} (earlier : List (Try σ)) {e : RunError} (houtcome : t.outcome = .error e)
    (hretryable : e.isRetryable = true) (hended : t.ended.Clear) :
    ∃ next, sleep env .retryDelay delay (t.ended.told env (.stepRetry index (earlier.length + 1) e)) = .ok () next ∧
      StartsAt env index delay s (t :: earlier) next ∧ next.Clear := by
  have htold := hcalm.told rfl (.stepRetry index (earlier.length + 1) e) hended
  obtain ⟨next, hsleep, hrested⟩ := sleep_exact hcalm htold .retryDelay delay
  exact ⟨next, hsleep, ⟨e, houtcome, hretryable, hsleep, hrested⟩, hrested.clear⟩

variable (honce : Ensures Session.Clear once (fun _ => Session.Clear) (Recovers Session.Clear fun _ _ => True))
include honce

theorem settledAfter_attempts {earlier : List (Try σ)} {start : Session σ} (h : Tries env index delay once s earlier)
    (hstart : StartsAt env index delay s earlier start) (hclear : start.Clear) {left : Nat}
    (hleft : earlier.length + left = retries) :
    ∃ tries, Tries env index delay once s tries ∧ SettledAfter env index delay once s retries tries
      (attempts env index delay once earlier.length left start) := by
  -- Only a retryable error with retries left goes on, from where the next try starts; all else settles the tries.
  induction left using Nat.strongRecOn generalizing earlier start with
  | ind left ih =>
    rw [attempts_eq]
    by_cases hfuel : 0 < env.fuel
    · rw [tryOnce_eq hclear hfuel]
      cases hattempt : observing once (start.attempting index) with
      | error halt s' =>
        obtain rfl := observing_eq_error hattempt
        exact ⟨earlier, h, by omega, start, hstart, .inr hattempt⟩
      | ok outcome ended =>
        have htry := h.next hstart hattempt
        cases outcome with
        | ok signal => exact ⟨_, htry, _, _, rfl, rfl, rfl, by omega, nofun⟩
        | error e =>
          dsimp only
          by_cases hretryable : e.isRetryable = true
          · rw [if_pos hretryable]
            dsimp only
            by_cases hnone : left = 0
            · rw [if_pos hnone]
              refine ⟨_, htry, _, _, rfl, rfl, rfl, by omega, fun e' he => ?_⟩
              cases he
              exact ⟨hretryable, by omega⟩
            · have hended : ended.Clear :=
                (honce.error (s := start.attempting index) hclear (observing_eq_ok_error hattempt)).2 e rfl hretryable
              obtain ⟨next, hsleep, hnext, hcalmed⟩ :=
                @startsAt_of_retryable σ env index delay s hcalm ⟨start, .error e, ended⟩ earlier e rfl hretryable hended
              rw [if_neg hnone, Engine.bind_apply, hsleep]
              exact ih (left - 1) (by omega) htry hnext hcalmed (by rw [List.length_cons]; omega)
          · rw [if_neg hretryable]
            exact ⟨_, htry, _, _, rfl, rfl, rfl, by omega, Bool.not_eq_true _ ▸ hretryable⟩
    · have hstarved : tryOnce env index once start = .error .outOfFuel start := by
        rw [tryOnce, Engine.bind_apply, checkpoint_of_not_pos hfuel]
      rw [hstarved]
      exact ⟨earlier, h, by omega, start, hstart, .inl ⟨by omega, rfl⟩⟩

end Tries

/-! ## Steps -/

def ErrorPolicy.verdict (policy : ErrorPolicy) (tables : JumpTables) (index : Nat) (e : RunError) :
    Except RunError Signal :=
  match policy.mode with
  | .skip         => .ok .skip
  | .breakLoop    => .ok .breakLoop
  | .continueLoop => .ok .continueLoop
  | .repeatLoop   => .ok .repeatLoop
  | .goto         =>
    match tables.label? (policy.gotoLabel.getD "") with
    | some target => .ok (.goto target)
    | none        => .error (.structural (.unknownPolicyLabel index (policy.gotoLabel.getD "")))
  | .fail | .inherit => .error e

theorem applyPolicy_eq (tables : JumpTables) (index : Nat) (policy : ErrorPolicy) (e : RunError) :
    (applyPolicy tables index policy e : Engine σ Signal) = ofExcept (policy.verdict tables index e) := by
  unfold applyPolicy ErrorPolicy.verdict
  cases policy.mode with
  | goto => dsimp only; cases tables.label? (policy.gotoLabel.getD "") <;> rfl
  | _    => rfl

/-- How the tries of a step end it, with all that it has told of since it started, the newest first. -/
inductive StepEnds (env : Env σ) (p : Program) (index : Nat) (step : Step) (once : Engine σ Signal) (begun : Session σ) :
    List (Try σ) → List ProgressEvent → EStateM.Result Halt (Session σ) Signal → Prop
  | completed {t : Try σ} {earlier : List (Try σ)} {signal : Signal} (outcome : t.outcome = .ok signal)
      (within : earlier.length ≤ (p.workflow.effectivePolicy step).retryCount.toNat) :
      StepEnds env p index step once begun (t :: earlier)
        (.stepCompleted index step.kind.typeName :: retryEvents index earlier)
        (.ok signal (t.ended.told env (.stepCompleted index step.kind.typeName)))
  /-- The last try fails with an error that no policy applies to. -/
  | ended {t : Try σ} {earlier : List (Try σ)} {e : RunError} (outcome : t.outcome = .error e)
      (final : e.isRetryable = false)
      (within : earlier.length ≤ (p.workflow.effectivePolicy step).retryCount.toNat) :
      StepEnds env p index step once begun (t :: earlier) (retryEvents index earlier) (.error (.error e) t.ended)
  /-- All tries that the policy allows fail, and it tells how to go on. -/
  | exhausted {t : Try σ} {earlier : List (Try σ)} {e : RunError} (outcome : t.outcome = .error e)
      (retryable : e.isRetryable = true)
      (all : earlier.length = (p.workflow.effectivePolicy step).retryCount.toNat) :
      StepEnds env p index step once begun (t :: earlier)
        (.stepFailed index (p.workflow.effectivePolicy step).mode e :: retryEvents index earlier)
        (ofExcept ((p.workflow.effectivePolicy step).verdict p.tables index e)
          (t.ended.told env (.stepFailed index (p.workflow.effectivePolicy step).mode e)))
  | starved {tries : List (Try σ)} {s' : Session σ}
      (within : tries.length ≤ (p.workflow.effectivePolicy step).retryCount.toNat)
      (starves : Starves env index (p.workflow.effectivePolicy step).retryDelay.toNat once begun tries s') :
      StepEnds env p index step once begun tries (retryEvents index tries) (.error .outOfFuel s')

theorem executeStep_eq (hdry : env.options.dryRun = false) (p : Program) (index : Nat) (step : Step) (row : DataRow)
    (s : Session σ) :
    let policy := p.workflow.effectivePolicy step
    executeStep env p index step row s =
      match attempts env index policy.retryDelay.toNat (attempt env index step row) 0 policy.retryCount.toNat
        (s.told env (.stepStarted index step.kind.typeName s.context.rowIndex)) with
      | .ok (.ok signal) s' => .ok signal (s'.told env (.stepCompleted index step.kind.typeName))
      | .ok (.error e) s'   =>
        ofExcept (policy.verdict p.tables index e) (s'.told env (.stepFailed index policy.mode e))
      | .error halt s'      => .error halt s' := by
  intro policy
  have hstep : executeStep env p index step row s =
      (do
        match ← attempts env index policy.retryDelay.toNat (attempt env index step row) 0 policy.retryCount.toNat with
        | .ok signal =>
          report env (.stepCompleted index step.kind.typeName)
          return signal
        | .error e =>
          report env (.stepFailed index policy.mode e)
          applyPolicy p.tables index policy e : Engine σ Signal)
        (s.told env (.stepStarted index step.kind.typeName s.context.rowIndex)) := by
    unfold executeStep
    rw [hdry]
    rfl
  rw [hstep, Engine.bind_apply]
  cases attempts env index policy.retryDelay.toNat (attempt env index step row) 0 policy.retryCount.toNat
    (s.told env (.stepStarted index step.kind.typeName s.context.rowIndex)) with
  | error halt s' => rfl
  | ok outcome s' =>
    cases outcome with
    | ok signal => rfl
    | error e   => dsimp only; rw [← applyPolicy_eq]; rfl

section Law

variable {index delay : Nat} {step : Step} {row : DataRow} {begun : Session σ}

theorem stepEvents_observing (start : Session σ) :
    Ensures (· = start.attempting index) (observing (attempt env index step row))
      (fun _ s => s.stepEvents = start.stepEvents) fun _ s => s.stepEvents = start.stepEvents := by
  refine .observing ((stepEvents_attempt index step row start.stepEvents).imp ?_ (fun _ _ => id) fun e s hs => ?_)
  · rintro s rfl
    rfl
  · cases e <;> exact hs

theorem Tries.stepEvents {tries : List (Try σ)} (h : Tries env index delay (attempt env index step row) begun tries)
    {start : Session σ} (hstart : StartsAt env index delay begun tries start) :
    start.stepEvents = retryEvents index tries ++ begun.stepEvents := by
  induction h generalizing start with
  | nil => rw [show start = begun from hstart]; rfl
  | @next earlier first ended outcome before starts attempt ih =>
    obtain ⟨e, rfl, -, -, hrested⟩ := hstart
    have hended : ended.stepEvents = first.stepEvents := (stepEvents_observing first).ok rfl attempt
    rw [Session.stepEvents, hrested.unmoved.events]
    exact (ended.stepEvents_told rfl).trans (congrArg _ (hended.trans (ih starts)))

theorem Tries.stepEvents_ended {t : Try σ} {earlier : List (Try σ)}
    (h : Tries env index delay (attempt env index step row) begun (t :: earlier)) :
    t.ended.stepEvents = retryEvents index earlier ++ begun.stepEvents := by
  cases h with
  | @next _ start _ _ before starts attempt =>
    exact ((stepEvents_observing start).ok rfl attempt).trans (before.stepEvents starts)

theorem Tries.stepEvents_told {t : Try σ} {earlier : List (Try σ)}
    (h : Tries env index delay (attempt env index step row) begun (t :: earlier)) {event : ProgressEvent}
    (hevent : event.isOfStep = true) :
    (t.ended.told env event).stepEvents = event :: retryEvents index earlier ++ begun.stepEvents := by
  rw [t.ended.stepEvents_told hevent, h.stepEvents_ended]
  rfl

theorem le_of_mem_retryEvents {tries : List (Try σ)} {n : Nat} {e : RunError}
    (h : .stepRetry index n e ∈ retryEvents index tries) : n ≤ tries.length := by
  induction tries with
  | nil => cases h
  | cons t earlier ih =>
    unfold retryEvents at h
    split at h
    · exact Nat.le_succ_of_le (ih h)
    · obtain hlast | hrest := List.mem_cons.1 h
      · injection hlast with _ hn
        exact Nat.le_of_eq hn
      · exact Nat.le_succ_of_le (ih hrest)

variable {p : Program} {tries : List (Try σ)} {events : List ProgressEvent}
  {result : EStateM.Result Halt (Session σ) Signal}

theorem StepEnds.retry_le (h : StepEnds env p index step (attempt env index step row) begun tries events result) {n : Nat}
    {e : RunError} (hmem : .stepRetry index n e ∈ events) : n ≤ (p.workflow.effectivePolicy step).retryCount.toNat := by
  cases h with
  | completed outcome within =>
    have hretried := (List.mem_cons.1 hmem).resolve_left nofun
    exact Nat.le_trans (le_of_mem_retryEvents hretried) within
  | ended outcome final within => exact Nat.le_trans (le_of_mem_retryEvents hmem) within
  | exhausted outcome retryable all =>
    have hretried := (List.mem_cons.1 hmem).resolve_left nofun
    exact Nat.le_trans (le_of_mem_retryEvents hretried) (Nat.le_of_eq all)
  | starved within starves => exact Nat.le_trans (le_of_mem_retryEvents hmem) within

theorem StepEnds.stepEvents (h : StepEnds env p index step (attempt env index step row) begun tries events result)
    (htries : Tries env index (p.workflow.effectivePolicy step).retryDelay.toNat (attempt env index step row) begun tries)
    {x : Engine σ Signal} {s : Session σ} (hx : x s = result) : (s.after x).stepEvents = events ++ begun.stepEvents := by
  unfold Session.after
  rw [hx]
  cases h with
  | completed outcome within => exact htries.stepEvents_told rfl
  | ended outcome final within => exact htries.stepEvents_ended
  | @exhausted _ _ e outcome retryable all =>
    cases (p.workflow.effectivePolicy step).verdict p.tables index e with
    | ok signal => exact htries.stepEvents_told rfl
    | error e'  => exact htries.stepEvents_told rfl
  | starved within starves =>
    obtain ⟨start, hstart, ⟨-, rfl⟩ | hstarves⟩ := starves
    · exact htries.stepEvents hstart
    · exact ((stepEvents_observing start).error rfl hstarves).trans (htries.stepEvents hstart)

theorem stepEnds_of_settledAfter (hdry : env.options.dryRun = false) {s : Session σ}
    (h : SettledAfter env index (p.workflow.effectivePolicy step).retryDelay.toNat (attempt env index step row)
      (s.told env (.stepStarted index step.kind.typeName s.context.rowIndex))
      (p.workflow.effectivePolicy step).retryCount.toNat tries
      (attempts env index (p.workflow.effectivePolicy step).retryDelay.toNat (attempt env index step row) 0
        (p.workflow.effectivePolicy step).retryCount.toNat
        (s.told env (.stepStarted index step.kind.typeName s.context.rowIndex)))) :
    ∃ events, StepEnds env p index step (attempt env index step row)
      (s.told env (.stepStarted index step.kind.typeName s.context.rowIndex)) tries events
      (executeStep env p index step row s) := by
  rw [executeStep_eq hdry]
  revert h
  cases attempts env index (p.workflow.effectivePolicy step).retryDelay.toNat (attempt env index step row) 0
        (p.workflow.effectivePolicy step).retryCount.toNat
        (s.told env (.stepStarted index step.kind.typeName s.context.rowIndex)) with
  | ok outcome s' =>
    rintro ⟨t, earlier, rfl, houtcome, rfl, hwithin, hlast⟩
    cases outcome with
    | ok signal => exact ⟨_, .completed houtcome hwithin⟩
    | error e   => exact ⟨_, .exhausted houtcome (hlast e rfl).1 (hlast e rfl).2⟩
  | error halt s' =>
    cases halt with
    | error e =>
      rintro ⟨t, earlier, rfl, houtcome, rfl, hwithin, hfinal⟩
      exact ⟨_, .ended houtcome hfinal hwithin⟩
    | outOfFuel =>
      rintro ⟨hwithin, hstarves⟩
      exact ⟨_, .starved hwithin hstarves⟩

end Law

/-- **The law of retries.**  Outside a dry run, and while nothing stops or pauses the run, a step starts, and is tried
until a try succeeds, fails with an error that no policy applies to, or is the last that its policy allows; only then does
the policy tell how to go on.  Each other try fails with a retryable error and is followed by a retry, the numbers of which
rise from one to no more than the policy says, and by a sleep of exactly the delay.  Nothing else is told of steps. -/
theorem tried_until_settled (hcalm : env.host.Calm) (hdry : env.options.dryRun = false) {s : Session σ} (hclear : s.Clear)
    (p : Program) (index : Nat) (step : Step) (row : DataRow) :
    let policy := p.workflow.effectivePolicy step
    let once := attempt env index step row
    let started := ProgressEvent.stepStarted index step.kind.typeName s.context.rowIndex
    ∃ tries events,
      Tries env index policy.retryDelay.toNat once (s.told env started) tries ∧
      StepEnds env p index step once (s.told env started) tries events (executeStep env p index step row s) ∧
      (s.after (executeStep env p index step row)).stepEvents = events ++ started :: s.stepEvents ∧
      ∀ n e, .stepRetry index n e ∈ events → n ≤ policy.retryCount.toNat ∧ n < UInt32.size := by
  intro policy once started
  have hbegun : (s.told env started).Clear := hcalm.told rfl started hclear
  have hnone : Tries env index policy.retryDelay.toNat once (s.told env started) [] := .nil
  have hall : ([] : List (Try σ)).length + policy.retryCount.toNat = policy.retryCount.toNat := Nat.zero_add _
  obtain ⟨tries, htries, hsettled⟩ :=
    settledAfter_attempts hcalm (hcalm.ensures_attempt index step row) hnone rfl hbegun hall
  obtain ⟨events, hends⟩ := stepEnds_of_settledAfter hdry hsettled
  refine ⟨tries, events, htries, hends, ?_, fun n e hmem => ?_⟩
  · rw [hends.stepEvents htries rfl, Session.stepEvents_told s rfl]
  · exact ⟨hends.retry_le hmem, Nat.lt_of_le_of_lt (hends.retry_le hmem) policy.retryCount.toNat_lt⟩

def flakyHost : Host Nat where
  answer q n :=
    match q with
    | .execute .. => ⟨if n = 0 then .ok () else .error (.step (.reported "stale")), n - 1, []⟩
    | q           => ⟨(Host.inert.answer q ()).answer, n, []⟩
  observe _ n := ⟨(), n, []⟩
  elapse _ _ n := ⟨(), n, []⟩
  hasClipboard := false

/-- A click that may be tried again twice, and fails once. -/
theorem second_try_succeeds :
    let env : Env Nat := ⟨flakyHost, {}, {}, 1, ⟨0, 0⟩⟩
    let step : Step := { kind := .action .click {}, onError := some { retryCount := 2, retryDelay := 500 } }
    let p : Program := ⟨{ steps := [step] }, {}, ⟨⟨"orders", []⟩, []⟩, 0, true⟩
    let s : Session Nat := { world := { host := 1 } }
    (flakyHost.Calm ∧ env.options.dryRun = false ∧ s.Clear) ∧
      ∃ tries, Tries env 0 500 (attempt env 0 step .empty) (s.told env (.stepStarted 0 "click" 0)) tries ∧
        StepEnds env p 0 step (attempt env 0 step .empty) (s.told env (.stepStarted 0 "click" 0)) tries
          [.stepCompleted 0 "click", .stepRetry 0 1 (.step (.reported "stale"))] (executeStep env p 0 step .empty s) := by
  intro env step p s
  have hcalm : flakyHost.Calm := by
    refine ⟨fun q n act hact => ?_, fun _ _ _ => nofun, fun _ _ _ _ => nofun⟩
    cases q <;> cases hact
  obtain ⟨tries, events, htries, hends, htold, -⟩ :=
    @tried_until_settled Nat env hcalm rfl s rfl p 0 step .empty
  have hevents : (s.after (executeStep env p 0 step .empty)).stepEvents =
      [.stepCompleted 0 "click", .stepRetry 0 1 (.step (.reported "stale"))] ++ [.stepStarted 0 "click" 0] := by
    decide +kernel
  obtain rfl := List.append_cancel_right (htold.symm.trans hevents)
  exact ⟨⟨hcalm, rfl, rfl⟩, tries, htries, hends⟩

end FormReplay
