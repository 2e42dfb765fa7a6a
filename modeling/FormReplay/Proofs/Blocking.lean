import FormReplay.Proofs.Engine.Trace
/-!
# No step is executed into an interruption

Before a step is executed a pass looks for interruptions, resolves the first that is not acknowledged, and looks
again.  So the last detection before an execution found nothing new, or the pass was cut short: each of its
rounds, as many as its depth allows, found something new and dealt with it.
-/
namespace FormReplay

variable {σ α : Type} {env : Env σ}

/-! ## Reading passes off the trace -/

/-- The events of the last detection, unless it failed. -/
def lastDetected? : List Entry → Option (List Event)
  | [] => none
  | e :: past =>
    match e.moment with
    | .asked .detect (.ok events) => some events
    | .asked .detect (.error _)   => none
    | _                           => lastDetected? past

/-- The last detection found nothing that is not acknowledged. -/
def Clear (c : Context) (past : List Entry) : Prop :=
  ∃ events, lastDetected? past = some events ∧ ∀ event ∈ events, c.acknowledged.contains event.patternKey = true

/-- A detection that comes now opens a round of a pass: it follows the beginning of an attempt, a report, or another
detection.  Detections that wait for something follow a sleep, a press or a request. -/
def poised : List Entry → Bool
  | [] => false
  | e :: past =>
    match e.moment with
    | .acted _                                      => poised past
    | .attempted _ | .progress _ | .asked .detect _ => true
    | _                                             => false

/-- The rounds since the last attempt began that found something not acknowledged. -/
def rounds : List Entry → Nat
  | [] => 0
  | e :: past =>
    match e.moment with
    | .attempted _ => 0
    | .asked .detect (.ok events) =>
      if poised past && events.any fun event => !e.context.acknowledged.contains event.patternKey then rounds past + 1
      else rounds past
    | _ => rounds past

/-- A step is executed only if the last detection found nothing new, or after so many rounds that did. -/
def Unblocked (depth : Nat) (e : Entry) (past : List Entry) : Prop :=
  match e.moment with
  | .asked (.execute _ _) _ => Clear e.context past ∨ depth ≤ rounds past
  | _                       => True

theorem Moment.IsAside.not_isExecution {m : Moment} (h : m.IsAside) : ¬m.IsExecution := by
  intro hexecution
  unfold Moment.IsExecution at hexecution
  split at hexecution <;> first | exact h | exact hexecution

theorem unblocked_of_not {depth : Nat} {e : Entry} (past : List Entry) (h : ¬e.moment.IsExecution) :
    Unblocked depth e past := by
  unfold Unblocked
  split <;> rename_i hm
  · rw [hm] at h
    exact absurd trivial h
  · trivial

theorem le_rounds_cons {k : Nat} {e : Entry} {past : List Entry} (h : k ≤ rounds past) (he : e.moment.IsAside) :
    k ≤ rounds (e :: past) := by
  unfold rounds
  split <;> rename_i hm
  · rw [hm] at he
    exact he.elim
  · split
    · exact Nat.le_succ_of_le h
    · exact h
  · exact h

theorem poised_acts {acts : List Entry} (h : OnlyActs acts) (past : List Entry) : poised (acts ++ past) = poised past :=
  h.append_eq (fun e past act hact => by rw [poised, hact]) past

theorem rounds_acts {acts : List Entry} (h : OnlyActs acts) (past : List Entry) : rounds (acts ++ past) = rounds past :=
  h.append_eq (fun e past act hact => by rw [rounds, hact]) past

theorem lastDetected?_acts {acts : List Entry} (h : OnlyActs acts) (past : List Entry) :
    lastDetected? (acts ++ past) = lastDetected? past :=
  h.append_eq (fun e past act hact => by rw [lastDetected?, hact]) past

/-! ## Rounds -/

theorem poised_told (s : Session σ) (event : ProgressEvent) : poised (s.told env event).trace = true := by
  obtain ⟨acts, hacts, honly⟩ := (s.record (.progress event)).accept_trace (env.host.observe event s.world.host)
  have : (s.told env event).trace = acts ++ _ := hacts
  rw [this, poised_acts honly]
  rfl

theorem poised_detected (s : Session σ) : poised (s.answered env .detect).trace = true := by
  obtain ⟨acts, hacts, honly⟩ := (s.record (.asked .detect _)).accept_trace (env.host.answer .detect s.world.host)
  have : (s.answered env .detect).trace = acts ++ _ := hacts
  rw [this, poised_acts honly]
  rfl

theorem answered_detect {s : Session σ} {events : List Event}
    (h : (env.host.answer .detect s.world.host).answer = .ok events) :
    lastDetected? (s.answered env .detect).trace = some events ∧
      rounds (s.answered env .detect).trace =
        if poised s.trace && events.any fun event => !s.context.acknowledged.contains event.patternKey
        then rounds s.trace + 1 else rounds s.trace := by
  obtain ⟨acts, hacts, honly⟩ := (s.record (.asked .detect _)).accept_trace (env.host.answer .detect s.world.host)
  have : (s.answered env .detect).trace = acts ++ _ := hacts
  rw [this, lastDetected?_acts honly, rounds_acts honly, h]
  exact ⟨rfl, rfl⟩

def Settles (P : Session σ → Prop) (x : Engine σ (Option α)) : Prop :=
  Ensures P x (fun r s => r = none → poised s.trace = true) fun _ _ => True

theorem settles_finishOutcome (outcome : Outcome) :
    Settles (fun s => poised s.trace = true) (finishOutcome env outcome) := by
  unfold finishOutcome Settles
  split
  · exact .bind (.anything _) fun _ => .fail fun _ _ => trivial
  · exact .pure fun s hs _ => hs
  · exact .bind (.anything _) fun _ => .pure fun s _ => nofun

theorem settles_applyHandler (event : Event) (h : Handler) : Settles (fun _ => True) (applyHandler env event h) := by
  refine .bind (.anything _) fun _ => .bind (.anything _) fun s => ?_
  exact .bind (R := fun _ s => poised s.trace = true) (.report fun s _ => poised_told s _) fun _ => settles_finishOutcome _

theorem settles_applyDecision (event : Event) (d : Decision) :
    Settles (fun _ => True) (applyDecision env event d) := by
  have hlearn : ∀ actions, Ensures (fun s => poised s.trace = true) (learn env event d actions)
      (fun _ s => poised s.trace = true) fun _ _ => True := by
    intro actions
    refine .read fun s hs => ?_
    dsimp only
    split
    · exact .pure fun s' hs' => hs' ▸ hs
    · exact .bind (R := fun _ s => poised s.trace = true) (.report fun s _ => poised_told s _) fun _ =>
        .modify fun s hs => hs
  refine .bind (.anything _) fun actions => ?_
  have hrest : Settles (fun _ => True) (do
      report env (.decisionApplied d.id (← get).context.stepIndex (some d.action) d.outcome)
      if d.saveRule then learn env event d actions
      finishOutcome env d.outcome) := by
    refine .bind (.anything _) fun s => ?_
    refine .bind (R := fun _ s => poised s.trace = true) (.report fun s _ => poised_told s _) fun _ => ?_
    dsimp only
    split
    · exact .bind (hlearn actions) fun _ => settles_finishOutcome _
    · exact settles_finishOutcome _
  dsimp only
  split
  · exact .bind (.anything _) fun _ => hrest
  · exact hrest

theorem settles_resolveUnhandled (event : Event) :
    Settles (fun s => poised s.trace = true) (resolveUnhandled env event) := by
  unfold resolveUnhandled
  dsimp only
  split
  · exact .bind (.anything _) fun _ => .bind (R := fun _ _ => False) (.fail fun _ _ => trivial) nofun
  · split
    · exact .bind (.anything _) fun d => settles_applyDecision event d
    · split
      · refine .bind (.anything _) fun _ => .bind (R := fun _ s => poised s.trace = true) ?_ fun _ => ?_
        · induction env.fuel with
          | zero => exact .outOfFuel fun _ _ => trivial
          | succ fuel ih =>
            refine .bind (.anything _) fun _ => .bind (.anything _) fun _ => ?_
            refine .bind (R := fun _ s => poised s.trace = true)
              (.ask (fun s _ _ _ => poised_detected s) fun _ _ _ _ => trivial) fun events => ?_
            split
            · exact ih.strengthen fun _ _ => trivial
            · exact .pure fun s hs => hs
        · exact .pure fun s hs _ => hs
      · exact .bind (R := fun _ s => poised s.trace = true) (.modifyContext fun s hs => hs) fun _ => .pure fun s hs _ => hs

theorem settles_resolveEvent (event : Event) : Settles (fun _ => True) (resolveEvent env event) := by
  refine .bind (.anything _) fun s => ?_
  refine .bind (R := fun _ s => poised s.trace = true) (.report fun s _ => poised_told s _) fun _ => ?_
  split
  · split
    · exact (settles_applyHandler event _).strengthen fun _ _ => trivial
    · exact settles_resolveUnhandled event
  · exact settles_resolveUnhandled event

/-! ## Passes -/

def Guarded (depth : Nat) (trace : List Entry) : Prop := Always (Unblocked depth) trace

theorem Guarded.cons {depth : Nat} {e : Entry} {past : List Entry} (h : Guarded depth past)
    (he : ¬e.moment.IsExecution) : Guarded depth (e :: past) :=
  ⟨unblocked_of_not past he, h⟩

theorem keptBy_guarded (depth : Nat) : KeptBy (fun m => ¬m.IsExecution) fun s : Session σ => Guarded depth s.trace :=
  .ofTrace (fun _ => id) fun _ _ he h => h.cons he

/-- The pass may go on: the next detection opens a round, after so many. -/
def Going (depth k : Nat) (s : Session σ) : Prop :=
  Guarded depth s.trace ∧ poised s.trace = true ∧ k ≤ rounds s.trace

def Ready (depth : Nat) (s : Session σ) : Prop := Clear s.context s.trace ∨ depth ≤ rounds s.trace

/-- Resolving an event: unless it ends the pass with a loop signal, the pass may go on. -/
theorem going_resolveEvent (depth k : Nat) (event : Event) :
    Ensures (fun s => Guarded depth s.trace ∧ k ≤ rounds s.trace) (resolveEvent env event)
      (fun r s => Guarded depth s.trace ∧ (r = none → Going depth k s) ∧ ∀ signal ∈ r, signal.isLoopControl = true)
      fun _ s => Guarded depth s.trace := by
  have hresolve : Does env (Operation.Adds Moment.IsAside) (resolveEvent env event) :=
    .ofResolves (fun _ => id) (does_resolveEvent (fun _ => id) event)
  have hkeeps := hresolve.ensures_trace (T := fun trace => Guarded depth trace ∧ k ≤ rounds trace) (fun _ => trivial)
    fun e past he h => ⟨h.1.cons he.not_isExecution, le_rounds_cons h.2 he⟩
  refine ((hkeeps.and (settles_resolveEvent event)).and (returns_resolveEvent event)).imp
    (fun s hs => ⟨⟨hs, trivial⟩, trivial⟩) (fun r s hs => ?_) fun e s hs => hs.1.1.1
  obtain ⟨⟨⟨hguarded, hrounds⟩, hpoised⟩, hsignal⟩ := hs
  exact ⟨hguarded, fun hr => ⟨hguarded, hpoised hr, hrounds⟩, hsignal⟩

/-- What a detection in a pass finds is the last that was detected, and a round if there is something new. -/
def Found (depth k : Nat) (events : List Event) (s : Session σ) : Prop :=
  Guarded depth s.trace ∧ poised s.trace = true ∧ lastDetected? s.trace = some events ∧
    ((events.any fun event => !s.context.acknowledged.contains event.patternKey) = true → k + 1 ≤ rounds s.trace)

theorem found_detect (depth k : Nat) :
    Ensures (Going depth k) (ask env .detect) (fun events s => Found depth k events s) fun _ s => Guarded depth s.trace := by
  have hguarded : ∀ s : Session σ, Guarded depth s.trace → Guarded depth (s.answered env .detect).trace :=
    fun s => (keptBy_guarded depth).answered s .detect fun _ => id
  have hcontext : ∀ s : Session σ, (s.answered env .detect).context = s.context := by
    intro s
    have hkept : KeptBy (fun _ => True) fun s' : Session σ => s'.context = s.context :=
      ⟨fun _ => trivial, fun _ _ _ => id, fun _ _ => id⟩
    exact hkept.answered s .detect (fun _ => trivial) rfl
  refine .ask (fun s events hs hevents => ?_) fun s e hs _ => hguarded s hs.1
  obtain ⟨hlast, hrounds⟩ := answered_detect hevents
  refine ⟨hguarded s hs.1, poised_detected s, hlast, fun hany => ?_⟩
  rw [hcontext] at hany
  rw [hrounds, hs.2.1, hany]
  exact Nat.succ_le_succ hs.2.2

/-- **A pass that gives no signal leaves nothing to resolve, or spent all its rounds.** -/
theorem ensures_passFrom (depth seen k n : Nat) :
    Ensures (Going depth k) (passFrom env seen n)
      (fun r s => Guarded depth s.trace ∧ (r.signal = .next → Ready (k + n) s)) fun _ s => Guarded depth s.trace := by
  induction n generalizing seen k with
  | zero => exact .pure fun s hs => ⟨hs.1, fun _ => .inr hs.2.2⟩
  | succ n ih =>
    have hnext : ∀ seen, Ensures (Going depth (k + 1)) (passFrom env seen n)
        (fun r s => Guarded depth s.trace ∧ (r.signal = .next → Ready (k + (n + 1)) s)) fun _ s => Guarded depth s.trace := by
      intro seen
      rw [Nat.add_comm n 1, ← Nat.add_assoc]
      exact ih seen (k + 1)
    refine .bind (R := fun _ => Going depth k) (.checkStop (fun s hs _ => hs) fun s hs _ => hs.1) fun _ => ?_
    refine .bind (found_detect depth k) fun events => .read fun s₀ ⟨hguarded, hpoised, hlast, hround⟩ => ?_
    dsimp only
    split
    · rename_i hnone
      refine .pure fun s hs => hs ▸ ⟨hguarded, fun _ => .inl ⟨events, hlast, fun event hevent => ?_⟩⟩
      simpa using List.find?_eq_none.1 hnone event hevent
    · rename_i event hsome
      have hrounds : k + 1 ≤ rounds s₀.trace := by
        refine hround (List.any_eq_true.2 ⟨event, List.mem_of_find?_eq_some hsome, ?_⟩)
        exact List.find?_some (p := fun event : Event => !s₀.context.acknowledged.contains event.patternKey) hsome
      split
      · refine .bind (R := fun _ => Going depth (k + 1)) (.modifyContext fun s hs => ?_) fun _ => hnext seen
        exact hs ▸ ⟨hguarded, hpoised, hrounds⟩
      · refine .bind ((going_resolveEvent depth (k + 1) event).strengthen fun s hs => hs ▸ ⟨hguarded, hrounds⟩) fun r => ?_
        cases r with
        | some signal =>
          refine .pure fun s hs => ⟨hs.1, fun hsignal => ?_⟩
          have hloop := hs.2.2 signal rfl
          rw [show signal = .next from hsignal] at hloop
          cases hloop
        | none => exact (hnext _).strengthen fun s hs => hs.2.1 rfl

/-! ## Attempts -/

theorem keptBy_ready (depth : Nat) : KeptBy Moment.IsLook fun s : Session σ => Guarded depth s.trace ∧ Ready depth s := by
  refine ⟨fun _ => trivial, fun s m hm hs => ⟨hs.1.cons hm.isAside.not_isExecution, ?_⟩, fun s w hs => hs⟩
  rcases hs.2 with ⟨events, hlast, hclear⟩ | hrounds
  · refine .inl ⟨events, ?_, hclear⟩
    have : lastDetected? (s.record m).trace = lastDetected? s.trace := by
      unfold Moment.IsLook at hm
      split at hm <;> first | rfl | exact hm.elim
    rw [this]
    exact hlast
  · exact .inr (le_rounds_cons hrounds hm.isAside)

theorem ensures_looks {depth : Nat} {x : Engine σ α} (hx : Does env Looks x) :
    Ensures (fun s => Guarded depth s.trace ∧ Ready depth s) x (fun _ s => Guarded depth s.trace ∧ Ready depth s)
      fun _ s => Guarded depth s.trace := by
  have hkeeps : ∀ e : Operation σ, Looks e → e.Keeps env (fun s => Guarded depth s.trace ∧ Ready depth s)
      fun _ s => Guarded depth s.trace ∧ Ready depth s := by
    intro e he
    refine (keptBy_ready depth).keeps (he.adds fun _ => id) fun f hf => ?_
    subst hf
    cases he with
    | rest he | judges he | values he => cases he
  exact (hx.ensures hkeeps fun _ => id).imp (fun _ => id) (fun _ _ => id) fun _ _ hs => hs.1

section Attempt

variable {depth : Nat}

theorem guarded_aside {x : Engine σ α} (hx : Does env (Operation.Adds Moment.IsAside) x) :
    Ensures (fun s => Guarded depth s.trace) x (fun _ s => Guarded depth s.trace) fun _ s => Guarded depth s.trace :=
  hx.ensures_trace (fun _ => trivial) fun _ _ he h => h.cons he.not_isExecution

theorem guarded_execute (step : Step) (value : Option String) :
    Ensures (fun s => Guarded depth s.trace ∧ Ready depth s) (ask env (.execute step value))
      (fun _ s => Guarded depth s.trace) fun _ s => Guarded depth s.trace := by
  have hanswered : ∀ s : Session σ, Guarded depth s.trace ∧ Ready depth s →
      Guarded depth (s.answered env (.execute step value)).trace := by
    intro s hs
    let r := env.host.answer (.execute step value) s.world.host
    have hrecord : Guarded depth (s.record (.asked (.execute step value) r.answer)).trace := ⟨hs.2, hs.1⟩
    exact (keptBy_guarded depth).accept _ r hrecord
  exact .ask (fun s _ hs _ => hanswered s hs) fun s _ hs _ => hanswered s hs

theorem guarded_act (step : Step) (spec : ActionSpec) (row : DataRow) :
    Ensures (fun s => Guarded depth s.trace ∧ Ready depth s) (act env step spec row) (fun _ s => Guarded depth s.trace)
      fun _ s => Guarded depth s.trace := by
  have hwait : ∀ w : WaitSpec, Does env Looks (waitFor env w) := fun w => does_waitFor w fun _ => id
  have hafter : ∀ w : WaitSpec, Does env (Operation.Adds Moment.IsAside) (waitFor env w) :=
    fun w => (hwait w).mono fun _ he => he.adds fun _ => Moment.IsLook.isAside
  refine .bind (ensures_looks (does_valueFor row spec.value fun _ => id)) fun value => ?_
  refine .bind (ensures_looks (.ofOption hwait)) fun _ => ?_
  exact .bind (guarded_execute step value) fun _ => guarded_aside (.ofOption hafter)

/-- An attempt executes its step only when it is ready: the pass before it left nothing, or spent all its rounds. -/
theorem guarded_attempt (index : Nat) (step : Step) (row : DataRow) :
    Ensures (fun s => Guarded env.config.passDepth s.trace ∧ s.Begins index) (attempt env index step row)
      (fun _ s => Guarded env.config.passDepth s.trace) fun _ s => Guarded env.config.passDepth s.trace := by
  have hresolves : ∀ {β : Type} {x : Engine σ β}, Does env (Resolves env) x →
      Does env (Operation.Adds Moment.IsAside) x := fun hx => hx.ofResolves fun _ => id
  unfold attempt
  split
  · rename_i spec hspec
    have hbefore : Ensures (Going env.config.passDepth 0) (resolvePass env) _ _ := ensures_passFrom _ 0 0 _
    rw [Nat.zero_add] at hbefore
    refine .bind (hbefore.strengthen fun s hs => ⟨hs.1, ?_, Nat.zero_le _⟩) fun before => ?_
    · obtain ⟨e, past, htrace, he⟩ := hs.2
      rw [htrace, poised, he]
    · split
      · exact .pure fun s hs => hs.1
      · rename_i hnext
        refine .bind ((guarded_act step spec row).strengthen fun s hs => ⟨hs.1, hs.2 (Decidable.not_not.1 hnext)⟩) fun _ => ?_
        refine .bind (guarded_aside (hresolves (does_resolvePass fun _ => id))) fun after => ?_
        split
        · exact .pure fun s hs => hs
        · split
          · exact guarded_aside (hresolves (does_confirmStep fun _ => id))
          · exact .pure fun s hs => hs
  · exact .fail fun s hs => hs.1

end Attempt

/-! ## Runs -/

/-- **No step is executed into an interruption**: in every run, whatever the host does, the last detection before
an execution found nothing that is not acknowledged, or each round of the pass before it, as many as its depth
allows, found something and dealt with it. -/
theorem executions_unblocked (env : Env σ) (w : Workflow) (input : RunInput) (world : World σ) :
    Always (Unblocked env.config.passDepth) (history env w input world) := by
  let depth := env.config.passDepth
  have hM : ∀ m : Moment, m.IsAside → ¬m.IsExecution := fun _ => Moment.IsAside.not_isExecution
  have keeps : ∀ e : Operation σ, e.Adds (fun m => ¬m.IsExecution) →
      e.Keeps env (fun s => Guarded depth s.trace) fun _ s => Guarded depth s.trace :=
    fun e he => he.keeps (fun _ => id) fun _ _ hm h => h.cons hm
  have hrule : ProgramRule env (w.program w.analyze.1 input env.options) (fun _ _ s => Guarded depth s.trace)
      fun _ s => Guarded depth s.trace := {
    tables := w.within_analyze
    visit := fun _ _ _ _ _ _ _ _ hs => hs.cons id
    enter := fun _ _ _ _ _ _ _ _ hs => hs.cons id
    leave := fun _ _ _ _ _ _ hs => hs.cons id
    step := fun f _ i step _ _ => (guarded_attempt i step f.row).imp (fun _ => id) (fun _ _ => id)
      fun _ _ hs => ⟨hs, fun _ _ _ => hs⟩
    failed := fun _ _ _ _ _ s _ hs => (keptBy_guarded depth).told s _ id hs
    around := by
      rintro goal f outer i e (he | he)
      · exact keeps e (he.adds hM fun _ => id)
      · exact keeps e (he.adds hM)
    miss := fun _ _ _ _ _ _ _ _ => id
    outOfFuel := fun _ _ _ => id
    range := fun row s hs => hs.cons id
    rows := fun e he => keeps e (he.adds hM)
    escaped := fun _ _ _ => id }
  exact history_of_program (T := Guarded depth) (U := Guarded depth) trivial (fun e past he h => h.cons he.not_isExecution)
    (fun e past he h => h.cons he.not_isExecution) (fun _ => id) (fun _ => hrule.executeProgram) world

/-! ## Passes that are cut short -/

/-- A step is executed only if the last detection found no dialog that is not acknowledged. -/
def Undisturbed (e : Entry) (past : List Entry) : Prop :=
  match e.moment with
  | .asked (.execute _ _) _ =>
    ∀ event ∈ (lastDetected? past).getD [], event.kind = .dialog → e.context.acknowledged.contains event.patternKey = true
  | _ => True

instance : DecidableRel Undisturbed := fun e past =>
  match e with
  | ⟨_, _, c, .asked (.execute _ _) _⟩ => inferInstanceAs (Decidable (∀ event ∈ (lastDetected? past).getD [],
      event.kind = .dialog → c.acknowledged.contains event.patternKey = true))
  | ⟨_, _, _, .asked .detect _⟩ | ⟨_, _, _, .asked (.press _ _) _⟩ | ⟨_, _, _, .asked (.dismiss _) _⟩
  | ⟨_, _, _, .asked (.inspect _) _⟩ | ⟨_, _, _, .asked .clipboard _⟩ | ⟨_, _, _, .asked (.request _) _⟩
  | ⟨_, _, _, .asked (.resolve _ _) _⟩ | ⟨_, _, _, .asked (.judge _ _) _⟩
  | ⟨_, _, _, .resolving _ _⟩ | ⟨_, _, _, .judging _ _⟩
  | ⟨_, _, _, .progress _⟩ | ⟨_, _, _, .visited _⟩ | ⟨_, _, _, .acted _⟩ | ⟨_, _, _, .slept _ _⟩
  | ⟨_, _, _, .entered _ _ _⟩ | ⟨_, _, _, .attempted _⟩ | ⟨_, _, _, .left _⟩ => isTrue trivial

def beset : Host Unit where
  answer q s :=
    match q with
    | .detect => ⟨.ok [⟨.notice, "", "", []⟩, ⟨.dialog, "", "", []⟩], s, []⟩
    | q       => Host.inert.answer q s
  observe := Host.inert.observe
  elapse := Host.inert.elapse
  hasClipboard := false

/-- A pass of depth one acknowledges the notice and is over: the step is executed into the dialog. -/
theorem cut_short_executes :
    ¬Always Undisturbed (history ⟨beset, { passDepth := 1 }, {}, 10, ⟨0, 0⟩⟩
      { steps := [{ kind := .action .click { target := some "#x" } }] } ⟨⟨"", []⟩, []⟩ { host := () }) := by
  decide +kernel

end FormReplay
