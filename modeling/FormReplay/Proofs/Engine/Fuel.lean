import FormReplay.Proofs.Engine.Run
/-!
# Fuel

Fuel bounds how far a run is followed and is nothing the run goes by: what is done with some fuel is done in the same
way with more.  So a run that is finished with some fuel is finished with any more, and comes to the same.
-/
namespace FormReplay

variable {σ α β : Type}

def Env.withFuel (env : Env σ) (fuel : Nat) : Env σ := { env with fuel }

/-! ## Going on alike -/

/-- Wherever `x` does not run out of fuel, `y` does the same. -/
def Extends (x y : Engine σ α) : Prop := ∀ s, (∃ s', x s = .error .outOfFuel s') ∨ y s = x s

namespace Extends

theorem refl (x : Engine σ α) : Extends x x := fun _ => .inr rfl

theorem outOfFuel (y : Engine σ α) : Extends (FormReplay.outOfFuel : Engine σ α) y := fun s => .inl ⟨s, rfl⟩

theorem bind {x x' : Engine σ α} {f f' : α → Engine σ β} (hx : Extends x x') (hf : ∀ a, Extends (f a) (f' a)) :
    Extends (x >>= f) (x' >>= f') := by
  intro s
  simp only [Bind.bind, EStateM.bind]
  obtain ⟨s', hout⟩ | hsame := hx s
  · exact .inl ⟨s', by rw [hout]⟩
  · rw [hsame]
    cases x s with
    | ok a s₁    => exact hf a s₁
    | error e s₁ => exact .inr rfl

theorem read {f f' : Session σ → Engine σ α} (hf : ∀ s, Extends (f s) (f' s)) : Extends (get >>= f) (get >>= f') :=
  fun s => hf s s

theorem observing {x x' : Engine σ α} (hx : Extends x x') : Extends (FormReplay.observing x) (FormReplay.observing x') := by
  intro s
  simp only [FormReplay.observing]
  obtain ⟨s', hout⟩ | hsame := hx s
  · exact .inl ⟨s', by rw [hout]⟩
  · exact .inr (by rw [hsame])

theorem ite {c : Prop} [Decidable c] {x x' y y' : Engine σ α} (hx : Extends x x') (hy : Extends y y') :
    Extends (if c then x else y) (if c then x' else y') := by
  split
  · exact hx
  · exact hy

theorem forOption {o : Option α} {f f' : α → Engine σ Unit} (hf : ∀ a, Extends (f a) (f' a)) :
    Extends (o.forM f) (o.forM f') := by
  cases o with
  | none   => exact .refl _
  | some a => exact hf a

end Extends

/-! ## What does not read the fuel -/

section Fuelless

variable (env : Env σ) (fuel : Nat)

theorem sleep_withFuel (reason : SleepReason) (ms : Nat) : sleep (env.withFuel fuel) reason ms = sleep env reason ms := by
  have hnaps : ∀ nap rest n, sleepNaps (env.withFuel fuel) reason nap rest n = sleepNaps env reason nap rest n := by
    intro nap rest n
    induction n with
    | zero => rfl
    | succ n ih => rw [sleepNaps, sleepNaps, ih]; rfl
  exact hnaps _ _ _

theorem finishOutcome_withFuel : finishOutcome (env.withFuel fuel) = finishOutcome env := by
  funext outcome
  simp only [finishOutcome, sleep_withFuel]
  rfl

theorem applyHandler_withFuel : applyHandler (env.withFuel fuel) = applyHandler env := by
  have haction : applyAction (env.withFuel fuel) = applyAction env := by
    funext event action
    cases action with
    | wait ms => exact sleep_withFuel env fuel _ _
    | _       => rfl
  funext event h
  simp only [applyHandler, finishOutcome_withFuel, haction]
  rfl

theorem applyDecision_withFuel : applyDecision (env.withFuel fuel) = applyDecision env := by
  have hfollow : pressFollowUp (env.withFuel fuel) = pressFollowUp env := by
    funext event option
    cases option with
    | none         => rfl
    | some control => simp only [pressFollowUp, sleep_withFuel]; rfl
  funext event d
  simp only [applyDecision, carryOut, finishOutcome_withFuel, hfollow]
  rfl

end Fuelless

/-! ## What reads it -/

section Fuelled

variable {env : Env σ} {fuel : Nat} (h : env.fuel ≤ fuel)

theorem extends_awaitUnpaused (poll : Nat) {k m : Nat} (hkm : k ≤ m) :
    Extends (awaitUnpaused env poll k) (awaitUnpaused (env.withFuel fuel) poll m) := by
  induction k generalizing m with
  | zero => exact .outOfFuel _
  | succ k ih =>
    obtain ⟨m, rfl⟩ : ∃ m', m = m' + 1 := ⟨m - 1, by omega⟩
    refine .bind (.refl _) fun _ => .read fun s => .ite ?_ (.refl _)
    exact .bind (.refl _) fun _ => ih (by omega)

include h

theorem extends_checkpoint : Extends (checkpoint env) (checkpoint (env.withFuel fuel)) := extends_awaitUnpaused _ h

theorem extends_waitFor (w : WaitSpec) : Extends (waitFor env w) (waitFor (env.withFuel fuel) w) := by
  have hpoll : ∀ timeout deadline k m, k ≤ m →
      Extends (pollElement env w timeout deadline k) (pollElement (env.withFuel fuel) w timeout deadline m) := by
    intro timeout deadline k
    induction k with
    | zero => exact fun m _ => .outOfFuel _
    | succ k ih =>
      intro m hkm
      obtain ⟨m, rfl⟩ : ∃ m', m = m' + 1 := ⟨m - 1, by omega⟩
      refine .bind (extends_checkpoint h) fun _ => .bind (.refl _) fun state => .ite (.refl _) ?_
      refine .read fun s => .ite ?_ ?_
      · exact .bind (.refl _) fun _ => .bind (.refl _) fun _ => ih m (by omega)
      · exact .bind (.refl _) fun _ => ih m (by omega)
  exact .read fun s => hpoll _ _ _ _ h

theorem extends_act (step : Step) (spec : ActionSpec) (row : DataRow) :
    Extends (act env step spec row) (act (env.withFuel fuel) step spec row) :=
  .bind (.refl _) fun _ => .bind (.forOption (extends_waitFor h)) fun _ => .bind (.refl _) fun _ =>
    .forOption (extends_waitFor h)

theorem extends_awaitDecision (event : Option Event) (options : List String) :
    Extends (awaitDecision env event options) (awaitDecision (env.withFuel fuel) event options) := by
  have hpoll : ∀ id k m, k ≤ m → Extends (pollDecision env id k) (pollDecision (env.withFuel fuel) id m) := by
    intro id k
    induction k with
    | zero => exact fun m _ => .outOfFuel _
    | succ k ih =>
      intro m hkm
      obtain ⟨m, rfl⟩ : ∃ m', m = m' + 1 := ⟨m - 1, by omega⟩
      refine .bind (.refl _) fun _ => .read fun s => .bind (.refl _) fun _ => ?_
      split
      · exact .refl _
      · exact .bind (.refl _) fun _ => ih m (by omega)
  refine .bind (.refl _) fun id => .read fun s => .bind (.refl _) fun _ => .bind (.refl _) fun _ => .bind (.refl _) fun _ => ?_
  exact .bind (.observing (.bind (.refl _) fun _ => hpoll id _ _ h)) fun _ => .refl _

theorem extends_resolveUnhandled (event : Event) :
    Extends (resolveUnhandled env event) (resolveUnhandled (env.withFuel fuel) event) := by
  have hcleared : ∀ key k m, k ≤ m → Extends (awaitCleared env key k) (awaitCleared (env.withFuel fuel) key m) := by
    intro key k
    induction k with
    | zero => exact fun m _ => .outOfFuel _
    | succ k ih =>
      intro m hkm
      obtain ⟨m, rfl⟩ : ∃ m', m = m' + 1 := ⟨m - 1, by omega⟩
      refine .bind (extends_checkpoint h) fun _ => .bind (.refl _) fun _ => .bind (.refl _) fun events => ?_
      exact .ite (ih m (by omega)) (.refl _)
  unfold resolveUnhandled
  rw [applyDecision_withFuel]
  refine .ite (.refl _) (.ite ?_ (.ite ?_ (.refl _)))
  · exact .bind (extends_awaitDecision h _ _) fun _ => .refl _
  · exact .bind (.refl _) fun _ => .bind (hcleared _ _ _ h) fun _ => .refl _

theorem extends_resolvePass : Extends (resolvePass env) (resolvePass (env.withFuel fuel)) := by
  have hevent : ∀ event, Extends (resolveEvent env event) (resolveEvent (env.withFuel fuel) event) := by
    intro event
    unfold resolveEvent
    rw [applyHandler_withFuel]
    refine .read fun s => .bind (.refl _) fun _ => ?_
    split
    · exact .ite (.refl _) (extends_resolveUnhandled h event)
    · exact extends_resolveUnhandled h event
  have hpass : ∀ n seen, Extends (passFrom env seen n) (passFrom (env.withFuel fuel) seen n) := by
    intro n
    induction n with
    | zero => exact fun seen => .refl _
    | succ n ih =>
      intro seen
      refine .bind (.refl _) fun _ => .bind (.refl _) fun events => .read fun s => ?_
      dsimp only
      split
      · exact .refl _
      · refine .ite (.bind (.refl _) fun _ => ih seen) (.bind (hevent _) fun r => ?_)
        split
        · exact .refl _
        · exact ih _
  exact hpass _ _

theorem extends_attempt (index : Nat) (step : Step) (row : DataRow) :
    Extends (attempt env index step row) (attempt (env.withFuel fuel) index step row) := by
  have hconfirm : Extends (confirmStep env) (confirmStep (env.withFuel fuel)) := by
    unfold confirmStep
    rw [finishOutcome_withFuel]
    exact .bind (extends_awaitDecision h _ _) fun _ => .refl _
  unfold attempt
  split
  · refine .bind (extends_resolvePass h) fun before => .ite (.refl _) ?_
    refine .bind (extends_act h _ _ _) fun _ => .bind (extends_resolvePass h) fun after => .ite (.refl _) ?_
    exact .ite hconfirm (.refl _)
  · exact .refl _

theorem extends_executeStep (p : Program) (index : Nat) (step : Step) (row : DataRow) :
    Extends (executeStep env p index step row) (executeStep (env.withFuel fuel) p index step row) := by
  have htry : Extends (tryOnce env index (attempt env index step row))
      (tryOnce (env.withFuel fuel) index (attempt (env.withFuel fuel) index step row)) :=
    .bind (extends_checkpoint h) fun _ => .bind (.refl _) fun _ => .bind (.refl _) fun _ =>
      .bind (.observing (extends_attempt h index step row)) fun _ => .refl _
  have hattempts : ∀ delay left made, Extends (attempts env index delay (attempt env index step row) made left)
      (attempts (env.withFuel fuel) index delay (attempt (env.withFuel fuel) index step row) made left) := by
    intro delay left
    induction left with
    | zero => exact fun made => htry
    | succ left ih =>
      intro made
      refine .bind htry fun r => ?_
      cases r with
      | ok signal => exact .refl _
      | error e =>
        refine .bind (.refl _) fun _ => .bind ?_ fun _ => ih _
        rw [sleep_withFuel]
        exact .refl _
  refine .read fun s => .ite (.refl _) (.bind (.refl _) fun _ => .bind (hattempts _ _ _) fun _ => .refl _)

/-! ## Loops and walks -/

theorem extends_runLoop (p : Program) (start : Nat) (spec : LoopSpec) (row : DataRow) {body body' : DataRow → Engine σ Signal}
    (hbody : ∀ row, Extends (body row) (body' row)) :
    Extends (runLoop env p start spec row body) (runLoop (env.withFuel fuel) p start spec row body') := by
  have hpositions : ∀ {turn turn' : Nat → Bool → Engine σ Signal}, (∀ i first, Extends (turn i first) (turn' i first)) →
      ∀ limit n position, Extends (overPositions turn limit position n) (overPositions turn' limit position n) := by
    intro turn turn' hturn limit n
    have hsettle : ∀ i left first, Extends (settlePosition (turn i) first left) (settlePosition (turn' i) first left) := by
      intro i left
      induction left with
      | zero => exact fun first => .bind (hturn i first) fun _ => .refl _
      | succ left ih =>
        intro first
        refine .bind (hturn i first) fun signal => ?_
        split
        · exact ih false
        · exact .refl _
    induction n with
    | zero => exact fun position => .refl _
    | succ n ih =>
      intro position
      refine .bind (hsettle _ _ _) fun v => ?_
      cases v with
      | advance => exact ih _
      | _       => exact .refl _
  have hwhile : ∀ {holds holds' : Engine σ Bool} {turn turn' : Nat → Engine σ Signal}, Extends holds holds' →
      (∀ i, Extends (turn i) (turn' i)) → ∀ limit n iteration repeats,
      Extends (whileHolds holds turn limit iteration repeats n) (whileHolds holds' turn' limit iteration repeats n) := by
    intro holds holds' turn turn' hholds hturn limit n
    induction n with
    | zero => exact fun iteration repeats => .refl _
    | succ n ih =>
      intro iteration repeats
      refine .bind hholds fun go => .ite (.refl _) (.bind (hturn _) fun signal => ?_)
      cases signal with
      | repeatLoop => exact .ite (ih _ _) (ih _ _)
      | breakLoop  => exact .refl _
      | goto t     => exact .refl _
      | _          => exact ih _ _
  have hcheck := extends_checkpoint h
  unfold runLoop
  dsimp only
  split
  · exact hpositions (fun i _ => .bind hcheck fun _ => .bind (.refl _) fun _ => hbody row) _ _ _
  · exact hwhile (.bind hcheck fun _ => .refl _) (fun i => .bind (.refl _) fun _ => hbody row) _ _ _ _
  · refine .bind (hpositions (fun i first => ?_) _ _ _) fun _ => .refl _
    exact .bind hcheck fun _ => .bind (.refl _) fun _ => .bind (.refl _) fun _ => hbody _

theorem extends_walk (p : Program) {k m : Nat} (hkm : k ≤ m) (first last index : Nat) (row : DataRow) :
    Extends (walk env p k first last index row) (walk (env.withFuel fuel) p m first last index row) := by
  induction k generalizing m first last index row with
  | zero => exact .outOfFuel _
  | succ k ih =>
    obtain ⟨m, rfl⟩ : ∃ m', m = m' + 1 := ⟨m - 1, by omega⟩
    have hwalk : ∀ first last index row, Extends (walk env p k first last index row)
        (walk (env.withFuel fuel) p m first last index row) := ih (by omega)
    refine .ite (.refl _) (.bind (extends_checkpoint h) fun _ => .bind (.refl _) fun _ => ?_)
    split
    · rename_i step _
      refine .bind ?_ fun move => ?_
      · unfold dispatch
        cases step.kind with
        | loopStart spec =>
          refine .bind (.refl _) fun stop => .bind (extends_runLoop h p index spec row fun row => ?_) fun _ => .refl _
          exact .bind (.refl _) fun _ => .bind (hwalk _ _ _ _) fun _ => .refl _
        | action kind spec => exact .bind (extends_executeStep h p index step row) fun _ => .refl _
        | _ => exact .refl _
      · cases move with
        | advance i    => exact hwalk _ _ _ _
        | jump t       => exact .ite (hwalk _ _ _ _) (.refl _)
        | leave signal => exact .refl _
    · exact .refl _

theorem extends_executeProgram (p : Program) : Extends (executeProgram env p) (executeProgram (env.withFuel fuel) p) := by
  have hrange : ∀ row, Extends (executeRange env p 0 p.workflow.steps.length row)
      (executeRange (env.withFuel fuel) p 0 p.workflow.steps.length row) := fun row =>
    .bind (.refl _) fun _ => .bind (extends_walk h p h _ _ _ _) fun _ => .refl _
  have hrows : ∀ rows position, Extends (executeRows env p position rows)
      (executeRows (env.withFuel fuel) p position rows) := by
    intro rows
    induction rows with
    | nil => exact fun position => .refl _
    | cons row rest ih =>
      exact fun position => .bind (extends_checkpoint h) fun _ => .bind (.refl _) fun _ => .bind (hrange row) fun _ =>
        .bind (.refl _) fun _ => ih _
  exact .ite (.bind (hrange _) fun _ => .refl _) (hrows _ _)

/-- **More fuel changes nothing**: a run that is finished with some fuel comes to the same with any more. -/
theorem run_withFuel {w : Workflow} {input : RunInput} {world : World σ} {f : Finished σ}
    (hf : run env w input world = some f) : run (env.withFuel fuel) w input world = some f := by
  have hconduct : Extends (conduct env w input) (conduct (env.withFuel fuel) w input) := by
    refine .bind (.refl _) fun _ => .ite ?_ (.refl _)
    exact .bind (.observing (extends_executeProgram h _)) fun _ => .refl _
  unfold run at hf ⊢
  obtain ⟨s, hout⟩ | hsame := hconduct (world.session w.handlers)
  · rw [hout] at hf
    cases hf
  · rw [hsame]
    exact hf

end Fuelled

end FormReplay
