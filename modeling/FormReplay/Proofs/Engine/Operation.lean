import FormReplay.Proofs.Engine.Ensures
/-!
# What an action is made of

The engine touches its session by few operations: it asks, reports, notes, sleeps, edits and fails.  An
action `Does env F` if all its operations are of `F`, however its choices fall.  What every operation keeps,
the action keeps (`Does.ensures`), and it reads nothing of the trace, to which it only adds
(`Does.addsTo`).  So each function of the engine is taken apart once, in `Footprint`.
-/
namespace FormReplay

variable {σ α β : Type}

inductive Operation (σ : Type) : Type 1
  | ask (q : Query)
  | report (event : ProgressEvent)
  | note (m : Moment)
  | sleep (reason : SleepReason) (ms : Nat)
  | edit (f : Session σ → Session σ)
  | fail (e : RunError)
  /-- Going on after an error. -/
  | observe
  | whole {α : Type} (x : Engine σ α)

/-- An edit that does not hang on the trace and leaves it as it is. -/
def Blind (f : Session σ → Session σ) : Prop := ∀ s T, f { s with trace := T } = { f s with trace := T }

theorem Blind.trace_eq {f : Session σ → Session σ} (h : Blind f) (s : Session σ) : (f s).trace = s.trace := by
  have hs : f s = { f s with trace := s.trace } := h s s.trace
  rw [hs]

/-- All operations of an action are of `F`.  What it reads and how it edits does not hang on the trace. -/
inductive Does (env : Env σ) (F : Operation σ → Prop) : {α : Type} → Engine σ α → Prop
  | pure {α : Type} (a : α) : Does env F (pure a : Engine σ α)
  | bind {α β : Type} {x : Engine σ α} {f : α → Engine σ β} (hx : Does env F x) (hf : ∀ a, Does env F (f a)) :
      Does env F (x >>= f)
  | read {α : Type} {f : Session σ → Engine σ α} (blind : ∀ s T, f { s with trace := T } = f s)
      (hf : ∀ s, Does env F (f s)) : Does env F (get >>= f)
  | ask {q : Query} (h : F (.ask q)) : Does env F (ask env q)
  | report {e : ProgressEvent} (h : F (.report e)) : Does env F (report env e)
  | note {m : Moment} (h : F (.note m)) : Does env F (note m)
  | sleep {reason : SleepReason} {ms : Nat} (h : F (.sleep reason ms)) : Does env F (pass env reason ms)
  | edit {f : Session σ → Session σ} (blind : Blind f) (h : F (.edit f)) : Does env F (modify f)
  | fail {α : Type} {e : RunError} (h : F (.fail e)) : Does env F (fail e : Engine σ α)
  | outOfFuel {α : Type} : Does env F (outOfFuel : Engine σ α)
  | observing {α : Type} {x : Engine σ α} (h : F .observe) (hx : Does env F x) : Does env F (observing x)
  | whole {α : Type} {x : Engine σ α} (h : F (.whole x)) : Does env F x

variable {env : Env σ} {F G : Operation σ → Prop}

namespace Does

theorem mono {x : Engine σ α} (h : Does env F x) (hFG : ∀ e, F e → G e) : Does env G x := by
  induction h with
  | pure a           => exact .pure a
  | bind _ _ hx hf   => exact .bind hx hf
  | read blind _ hf  => exact .read blind hf
  | ask h            => exact .ask (hFG _ h)
  | report h         => exact .report (hFG _ h)
  | note h           => exact .note (hFG _ h)
  | sleep h          => exact .sleep (hFG _ h)
  | edit blind h     => exact .edit blind (hFG _ h)
  | fail h           => exact .fail (hFG _ h)
  | outOfFuel        => exact .outOfFuel
  | observing h _ hx => exact .observing (hFG _ h) hx
  | whole h          => exact .whole (hFG _ h)

theorem unfold {x : Engine σ α} (h : Does env F x)
    (hwhole : ∀ {γ : Type} (y : Engine σ γ), F (.whole y) → Does env G y)
    (hFG : ∀ e, F e → (∀ {γ : Type} (y : Engine σ γ), e ≠ .whole y) → G e) : Does env G x := by
  induction h with
  | pure a           => exact .pure a
  | bind _ _ hx hf   => exact .bind hx hf
  | read blind _ hf  => exact .read blind hf
  | ask h            => exact .ask (hFG _ h nofun)
  | report h         => exact .report (hFG _ h nofun)
  | note h           => exact .note (hFG _ h nofun)
  | sleep h          => exact .sleep (hFG _ h nofun)
  | edit blind h     => exact .edit blind (hFG _ h nofun)
  | fail h           => exact .fail (hFG _ h nofun)
  | outOfFuel        => exact .outOfFuel
  | observing h _ hx => exact .observing (hFG _ h nofun) hx
  | whole h          => exact hwhole _ h

end Does

/-! ## What every operation keeps -/

/-- An operation keeps an invariant where it succeeds, and leaves `E` where it ends early. -/
def Operation.Keeps (env : Env σ) (I : Session σ → Prop) (E : Halt → Session σ → Prop) : Operation σ → Prop
  | .ask q           => Ensures I (FormReplay.ask env q) (fun _ => I) E
  | .report e        => ∀ s, I s → I (s.told env e)
  | .note m          => ∀ s, I s → I (s.record m)
  | .sleep reason ms => ∀ s, I s → I (s.rested env reason ms)
  | .edit f          => Blind f → ∀ s, I s → I (f s)
  | .fail e          => ∀ s, I s → E (.error e) s
  | .observe         => ∀ e s, E (.error e) s → I s
  | .whole x         => Ensures I x (fun _ => I) E

theorem Operation.Keeps.weaken {I : Session σ → Prop} {E E' : Halt → Session σ → Prop} {e : Operation σ}
    (h : e.Keeps env I E) (hE : ∀ err s, E err s → E' err s) (hobserve : e ≠ .observe) : e.Keeps env I E' := by
  cases e with
  | ask q   => exact Ensures.imp h (fun _ => id) (fun _ _ => id) hE
  | fail e  => exact fun s hs => hE _ s (h s hs)
  | whole x => exact Ensures.imp h (fun _ => id) (fun _ _ => id) hE
  | observe => exact absurd rfl hobserve
  | report _ | note _ | sleep _ _ | edit _ => exact h

theorem Operation.Keeps.andConst {I : Session σ → Prop} {E : Halt → Session σ → Prop} {e : Operation σ}
    (h : e.Keeps env I E) (hobserve : e ≠ .observe) (C : Prop) : e.Keeps env (fun s => I s ∧ C) E := by
  have hensures : ∀ {α : Type} {x : Engine σ α}, Ensures I x (fun _ => I) E →
      Ensures (fun s => I s ∧ C) x (fun _ s => I s ∧ C) E :=
    fun hx => .fix fun s₀ hs₀ => (hx.weaken fun _ s hs => ⟨hs, hs₀.2⟩).strengthen fun s hs => hs ▸ hs₀.1
  cases e with
  | ask q              => exact hensures h
  | fail e             => exact fun s hs => h s hs.1
  | whole x            => exact hensures h
  | observe            => exact absurd rfl hobserve
  | edit f             => exact fun hf s hs => ⟨h hf s hs.1, hs.2⟩
  | report e           => exact fun s hs => ⟨h s hs.1, hs.2⟩
  | note m             => exact fun s hs => ⟨h s hs.1, hs.2⟩
  | sleep reason ms    => exact fun s hs => ⟨h s hs.1, hs.2⟩

/-- **What every operation of an action keeps, the action keeps.** -/
theorem Does.ensures {I : Session σ → Prop} {E : Halt → Session σ → Prop} {x : Engine σ α} (h : Does env F x)
    (hF : ∀ e, F e → e.Keeps env I E) (hfuel : ∀ s, I s → E .outOfFuel s) : Ensures I x (fun _ => I) E := by
  induction h with
  | pure a => exact .pure fun _ => id
  | bind _ _ hx hf => exact .bind hx hf
  | read _ _ hf => exact .read fun s₀ hs₀ => (hf s₀).strengthen fun s hs => hs ▸ hs₀
  | ask h => exact hF _ h
  | report h => exact .report (hF _ h)
  | note h => exact .note (hF _ h)
  | sleep h => exact .pass (hF _ h)
  | edit blind h => exact .modify (hF _ h blind)
  | fail h => exact .fail (hF _ h)
  | outOfFuel => exact .outOfFuel hfuel
  | observing h _ hx =>
    refine .observing (hx.imp (fun _ => id) (fun _ _ => id) fun e s hs => ?_)
    cases e with
    | error e   => exact hF _ h e s hs
    | outOfFuel => exact hs
  | whole h => exact hF _ h

/-! ## The trace is written and not read -/

def withTrace (T : List Entry) : EStateM.Result Halt (Session σ) α → EStateM.Result Halt (Session σ) α
  | .ok a s    => .ok a { s with trace := T }
  | .error e s => .error e { s with trace := T }

/-- An action adds entries to the trace, the same whatever stands there before. -/
def AddsTo (x : Engine σ α) : Prop :=
  ∀ s, ∃ new, ∀ T, x { s with trace := T } = withTrace (new ++ T) (x s)

theorem Session.accept_addsTo (s : Session σ) (r : Reply σ α) :
    ∃ new, ∀ T, ({ s with trace := T } : Session σ).accept r = { s.accept r with trace := new ++ T } := by
  obtain ⟨answer, host, acts⟩ := r
  suffices h : ∀ (acts : List HostAct) (s : Session σ), ∃ new, ∀ T,
      acts.foldl obey { s with trace := T } = { acts.foldl obey s with trace := new ++ T } from
    h acts { s with world.host := host }
  intro acts
  induction acts with
  | nil => exact fun s => ⟨[], fun T => rfl⟩
  | cons act acts ih =>
    intro s
    obtain ⟨new, hnew⟩ := ih (s.obey act)
    refine ⟨new ++ [⟨s.world.clock, s.world.control, s.context, .acted act⟩], fun T => ?_⟩
    rw [List.foldl_cons, List.foldl_cons, List.append_assoc, ← hnew]
    cases act <;> rfl

namespace AddsTo

theorem bind {x : Engine σ α} {f : α → Engine σ β} (hx : AddsTo x) (hf : ∀ a, AddsTo (f a)) :
    AddsTo (x >>= f) := by
  intro s
  obtain ⟨new, hnew⟩ := hx s
  simp only [Bind.bind, EStateM.bind]
  cases h : x s with
  | ok a s₁ =>
    obtain ⟨more, hmore⟩ := hf a s₁
    refine ⟨more ++ new, fun T => ?_⟩
    rw [hnew, h, List.append_assoc]
    exact hmore (new ++ T)
  | error e s₁ => exact ⟨new, fun T => by rw [hnew, h]; rfl⟩

theorem observing {x : Engine σ α} (hx : AddsTo x) : AddsTo (FormReplay.observing x) := by
  intro s
  obtain ⟨new, hnew⟩ := hx s
  refine ⟨new, fun T => ?_⟩
  have h := hnew T
  unfold FormReplay.observing
  rw [h]
  cases x s with
  | ok a s₁    => rfl
  | error e s₁ => cases e <;> rfl

theorem ask (env : Env σ) (q : Query) : AddsTo (FormReplay.ask env q) := by
  intro s
  let r := env.host.answer q s.world.host
  obtain ⟨new, hnew⟩ := (s.record (.asked q r.answer)).accept_addsTo r
  refine ⟨new ++ [⟨s.world.clock, s.world.control, s.context, .asked q r.answer⟩], fun T => ?_⟩
  have h : ({ s with trace := T } : Session σ).answered env q =
      { s.answered env q with trace := new ++ ⟨s.world.clock, s.world.control, s.context, .asked q r.answer⟩ :: T } :=
    hnew _
  have ask_eq : ∀ s' : Session σ, FormReplay.ask env q s' =
      FormReplay.ofExcept (env.host.answer q s'.world.host).answer (s'.answered env q) := fun _ => rfl
  rw [ask_eq, ask_eq, h, List.append_assoc]
  cases (env.host.answer q s.world.host).answer <;> rfl

end AddsTo

/-- **An action taken apart adds to the trace**, if what was taken as a whole does. -/
theorem Does.addsTo {x : Engine σ α} (h : Does env F x)
    (hwhole : ∀ {γ : Type} (y : Engine σ γ), F (.whole y) → AddsTo y) : AddsTo x := by
  induction h with
  | pure a => exact fun s => ⟨[], fun T => rfl⟩
  | bind _ _ hx hf => exact hx.bind hf
  | read blind _ hf =>
    intro s
    obtain ⟨new, hnew⟩ := hf s s
    exact ⟨new, fun T => (congrFun (blind s T) _).trans (hnew T)⟩
  | ask _ => exact .ask env _
  | @report e _ =>
    intro s
    obtain ⟨new, hnew⟩ := (s.record (.progress e)).accept_addsTo (env.host.observe e s.world.host)
    refine ⟨new ++ [⟨s.world.clock, s.world.control, s.context, .progress e⟩], fun T => ?_⟩
    rw [List.append_assoc]
    exact congrArg (EStateM.Result.ok ()) (hnew _)
  | @note m _ => exact fun s => ⟨[⟨s.world.clock, s.world.control, s.context, m⟩], fun T => rfl⟩
  | @sleep reason ms _ =>
    intro s
    obtain ⟨new, hnew⟩ := { s.record (.slept reason ms) with world.clock := s.world.clock + ms }.accept_addsTo
      (env.host.elapse s.world.clock (s.world.clock + ms) s.world.host)
    refine ⟨new ++ [⟨s.world.clock, s.world.control, s.context, .slept reason ms⟩], fun T => ?_⟩
    rw [List.append_assoc]
    exact congrArg (EStateM.Result.ok ()) (hnew _)
  | edit blind _ => exact fun s => ⟨[], fun T => congrArg (EStateM.Result.ok ()) (blind s T)⟩
  | fail _ => exact fun s => ⟨[], fun T => rfl⟩
  | outOfFuel => exact fun s => ⟨[], fun T => rfl⟩
  | observing _ _ hx => exact hx.observing
  | whole h => exact hwhole _ h

end FormReplay
