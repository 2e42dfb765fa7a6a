import FormReplay.Run.Conduct
/-!
# What an action ensures

`Ensures P x Q E` reads an engine action from every session with `P`: where it succeeds, its value and
the session it leaves satisfy `Q`; where it ends early, the reason and the session satisfy `E`.  Running
out of fuel is one of the reasons, so a session reached on the way to nothing is spoken of as well.
One rule per operation of the engine, and one each for sequences and choices.
-/
namespace FormReplay

variable {σ α β : Type}

def Ensures (P : Session σ → Prop) (x : Engine σ α) (Q : α → Session σ → Prop)
    (E : Halt → Session σ → Prop) : Prop :=
  ∀ s, P s → match x s with
    | .ok a s'    => Q a s'
    | .error e s' => E e s'

/-- The session that an action leaves, whether it succeeds or ends early. -/
def Session.after (x : Engine σ α) (s : Session σ) : Session σ :=
  match x s with
  | .ok _ s'    => s'
  | .error _ s' => s'

theorem Engine.bind_apply (x : Engine σ α) (f : α → Engine σ β) (s : Session σ) :
    (x >>= f) s = match x s with
      | .ok a s'    => f a s'
      | .error e s' => .error e s' := by
  simp only [bind, EStateM.bind]
  cases x s <;> rfl

theorem Engine.get_apply (s : Session σ) : (get : Engine σ (Session σ)) s = .ok s s := rfl

namespace Ensures

variable {P P' : Session σ → Prop} {Q Q' : α → Session σ → Prop} {E E' : Halt → Session σ → Prop}

theorem after {x : Engine σ α} {R : Session σ → Prop} (h : Ensures P x (fun _ => R) fun _ => R) {s : Session σ} (hs : P s) :
    R (s.after x) := by
  have hx := h s hs
  unfold Session.after
  cases hxs : x s with
  | ok a s'    => rw [hxs] at hx; exact hx
  | error e s' => rw [hxs] at hx; exact hx

theorem after_bind {x : Engine σ α} {f : α → Engine σ β} {R : Session σ → Prop}
    (hf : ∀ a, Ensures R (f a) (fun _ => R) fun _ => R) {s : Session σ} (h : R (s.after x)) : R (s.after (x >>= f)) := by
  rw [Session.after] at h
  rw [Session.after, Engine.bind_apply]
  cases hx : x s with
  | ok a s'    => rw [hx] at h; exact (hf a).after h
  | error e s' => rw [hx] at h; exact h

theorem ok {x : Engine σ α} (h : Ensures P x Q E) {s s' : Session σ} {a : α} (hs : P s) (hx : x s = .ok a s') :
    Q a s' := by
  have := h s hs
  rwa [hx] at this

theorem error {x : Engine σ α} (h : Ensures P x Q E) {s s' : Session σ} {e : Halt} (hs : P s)
    (hx : x s = .error e s') : E e s' := by
  have := h s hs
  rwa [hx] at this

theorem imp {x : Engine σ α} (h : Ensures P x Q E) (hP : ∀ s, P' s → P s) (hQ : ∀ a s, Q a s → Q' a s)
    (hE : ∀ e s, E e s → E' e s) : Ensures P' x Q' E' := by
  intro s hs
  have := h s (hP s hs)
  split <;> rename_i hx <;> rw [hx] at this
  · exact hQ _ _ this
  · exact hE _ _ this

theorem strengthen {x : Engine σ α} (h : Ensures P x Q E) (hP : ∀ s, P' s → P s) : Ensures P' x Q E :=
  h.imp hP (fun _ _ => id) (fun _ _ => id)

theorem weaken {x : Engine σ α} (h : Ensures P x Q E) (hQ : ∀ a s, Q a s → Q' a s) : Ensures P x Q' E :=
  h.imp (fun _ => id) hQ (fun _ _ => id)

theorem and {x : Engine σ α} (h : Ensures P x Q E) (h' : Ensures P' x Q' E') :
    Ensures (fun s => P s ∧ P' s) x (fun a s => Q a s ∧ Q' a s) (fun e s => E e s ∧ E' e s) := by
  intro s ⟨hs, hs'⟩
  have h := h s hs
  have h' := h' s hs'
  split <;> rename_i hx <;> rw [hx] at h h' <;> exact ⟨h, h'⟩

theorem fix {x : Engine σ α} (h : ∀ s₀, P s₀ → Ensures (· = s₀) x Q E) : Ensures P x Q E :=
  fun s hs => h s hs s rfl

theorem anything (x : Engine σ α) : Ensures P x (fun _ _ => True) fun _ _ => True := by
  intro s _
  split <;> trivial

/-! ## Sequences -/

theorem pure {a : α} (h : ∀ s, P s → Q a s) : Ensures P (Pure.pure a : Engine σ α) Q E := h

theorem bind {x : Engine σ α} {f : α → Engine σ β} {R : α → Session σ → Prop} {Q : β → Session σ → Prop}
    (hx : Ensures P x R E) (hf : ∀ a, Ensures (R a) (f a) Q E) : Ensures P (x >>= f) Q E := by
  intro s hs
  have hs' := hx s hs
  simp only [Bind.bind, EStateM.bind]
  cases hxs : x s with
  | ok a s'    => rw [hxs] at hs'; exact hf a s' hs'
  | error e s' => rw [hxs] at hs'; exact hs'

theorem read {f : Session σ → Engine σ α} (h : ∀ s₀, P s₀ → Ensures (· = s₀) (f s₀) Q E) :
    Ensures P (get >>= f) Q E :=
  fun s hs => h s hs s rfl

/-! ## Operations -/

theorem modify {f : Session σ → Session σ} {Q : Unit → Session σ → Prop} (h : ∀ s, P s → Q () (f s)) :
    Ensures P (MonadStateOf.modifyGet fun s => ((), f s) : Engine σ Unit) Q E := h

theorem fail {e : RunError} (h : ∀ s, P s → E (.error e) s) : Ensures P (FormReplay.fail e : Engine σ α) Q E := h

theorem outOfFuel (h : ∀ s, P s → E .outOfFuel s) : Ensures P (FormReplay.outOfFuel : Engine σ α) Q E := h

theorem observing {x : Engine σ α} {Q : Except RunError α → Session σ → Prop}
    (h : Ensures P x (fun a => Q (.ok a)) fun
      | .error e   => Q (.error e)
      | .outOfFuel => E .outOfFuel) : Ensures P (FormReplay.observing x) Q E := by
  intro s hs
  have hs' := h s hs
  simp only [FormReplay.observing]
  split at hs'
  · rename_i hx; simp only [hx]; exact hs'
  · rename_i e _ hx
    cases e <;> simp only [hx] <;> exact hs'

theorem ofExcept {r : Except RunError α} (hok : ∀ a s, r = .ok a → P s → Q a s)
    (herror : ∀ e s, r = .error e → P s → E (.error e) s) : Ensures P (FormReplay.ofExcept r) Q E := by
  cases r with
  | ok a    => exact .pure fun s hs => hok a s rfl hs
  | error e => exact .fail fun s hs => herror e s rfl hs

end Ensures

def Session.answered (env : Env σ) (q : Query) (s : Session σ) : Session σ :=
  let r := env.host.answer q s.world.host
  (s.record (.asked q r.answer)).accept r

def Session.told (env : Env σ) (e : ProgressEvent) (s : Session σ) : Session σ :=
  (s.record (.progress e)).accept (env.host.observe e s.world.host)

def Session.rested (env : Env σ) (reason : SleepReason) (ms : Nat) (s : Session σ) : Session σ :=
  let r := s.record (.slept reason ms)
  { r with world.clock := s.world.clock + ms }.accept
    (env.host.elapse s.world.clock (s.world.clock + ms) s.world.host)

namespace Ensures

variable {P : Session σ → Prop} {E : Halt → Session σ → Prop} {env : Env σ}

theorem ask {q : Query} {Q : q.Answer → Session σ → Prop}
    (hok : ∀ s a, P s → (env.host.answer q s.world.host).answer = .ok a → Q a (s.answered env q))
    (herror : ∀ s e, P s → (env.host.answer q s.world.host).answer = .error e → E (.error e) (s.answered env q)) :
    Ensures P (FormReplay.ask env q) Q E := by
  refine .read fun s hs => ?_
  refine .bind (R := fun _ s' => s' = s.answered env q) (fun _ h => h ▸ rfl) fun _ => ?_
  refine .ofExcept (fun a s' ha h => ?_) (fun e s' he h => ?_)
  · exact h ▸ hok s a hs ha
  · exact h ▸ herror s e hs he

theorem report {e : ProgressEvent} {Q : Unit → Session σ → Prop} (h : ∀ s, P s → Q () (s.told env e)) :
    Ensures P (FormReplay.report env e) Q E := h

theorem note {m : Moment} {Q : Unit → Session σ → Prop} (h : ∀ s, P s → Q () (s.record m)) :
    Ensures P (FormReplay.note m) Q E := h

theorem pass {reason : SleepReason} {ms : Nat} {Q : Unit → Session σ → Prop}
    (h : ∀ s, P s → Q () (s.rested env reason ms)) : Ensures P (FormReplay.pass env reason ms) Q E := h

theorem modifyContext {f : Context → Context} {Q : Unit → Session σ → Prop}
    (h : ∀ s, P s → Q () { s with context := f s.context }) : Ensures P (FormReplay.modifyContext f) Q E := h

theorem modifyControl {f : Control → Control} {Q : Unit → Session σ → Prop}
    (h : ∀ s, P s → Q () { s with world.control := f s.world.control }) :
    Ensures P (FormReplay.modifyControl f) Q E := h

theorem checkStop {Q : Unit → Session σ → Prop} (hgo : ∀ s, P s → s.world.control.stopped = false → Q () s)
    (hstop : ∀ s, P s → s.world.control.stopped = true → E (.error .stopped) s) :
    Ensures P FormReplay.checkStop Q E := by
  refine .read fun s hs => ?_
  cases h : s.world.control.stopped with
  | true  => exact .fail fun s' hs' => hs' ▸ hstop s hs h
  | false => exact .pure fun s' hs' => hs' ▸ hgo s hs h

end Ensures

end FormReplay
