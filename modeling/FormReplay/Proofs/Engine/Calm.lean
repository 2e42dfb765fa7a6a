import FormReplay.Proofs.Engine.Frame
/-!
# Calm hosts

A calm host neither stops nor pauses the run.  Under it the flags stay clear, but for the holds and stops of the
engine itself: a hold ends before the step does, and a stop ends the run.
-/
namespace FormReplay

variable {σ α : Type} {env : Env σ}

def HostAct.IsCalm : HostAct → Prop
  | .stop | .pause    => False
  | .resume | .post _ => True

/-- The host never stops or pauses the run, whatever it is asked or told and however time passes. -/
structure Host.Calm (h : Host σ) : Prop where
  answer (q : Query) (s : σ) : ∀ act ∈ (h.answer q s).acts, act.IsCalm
  observe (e : ProgressEvent) (s : σ) : ∀ act ∈ (h.observe e s).acts, act.IsCalm
  elapse (before after : Nat) (s : σ) : ∀ act ∈ (h.elapse before after s).acts, act.IsCalm

theorem Host.calm_inert : Host.inert.Calm where
  answer q s act hact := by cases q <;> cases hact
  observe _ _ _ hact := by cases hact
  elapse _ _ _ _ hact := by cases hact

theorem HostAct.IsCalm.obey_control {act : HostAct} (h : act.IsCalm) {s : Session σ}
    (hs : s.world.control.paused = false) : (s.obey act).world.control = s.world.control := by
  cases act with
  | stop   => exact h.elim
  | pause  => exact h.elim
  | post d => rfl
  | resume =>
    show s.world.control.resume = s.world.control
    rw [Control.resume, ← hs]

theorem Session.accept_control {s : Session σ} {r : Reply σ α} (h : ∀ act ∈ r.acts, act.IsCalm)
    (hs : s.world.control.paused = false) : (s.accept r).world.control = s.world.control := by
  obtain ⟨answer, host, acts⟩ := r
  suffices hall : ∀ (acts : List HostAct) (s : Session σ), (∀ act ∈ acts, act.IsCalm) → s.world.control.paused = false →
      (acts.foldl Session.obey s).world.control = s.world.control from
    hall acts { s with world.host := host } h hs
  intro acts
  induction acts with
  | nil => exact fun _ _ _ => rfl
  | cons act acts ih =>
    intro s hacts hs
    have hobey := (hacts act (.head _)).obey_control hs
    rw [List.foldl_cons, ih _ (fun act hact => hacts act (.tail _ hact)) (by rw [hobey, hs]), hobey]

def Session.HasFlags (c : Control) (s : Session σ) : Prop := s.world.control = c

namespace Host.Calm

variable (h : env.host.Calm) {c : Control} (hc : c.paused = false)
include h hc

theorem told {s : Session σ} (e : ProgressEvent) (hs : s.HasFlags c) : (s.told env e).HasFlags c :=
  (Session.accept_control (h.observe _ _) (hs ▸ hc)).trans hs

theorem keeps {E : Halt → Session σ → Prop} (hE : ∀ e s, s.HasFlags c → E e s) {e : Operation σ} (he : e.LeavesControl) :
    e.Keeps env (Session.HasFlags c) E := by
  cases e with
  | ask q =>
    have hs : ∀ s : Session σ, s.HasFlags c → (s.answered env q).HasFlags c := fun s hs =>
      (Session.accept_control (h.answer _ _) (hs ▸ hc)).trans hs
    exact .ask (fun s _ hs' _ => hs s hs') fun s _ hs' _ => hE _ _ (hs s hs')
  | report e => exact fun s hs => h.told hc e hs
  | note m => exact fun s hs => hs
  | sleep reason ms => exact fun s hs => (Session.accept_control (h.elapse _ _ _) (hs ▸ hc)).trans hs
  | edit f => exact fun _ s hs => (he s).trans hs
  | fail e => exact fun s hs => hE _ s hs
  | observe => exact he.elim
  | whole x => exact he.elim

theorem ensures {F : Operation σ → Prop} {x : Engine σ α} (hx : Does env F x) (hF : ∀ e, F e → e.LeavesControl) :
    Ensures (Session.HasFlags c) x (fun _ => Session.HasFlags c) fun _ _ => True :=
  hx.ensures (fun e he => h.keeps hc (fun _ _ _ => trivial) (hF e he)) fun _ _ => trivial

end Host.Calm

/-! ## Clear flags -/

/-- Nothing stops, pauses or holds the run. -/
def Session.Clear (s : Session σ) : Prop := s.HasFlags .clear

/-- A stop is not tried again, so nothing is said of the flags that it leaves. -/
theorem ensures_halt :
    Ensures Session.Clear (halt : Engine σ α) (fun _ => Session.Clear) (Recovers Session.Clear fun _ _ => True) := by
  refine ensures_halting fun s _ => ⟨trivial, fun err herr hretry => ?_⟩
  cases herr
  cases hretry

namespace Host.Calm

variable (h : env.host.Calm)
include h

theorem ensures_awaitDecision (event : Option Event) (options : List String) :
    Ensures Session.Clear (awaitDecision env event options) (fun _ => Session.Clear)
      (Recovers Session.Clear fun _ _ => True) := by
  have hheld : ∀ (id : RequestId) (s : Session σ), s.Clear → (s.held id).HasFlags Control.clear.hold :=
    fun id s hs => congrArg Control.hold hs
  have hreleased : ∀ s : Session σ, s.HasFlags Control.clear.hold → s.released.Clear :=
    fun s hs => congrArg Control.release hs
  have hkeeps : ∀ e : Operation σ, Waits e →
      e.Keeps env (Session.HasFlags Control.clear.hold) fun _ => Session.HasFlags Control.clear.hold :=
    fun e he => h.keeps rfl (fun _ _ => id) he.leavesControl
  exact FormReplay.ensures_awaitDecision event options hheld hkeeps (fun _ => id) hreleased
    (fun _ s hs => ⟨trivial, fun _ _ _ => hreleased s hs⟩) fun _ _ => ⟨trivial, nofun⟩

/-- An attempt leaves the flags clear, unless it ends the run. -/
theorem ensures_attempt (index : Nat) (step : Step) (row : DataRow) :
    Ensures Session.Clear (attempt env index step row) (fun _ => Session.Clear)
      (Recovers Session.Clear fun _ _ => True) := by
  have hdoes : Does env (Attempts env step) (attempt env index step row) := does_attempt index step row fun _ => id
  have hkeeps : ∀ e : Operation σ, e.LeavesControl →
      e.Keeps env Session.Clear (Recovers Session.Clear fun _ _ => True) :=
    fun e => h.keeps rfl fun _ _ hs => ⟨trivial, fun _ _ _ => hs⟩
  refine hdoes.ensures (fun e he => ?_) fun _ _ => ⟨trivial, nofun⟩
  cases he with
  | act he           => exact hkeeps e he.leavesControl
  | notAnAction _ _  => exact hkeeps _ trivial
  | resolve he =>
    cases he with
    | @halt β             => exact @ensures_halt σ β
    | await event options => exact h.ensures_awaitDecision event options
    | rest he             => exact hkeeps _ he.leavesControl
    | acknowledge _ | stall _ | learn _ _ => exact hkeeps _ fun _ => rfl
    | _                   => exact hkeeps _ trivial

theorem ensures_executeStep (p : Program) (index : Nat) (step : Step) (row : DataRow)
    (hmode : (p.workflow.effectivePolicy step).mode ≠ .goto) :
    Ensures Session.Clear (executeStep env p index step row)
      (fun signal s => s.Clear ∧ (signal = .skip ∨ signal.OfOutcome)) fun _ _ => True := by
  have hkeeps : ∀ e : Operation σ, Steps index e → e.Keeps env Session.Clear fun _ _ => True :=
    fun e he => h.keeps rfl (fun _ _ _ => trivial) he.leavesControl
  have hattempt : Ensures (fun s => s.Clear ∧ s.Begins index) (attempt env index step row) (fun _ => Session.Clear)
      (Recovers Session.Clear fun _ _ => True) := (h.ensures_attempt index step row).strengthen fun _ hs => hs.1
  have hrule := StepRule.ofKeeps (p := p) (A := fun _ => Session.Clear) hkeeps (fun _ _ => trivial) rfl
    (fun _ _ _ _ _ _ => trivial) (fun e s hs => h.told rfl _ hs) hattempt
  refine hrule.executeStep.weaken fun signal s hs => ⟨hs.1, ?_⟩
  rcases hs.2 with hout | rfl | ⟨t, -, hgoto, -⟩
  · exact .inr hout
  · exact .inl rfl
  · exact absurd hgoto hmode

end Host.Calm

end FormReplay
