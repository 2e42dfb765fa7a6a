import FormReplay.Proofs.Engine.Calm
import FormReplay.Proofs.Engine.Trace
/-!
# Two runs side by side

Two sessions are alike if nothing tells them apart from outside: the world, what has been learned and what the
trace shows are the same.  The way through the steps may differ, and so may the step that is the current one.
`Sim P x y Q` reads two engine actions from two sessions related by `P`: both succeed with one value and leave
sessions related by `Q`, or both end early for one reason, at one step and alike.
-/
namespace FormReplay

variable {σ α β : Type} {env : Env σ}

/-! ## Likeness -/

def Moment.isInward : Moment → Bool
  | .visited _ | .entered .. | .left _ => true
  | _                                  => false

def Context.anywhere (c : Context) : Context := { c with stepIndex := 0 }

/-- What a trace shows to the outside: every query, report, act and sleep, with the instant, the flags and the
context, but no steps that are come to. -/
def outward (trace : List Entry) : List Entry :=
  (trace.filter fun e => !e.moment.isInward).map fun e => { e with context := e.context.anywhere }

def Session.outward (s : Session σ) : Session σ :=
  { s with context := s.context.anywhere, trace := FormReplay.outward s.trace }

def Alike (s t : Session σ) : Prop := s.outward = t.outward

theorem outward_append (x y : List Entry) : outward (x ++ y) = outward x ++ outward y := by
  rw [outward, List.filter_append, List.map_append]
  rfl

namespace Session

theorem outward_record_inward (s : Session σ) {m : Moment} (h : m.isInward = true) : (s.record m).outward = s.outward := by
  simp [outward, record, FormReplay.outward, h]

theorem outward_record (s : Session σ) {m : Moment} (h : m.isInward = false) :
    (s.record m).outward = s.outward.record m := by
  simp [outward, record, FormReplay.outward, h]

theorem outward_accept (s : Session σ) (r : Reply σ α) : (s.accept r).outward = s.outward.accept r := by
  obtain ⟨answer, host, acts⟩ := r
  suffices h : ∀ (acts : List HostAct) (s : Session σ), (acts.foldl obey s).outward = acts.foldl obey s.outward from
    h acts { s with world.host := host }
  intro acts
  induction acts with
  | nil => exact fun _ => rfl
  | cons act acts ih =>
    intro s
    have hobey : (s.obey act).outward = s.outward.obey act := by cases act <;> rfl
    rw [List.foldl_cons, List.foldl_cons, ih, hobey]

theorem outward_told (s : Session σ) (e : ProgressEvent) : (s.told env e).outward = s.outward.told env e := by
  unfold told
  rw [outward_accept, s.outward_record rfl]
  rfl

end Session

def Running (s t : Session σ) : Prop := Alike s t ∧ s.Clear

def AtStep (s t : Session σ) : Prop := Running s t ∧ s.context = t.context

section Relations

variable {s t : Session σ}

theorem Alike.world_eq (h : Alike s t) : s.world = t.world := by
  have hworld : s.outward.world = t.outward.world := congrArg Session.world h
  exact hworld

theorem Alike.anywhere_eq (h : Alike s t) : s.context.anywhere = t.context.anywhere := by
  have hcontext : s.outward.context = t.outward.context := congrArg Session.context h
  exact hcontext

theorem Alike.outward_trace_eq (h : Alike s t) : outward s.trace = outward t.trace := by
  have htrace : s.outward.trace = t.outward.trace := congrArg Session.trace h
  exact htrace

theorem Alike.eq_withTrace (h : Alike s t) (hcontext : s.context = t.context) : s = { t with trace := s.trace } := by
  obtain ⟨world, context, handlers, learned, trace⟩ := s
  obtain ⟨world', context', handlers', learned', trace'⟩ := t
  injection h with hworld _ hhandlers hlearned _
  cases hworld
  cases hhandlers
  cases hlearned
  cases hcontext
  rfl

theorem alike_withTrace {T : List Entry} (h : outward T = outward s.trace) : Alike { s with trace := T } s := by
  rw [Alike, Session.outward, h]
  rfl

theorem Running.clear_right (h : Running s t) : t.Clear := by
  rw [Session.Clear, Session.HasFlags, ← h.1.world_eq]
  exact h.2

theorem Running.record_left (h : Running s t) {m : Moment} (hm : m.isInward = true) : Running (s.record m) t :=
  ⟨(s.outward_record_inward hm).trans h.1, h.2⟩

end Relations

/-! ## Actions side by side -/

/-- Two results: one value and sessions related by `Q`, or one reason to end, at one step and alike. -/
def SameEnd (Q : α → Session σ → Session σ → Prop) :
    EStateM.Result Halt (Session σ) α → EStateM.Result Halt (Session σ) α → Prop
  | .ok a s, .ok b t       => a = b ∧ Q a s t
  | .error e s, .error f t => e = f ∧ Alike s t ∧ s.context = t.context
  | _, _                   => False

def Sim (P : Session σ → Session σ → Prop) (x y : Engine σ α) (Q : α → Session σ → Session σ → Prop) : Prop :=
  ∀ s t, P s t → SameEnd Q (x s) (y t)

namespace Sim

variable {P P' : Session σ → Session σ → Prop} {Q Q' : α → Session σ → Session σ → Prop}

theorem imp {x y : Engine σ α} (h : Sim P x y Q) (hP : ∀ s t, P' s t → P s t) (hQ : ∀ a s t, Q a s t → Q' a s t) :
    Sim P' x y Q' := by
  intro s t hst
  have := h s t (hP s t hst)
  cases hx : x s <;> cases hy : y t <;> rw [hx, hy] at this
  · exact ⟨this.1, hQ _ _ _ this.2⟩
  · exact this
  · exact this
  · exact this

theorem andConst {x y : Engine σ α} (h : Sim P x y Q) (C : Prop) :
    Sim (fun s t => P s t ∧ C) x y fun a s t => Q a s t ∧ C :=
  fun s t hst => (h.imp (fun _ _ => id) fun _ _ _ hQ => ⟨hQ, hst.2⟩) s t hst.1

theorem pure {a : α} (h : ∀ s t, P s t → Q a s t) : Sim P (Pure.pure a : Engine σ α) (Pure.pure a) Q :=
  fun s t hst => ⟨rfl, h s t hst⟩

theorem bind {x y : Engine σ α} {f g : α → Engine σ β} {R : α → Session σ → Session σ → Prop}
    {Q : β → Session σ → Session σ → Prop} (hx : Sim P x y R) (hf : ∀ a, Sim (R a) (f a) (g a) Q) :
    Sim P (x >>= f) (y >>= g) Q := by
  intro s t hst
  have hxy := hx s t hst
  simp only [Bind.bind, EStateM.bind]
  cases hxs : x s <;> cases hyt : y t <;> rw [hxs, hyt] at hxy
  · obtain ⟨rfl, hR⟩ := hxy
    exact hf _ _ _ hR
  · exact hxy.elim
  · exact hxy.elim
  · exact hxy

theorem first {x : Engine σ α} {f : α → Engine σ β} {y : Engine σ β} {R : α → Session σ → Session σ → Prop}
    {Q : β → Session σ → Session σ → Prop} (hx : ∀ s t, P s t → ∃ a s', x s = .ok a s' ∧ R a s' t)
    (hf : ∀ a, Sim (R a) (f a) y Q) : Sim P (x >>= f) y Q := by
  intro s t hst
  obtain ⟨a, s', hxs, hR⟩ := hx s t hst
  simp only [Bind.bind, EStateM.bind, hxs]
  exact hf a s' t hR

theorem last {x y : Engine σ α} {f : α → Engine σ α} {R : α → Session σ → Session σ → Prop} (hx : Sim P x y R)
    (hf : ∀ a s t, R a s t → ∃ s', f a s = .ok a s' ∧ Q a s' t) : Sim P (x >>= f) y Q := by
  intro s t hst
  have hxy := hx s t hst
  simp only [Bind.bind, EStateM.bind]
  cases hxs : x s <;> cases hyt : y t <;> rw [hxs, hyt] at hxy
  · obtain ⟨rfl, hR⟩ := hxy
    obtain ⟨s', hfs, hQ⟩ := hf _ _ _ hR
    dsimp only
    rw [hfs]
    exact ⟨rfl, hQ⟩
  · exact hxy.elim
  · exact hxy.elim
  · exact hxy

/-- **An action is alike to itself**: what it does hangs on all but the trace, which it only adds to. -/
theorem self {x : Engine σ α} {A : α → Prop} (hx : AddsTo x)
    (h : Ensures Session.Clear x (fun a s => s.Clear ∧ A a) fun _ _ => True) :
    Sim AtStep x x fun a s t => AtStep s t ∧ A a := by
  intro s t ⟨hrunning, hcontext⟩
  obtain ⟨new, hnew⟩ := hx t
  have hxs : x s = withTrace (new ++ s.trace) (x t) := by
    have := hnew s.trace
    rwa [← hrunning.1.eq_withTrace hcontext] at this
  have hxt : x t = withTrace (new ++ t.trace) (x t) := hnew t.trace
  have houtward : outward (new ++ s.trace) = outward (new ++ t.trace) := by
    rw [outward_append, outward_append, hrunning.1.outward_trace_eq]
  rw [hxs]
  cases hend : x t with
  | ok a t' =>
    rw [hend] at hxt
    injection hxt with _ ht
    obtain ⟨hclear, hA⟩ := h.ok hrunning.clear_right hend
    have halike : Alike { t' with trace := new ++ s.trace } t' := alike_withTrace (by rw [houtward, ht])
    exact ⟨rfl, ⟨⟨halike, hclear⟩, rfl⟩, hA⟩
  | error e t' =>
    rw [hend] at hxt
    injection hxt with _ ht
    exact ⟨rfl, alike_withTrace (by rw [houtward, ht]), rfl⟩

end Sim

/-! ## Parts of the engine -/

theorem checkpoint_eq {s : Session σ} (hs : s.Clear) (hfuel : 0 < env.fuel) : checkpoint env s = .ok () s := by
  have hpaused : s.world.control.isPaused = false := by rw [hs]; rfl
  have hstop : checkStop s = .ok () s := by
    have hstopped : s.world.control.stopped = false := by rw [hs]; rfl
    show (if s.world.control.stopped = true then (fail .stopped : Engine σ Unit) else pure ()) s = .ok () s
    rw [hstopped]
    rfl
  unfold checkpoint
  cases hf : env.fuel with
  | zero => omega
  | succ fuel =>
    refine Engine.bind_eq_ok_iff.2 ⟨(), s, hstop, ?_⟩
    show (if s.world.control.isPaused = true then
      (pass env .pausePoll env.config.pausePoll >>= fun _ => awaitUnpaused env env.config.pausePoll fuel)
      else pure ()) s = .ok () s
    rw [hpaused]
    rfl

theorem executeStep_tables {p : Program} {step : Step} (hmode : (p.workflow.effectivePolicy step).mode ≠ .goto)
    (tables : JumpTables) (i : Nat) (row : DataRow) :
    executeStep env { p with tables } i step row = executeStep env p i step row := by
  have hpolicy : applyPolicy (σ := σ) tables i (p.workflow.effectivePolicy step) =
      applyPolicy p.tables i (p.workflow.effectivePolicy step) := by
    funext e
    unfold applyPolicy
    split <;> first | rfl | exact absurd ‹_› hmode
  unfold executeStep
  dsimp only
  rw [hpolicy]

namespace Sim

theorem modifyContext {f : Context → Context} (hf : ∀ c, (f c).anywhere = (f c.anywhere).anywhere) :
    Sim Running (modifyContext f : Engine σ Unit) (modifyContext f) fun _ => Running := by
  intro s t h
  have hcontext : (f s.context).anywhere = (f t.context).anywhere := by rw [hf, h.1.anywhere_eq, ← hf]
  have houtward := h.1
  refine ⟨rfl, ?_, h.2⟩
  simp only [Alike, Session.outward, Session.mk.injEq] at houtward ⊢
  exact ⟨houtward.1, hcontext, houtward.2.2⟩

theorem setStep (i : Nat) :
    Sim Running (FormReplay.modifyContext fun c => { c with stepIndex := i } : Engine σ Unit)
      (FormReplay.modifyContext fun c => { c with stepIndex := i }) fun _ => AtStep := by
  intro s t h
  have hset : ∀ c d : Context, c.anywhere = d.anywhere → { c with stepIndex := i } = { d with stepIndex := i } := by
    intro c d hcd
    cases c
    cases d
    cases hcd
    rfl
  have hboth := modifyContext (f := fun c => { c with stepIndex := i }) (fun _ => rfl) s t h
  exact ⟨rfl, hboth.2, hset _ _ h.1.anywhere_eq⟩

theorem visit (i : Nat) : Sim Running (visit i : Engine σ Unit) (visit i) fun _ => AtStep := by
  refine .bind (setStep i) fun _ => ?_
  intro s t h
  refine ⟨rfl, ⟨?_, h.1.2⟩, h.2⟩
  exact (s.outward_record_inward rfl).trans (h.1.1.trans (t.outward_record_inward rfl).symm)

variable (hcalm : env.host.Calm)
include hcalm

theorem report (e : ProgressEvent) : Sim Running (report env e) (report env e) fun _ => Running := by
  intro s t h
  refine ⟨rfl, ?_, hcalm.told rfl e h.2⟩
  exact (s.outward_told e).trans ((congrArg (Session.told env e) h.1).trans (t.outward_told e).symm)

theorem evaluate (row : DataRow) (c : Condition) :
    Sim AtStep (evaluate env row c) (evaluate env row c) fun _ => AtStep := by
  have hadds : Does env (Operation.Adds fun _ => True) (FormReplay.evaluate env row c) :=
    does_evaluate row c fun _ he => he.adds.mono fun _ _ => trivial
  have hlooks : Does env Looks (FormReplay.evaluate env row c) := does_evaluate row c fun _ => .judges
  have hclear : Ensures Session.Clear (FormReplay.evaluate env row c) (fun _ => Session.Clear) fun _ _ => True :=
    hcalm.ensures rfl hlooks fun _ => Looks.leavesControl
  have hself := self (A := fun _ => True) (hadds.addsTo fun _ hy => hy.elim) (hclear.weaken fun _ _ hs => ⟨hs, trivial⟩)
  exact hself.imp (fun _ _ => id) fun _ _ _ h => h.1

theorem executeStep {p : Program} {step : Step} (hmode : (p.workflow.effectivePolicy step).mode ≠ .goto) (i : Nat)
    (row : DataRow) :
    Sim AtStep (executeStep env p i step row) (executeStep env p i step row)
      fun signal s t => AtStep s t ∧ (signal = .skip ∨ signal.OfOutcome) := by
  have hattempt : Does env (Operation.Adds fun _ => True) (attempt env i step row) :=
    does_attempt_adds (fun _ _ => trivial) (fun _ _ _ => trivial) i step row
  have hadds : Does env (Operation.Adds fun _ => True) (FormReplay.executeStep env p i step row) :=
    does_executeStep (fun _ he => he.adds (fun _ _ => trivial) fun _ => trivial) (fun _ => trivial) trivial
      (fun _ _ => trivial) hattempt
  exact self (hadds.addsTo fun _ hy => hy.elim) (hcalm.ensures_executeStep p i step row hmode)

theorem beginRow (p : Program) (position : Nat) (row : DataRow) :
    Sim Running (beginRow env p position row) (beginRow env p position row) fun _ => Running :=
  .bind (modifyContext fun _ => rfl) fun _ => report hcalm _

theorem enterRow (p : Program) (isPrimary first : Bool) (position : Nat) (row : DataRow) :
    Sim Running (enterRow env p isPrimary first position row) (enterRow env p isPrimary first position row)
      fun _ => Running := by
  unfold FormReplay.enterRow
  split
  · exact beginRow hcalm p position row
  · exact modifyContext fun _ => rfl

end Sim

end FormReplay
