import FormReplay.Proofs.Engine.Loop
import FormReplay.Proofs.Structure.Tables
/-!
# What walks ensure

The rule of one step of a frame, and the rule of the walk.  An invariant of the walk speaks of the innermost frame
and of whatever else is told of the frames around it.  If it is kept by all that one step of a frame does, the frame
of a loop among it, it is kept by every frame to any depth, whether it speaks of the step that the frame goes to
(`PathRule.walk`) or of the place that a goto leads to (`WalkRule.walk`).  In the latter a frame gives back no signal
but those it may emit (`Frame.Emits`): a goto it gives back leads out of its range.
-/
namespace FormReplay

variable {σ : Type} {env : Env σ} {E : Halt → Session σ → Prop}

/-! ## Frames -/

/-- A range of steps, executed against a row. -/
structure Frame where
  first : Nat
  last  : Nat
  row   : DataRow

namespace Frame

def Contains (f : Frame) (i : Nat) : Prop := f.first ≤ i ∧ i < f.last

/-- What a frame gives back: all went well, a signal for a loop, or a goto that leads out of it to a step
before `last`. -/
def Emits (f : Frame) (last : Nat) (signal : Signal) : Prop :=
  signal.OfOutcome ∨ ∃ t, signal = .goto t ∧ t < last ∧ ¬f.Contains t

theorem Emits.target_lt {f : Frame} {last : Nat} {signal : Signal} (h : f.Emits last signal) :
    ∀ t ∈ signal.target?, t < last := by
  intro t ht
  rcases h with h | ⟨t', rfl, hlast, -⟩
  · rw [h.target?_eq_none] at ht
    cases ht
  · cases ht
    exact hlast

end Frame

/-- The faults of looking up a step, or the partner or the label that it needs. -/
inductive Program.Misses (p : Program) (i : Nat) : StructuralFault → Prop
  | step : p.workflow.steps[i]? = none → Misses p i (.noSuchStep i)
  | label {step : Step} {label : String} : p.workflow.steps[i]? = some step → step.kind = .goto label →
      p.tables.label? label = none → Misses p i (.unknownGoto i label)
  | policyLabel {step : Step} {label : String} : p.workflow.steps[i]? = some step → step.isAction = true →
      (p.workflow.effectivePolicy step).mode = .goto → p.tables.label? label = none →
      label = (p.workflow.effectivePolicy step).gotoLabel.getD "" → Misses p i (.unknownPolicyLabel i label)
  | ifEnd {step : Step} {c : Condition} : p.workflow.steps[i]? = some step → step.kind = .ifStart c →
      p.tables.ifToEnd.target? i = none → Misses p i (.missingIfEnd i)
  | elseEnd {step : Step} : p.workflow.steps[i]? = some step → step.kind = .otherwise →
      p.tables.elseToEnd.target? i = none → Misses p i (.missingElseEnd i)
  | loopEnd {step : Step} {spec : LoopSpec} : p.workflow.steps[i]? = some step → step.kind = .loopStart spec →
      p.tables.loopToEnd.target? i = none → Misses p i (.missingLoopEnd i)

theorem JumpTables.Covers.not_misses {p : Program} (h : p.tables.Covers p.workflow) {i : Nat} {fault : StructuralFault}
    (hi : i < p.workflow.steps.length) : ¬p.Misses i fault := by
  intro hmiss
  cases hmiss with
  | step hnone                          => exact absurd (List.getElem?_eq_none_iff.1 hnone) (Nat.not_le.2 hi)
  | label hstep hk hnone                => exact h.label i _ _ hstep hk hnone
  | policyLabel hstep hact hmode hnone hl => exact h.policyLabel i _ hstep hact hmode (hl ▸ hnone)
  | ifEnd hstep hk hnone                => exact h.ifEnd i _ _ hstep hk hnone
  | elseEnd hstep hk hnone              => exact h.elseEnd i _ hstep hk hnone
  | loopEnd hstep hk hnone              => exact h.loopEnd i _ _ hstep hk hnone

def Program.gotoTarget? (p : Program) (i : Nat) : Option Nat :=
  match p.workflow.steps[i]? with
  | some step =>
    match step.kind with
    | .goto label => p.tables.label? label
    | _           => none
  | none => none

theorem Program.gotoTarget?_eq_none {p : Program} {i : Nat} {step : Step} (hstep : p.workflow.steps[i]? = some step)
    (hkind : ∀ label, step.kind ≠ .goto label) : p.gotoTarget? i = none := by
  rw [Program.gotoTarget?, hstep]
  cases hk : step.kind with
  | goto label => exact absurd hk (hkind label)
  | _          => simp only [hk]

theorem ensures_inFrame {first last : Nat} {row : DataRow} {body : Engine σ Signal} {P R : Session σ → Prop}
    {S Q : Signal → Session σ → Prop} (henter : ∀ s, P s → R (s.record (.entered first last row)))
    (hbody : Ensures R body S E) (hleave : ∀ signal s, S signal s → Q signal (s.record (.left signal))) :
    Ensures P (inFrame first last row body) Q E := by
  refine .bind (R := fun _ => R) (.note henter) fun _ => .bind hbody fun signal => ?_
  exact .bind (R := fun _ => Q signal) (.note (hleave signal)) fun _ => .pure fun s hs => hs

theorem ensures_visit {i : Nat} {P Q : Session σ → Prop}
    (h : ∀ s, P s → Q ((s.onContext fun c => { c with stepIndex := i }).record (.visited i))) :
    Ensures P (visit i) (fun _ => Q) E := h

/-! ## One step of a frame -/

def StepKind.signal? : StepKind → Option Signal
  | .continueLoop => some .continueLoop
  | .breakLoop    => some .breakLoop
  | .repeatLoop   => some .repeatLoop
  | _             => none

theorem StepKind.signal?_isLoopControl {kind : StepKind} {signal : Signal} (h : kind.signal? = some signal) :
    signal.isLoopControl = true := by
  unfold StepKind.signal? at h
  split at h <;> cases h <;> rfl

/-- The moves of a step that executes nothing, each with its reason. -/
inductive Program.Moves (p : Program) (i : Nat) (step : Step) : Move → Prop
  | label {name : String} : step.kind = .label name → Moves p i step (.advance (i + 1))
  | ifEnd : step.kind = .ifEnd → Moves p i step (.advance (i + 1))
  | loopEnd {loop : Option String} : step.kind = .loopEnd loop → Moves p i step (.advance (i + 1))
  | goto {name : String} {t : Nat} : step.kind = .goto name → p.tables.label? name = some t → Moves p i step (.jump t)
  | holds {c : Condition} : step.kind = .ifStart c → Moves p i step (.advance (i + 1))
  | skips {c : Condition} {stop : Nat} : step.kind = .ifStart c → p.tables.ifToEnd.target? i = some stop →
      Moves p i step (.advance ((p.tables.ifToElse.target? i).getD stop + 1))
  | otherwise {stop : Nat} : step.kind = .otherwise → p.tables.elseToEnd.target? i = some stop →
      Moves p i step (.advance (stop + 1))
  | raise {signal : Signal} : step.kind.signal? = some signal → Moves p i step (.leave signal)

/-- Every move of the step leads where `M` holds, and `E` of every fault that it may come to. -/
def Program.Lands (p : Program) (i : Nat) (step : Step) (M : Move → Session σ → Prop) (E : Halt → Session σ → Prop)
    (s : Session σ) : Prop :=
  (∀ m, p.Moves i step m → M m s) ∧ ∀ fault, p.Misses i fault → E (.error (.structural fault)) s

theorem ensures_target {jumps : Jumps} {i : Nat} {fault : StructuralFault} {P : Session σ → Prop}
    (hmiss : jumps.target? i = none → ∀ s, P s → E (.error (.structural fault)) s) :
    Ensures P (target jumps i fault) (fun t s => P s ∧ jumps.target? i = some t) E := by
  unfold target
  split
  · rename_i t ht
    exact .pure fun s hs => ⟨hs, ht⟩
  · rename_i hnone
    exact .fail (hmiss hnone)

/-- **The rule of one step of a frame**, by its moves. -/
theorem ensures_moves {p : Program} {frame : Nat → Nat → DataRow → Engine σ Signal} {i : Nat} {step : Step} {row : DataRow}
    {V : Session σ → Prop} {M : Move → Session σ → Prop} (hstep : p.workflow.steps[i]? = some step)
    (lands : (∀ c, step.kind ≠ .ifStart c) → ∀ s, V s → p.Lands i step M E s)
    (condition : ∀ c, step.kind = .ifStart c → Ensures V (evaluate env row c) (fun _ => p.Lands i step M E) E)
    (execute : step.isAction = true → Ensures V (executeStep env p i step row) (fun signal => M (signal.move i)) E)
    (loop : ∀ spec stop, step.kind = .loopStart spec → p.tables.loopToEnd.target? i = some stop →
      Ensures V (runLoop env p i spec row (frame (i + 1) stop)) (fun signal => M (signal.moveAfterLoop stop)) E) :
    Ensures V (dispatch env p frame i step row) M E := by
  unfold dispatch
  cases hkind : step.kind with
  | label name => exact .pure fun s hs => (lands (by rw [hkind]; nofun) s hs).1 _ (.label hkind)
  | ifEnd => exact .pure fun s hs => (lands (by rw [hkind]; nofun) s hs).1 _ (.ifEnd hkind)
  | loopEnd loopRef => exact .pure fun s hs => (lands (by rw [hkind]; nofun) s hs).1 _ (.loopEnd hkind)
  | goto label =>
    dsimp only
    split
    · rename_i t ht
      exact .pure fun s hs => (lands (by rw [hkind]; nofun) s hs).1 _ (.goto hkind ht)
    · rename_i hnone
      exact .fail fun s hs => (lands (by rw [hkind]; nofun) s hs).2 _ (.label hstep hkind hnone)
  | ifStart c =>
    refine .bind (condition c hkind) fun holds => ?_
    split
    · exact .pure fun s hs => hs.1 _ (.holds hkind)
    · refine .bind (R := fun t => M (.advance t)) ?_ fun t => .pure fun s hs => hs
      refine .bind (ensures_target fun hnone s hs => hs.2 _ (.ifEnd hstep hkind hnone)) fun stop => ?_
      exact .pure fun s hs => hs.1.1 _ (.skips hkind hs.2)
  | otherwise =>
    refine .bind (ensures_target fun hnone s hs => ?_) fun stop => .pure fun s hs => ?_
    · exact (lands (by rw [hkind]; nofun) s hs).2 _ (.elseEnd hstep hkind hnone)
    · exact (lands (by rw [hkind]; nofun) s hs.1).1 _ (.otherwise hkind hs.2)
  | continueLoop => exact .pure fun s hs => (lands (by rw [hkind]; nofun) s hs).1 _ (.raise (by rw [hkind]; rfl))
  | breakLoop => exact .pure fun s hs => (lands (by rw [hkind]; nofun) s hs).1 _ (.raise (by rw [hkind]; rfl))
  | repeatLoop => exact .pure fun s hs => (lands (by rw [hkind]; nofun) s hs).1 _ (.raise (by rw [hkind]; rfl))
  | loopStart spec =>
    refine .bind (ensures_target fun hnone s hs => ?_) fun stop => .fix fun s₀ hs₀ => ?_
    · exact (lands (by rw [hkind]; nofun) s hs).2 _ (.loopEnd hstep hkind hnone)
    · exact .bind ((loop spec stop hkind hs₀.2).strengthen fun s hs => hs ▸ hs₀.1) fun signal => .pure fun s hs => hs
  | action kind spec => exact .bind (execute (by rw [Step.isAction, hkind]; rfl)) fun signal => .pure fun s hs => hs

/-- What a step at `index` may come to: go on, jump to a step before `last`, or end the frame. -/
def AfterStep (A : Option Nat → Session σ → Prop) (last index : Nat) (m : Move) (s : Session σ) : Prop :=
  match m with
  | .advance i    => A none s ∧ index < i
  | .jump t       => A (some t) s ∧ t < last
  | .leave signal => A none s ∧ signal.OfOutcome

theorem Program.Misses.gotoTarget?_eq_none {p : Program} {i : Nat} {fault : StructuralFault} (h : p.Misses i fault) :
    p.gotoTarget? i = none := by
  cases h with
  | step hnone => rw [Program.gotoTarget?, hnone]
  | label hstep hkind hnone =>
    rw [Program.gotoTarget?, hstep]
    simp only [hkind]
    exact hnone
  | policyLabel hstep haction _ _ _ =>
    refine Program.gotoTarget?_eq_none hstep fun label hkind => ?_
    rw [Step.isAction, hkind] at haction
    cases haction
  | ifEnd hstep hkind _ | elseEnd hstep hkind _ | loopEnd hstep hkind _ =>
    exact Program.gotoTarget?_eq_none hstep (by rw [hkind]; nofun)

/-- **The rule of one step of a frame**, by the place it goes to.  It begins where `V` holds, and `A` holds of the place. -/
theorem ensures_dispatch {p : Program} (tables : p.tables.Within p.workflow.steps.length)
    {frame : Nat → Nat → DataRow → Engine σ Signal} {i : Nat} {step : Step} {row : DataRow} {V : Session σ → Prop}
    {A : Option Nat → Session σ → Prop} (hstep : p.workflow.steps[i]? = some step)
    (stay : ∀ s, V s → A (p.gotoTarget? i) s)
    (condition : ∀ c, step.kind = .ifStart c → Ensures V (evaluate env row c) (fun _ => A none) E)
    (execute : step.isAction = true →
      Ensures V (executeStep env p i step row) (fun signal s => A signal.target? s ∧ signal.OfStep p step) E)
    (loop : ∀ spec stop, step.kind = .loopStart spec → p.tables.loopToEnd.target? i = some stop →
      Ensures V (runLoop env p i spec row (frame (i + 1) stop))
        (AfterLoop fun goal s => A goal s ∧ ∀ t ∈ goal, t < p.workflow.steps.length) E)
    (miss : ∀ fault s, p.Misses i fault → A none s → E (.error (.structural fault)) s) :
    Ensures V (dispatch env p frame i step row) (AfterStep A p.workflow.steps.length i) E := by
  have hlands : ∀ s, A (p.gotoTarget? i) s → p.Lands i step (AfterStep A p.workflow.steps.length i) E s := by
    intro s hs
    have hnone : (∀ label, step.kind ≠ .goto label) → A none s := fun hkind =>
      Program.gotoTarget?_eq_none hstep hkind ▸ hs
    refine ⟨fun m hm => ?_, fun fault hmiss => miss fault s hmiss (hmiss.gotoTarget?_eq_none ▸ hs)⟩
    cases hm with
    | label hkind | ifEnd hkind | loopEnd hkind | holds hkind =>
      exact ⟨hnone (by rw [hkind]; nofun), Nat.lt_succ_self i⟩
    | @goto name t hkind ht =>
      have hgoal : p.gotoTarget? i = some t := by
        rw [Program.gotoTarget?, hstep]
        simp only [hkind]
        exact ht
      exact ⟨hgoal ▸ hs, tables.label _ _ ht⟩
    | skips hkind hstop =>
      refine ⟨hnone (by rw [hkind]; nofun), ?_⟩
      cases helse : p.tables.ifToElse.target? i with
      | none   => exact Nat.lt_succ_of_lt (tables.ifToEnd _ (Jumps.mem_of_target? hstop)).1
      | some t => exact Nat.lt_succ_of_lt (tables.ifToElse _ (Jumps.mem_of_target? helse)).1
    | otherwise hkind hstop =>
      exact ⟨hnone (by rw [hkind]; nofun), Nat.lt_succ_of_lt (tables.elseToEnd _ (Jumps.mem_of_target? hstop)).1⟩
    | raise hsignal =>
      refine ⟨hnone fun label hkind => ?_, .inr (StepKind.signal?_isLoopControl hsignal)⟩
      rw [hkind] at hsignal
      cases hsignal
  refine ensures_moves hstep (fun _ s hs => hlands s (stay s hs)) (fun c hkind => ?_) (fun haction => ?_)
    fun spec stop hkind hstop => ?_
  · have hgoal : p.gotoTarget? i = none := Program.gotoTarget?_eq_none hstep (by rw [hkind]; nofun)
    exact (condition c hkind).weaken fun _ s hs => hlands s (hgoal ▸ hs)
  · refine (execute haction).weaken fun signal s hs => ?_
    rcases hs.2 with (rfl | hloop) | rfl | ⟨t, rfl, -, ht⟩
    · exact ⟨hs.1, Nat.lt_succ_self i⟩
    · cases signal <;> first | exact ⟨hs.1, .inr rfl⟩ | cases hloop
    · exact ⟨hs.1, Nat.lt_succ_self i⟩
    · exact ⟨hs.1, tables.label _ _ ht⟩
  · refine (loop spec stop hkind hstop).weaken fun signal s hs => ?_
    obtain ⟨hA, rfl | ⟨t, rfl⟩⟩ := hs
    · exact ⟨hA.1, Nat.lt_succ_of_lt (tables.loopToEnd _ (Jumps.mem_of_target? hstop)).1⟩
    · exact ⟨hA.1, hA.2 t rfl⟩

/-! ## Walks -/

def AfterMove (f : Frame) (J : Nat → Session σ → Prop) (Q : Signal → Session σ → Prop) (m : Move) (s : Session σ) : Prop :=
  match m with
  | .advance i    => J i s
  | .jump t       => (f.Contains t → J t s) ∧ (¬f.Contains t → Q (.goto t) s)
  | .leave signal => Q signal s

/-- The rule of the walk, by its moves: `J` holds as a frame goes to a step, `V` once it has come to it, and `Q` of the
signal that the frame gives.  `G` is what is told of the frames around. -/
structure PathRule {G : Type} (env : Env σ) (p : Program) (J V : Nat → Frame → G → Session σ → Prop)
    (Q : Signal → Frame → G → Session σ → Prop) (E : Halt → Session σ → Prop) : Prop where
  arrive : ∀ i f g, i < f.last → Ensures (J i f g) (do checkpoint env; visit i) (fun _ => V i f g) E
  finish : ∀ i f g s, f.last ≤ i → J i f g s → Q .next f g s
  noStep : ∀ i f g s, p.workflow.steps[i]? = none → V i f g s → E (.error (.structural (.noSuchStep i))) s
  /-- One step, with the bodies of a loop each in a frame of its own. -/
  dispatch : ∀ i f g step (body : Nat → Nat → DataRow → Engine σ Signal), p.workflow.steps[i]? = some step →
    (∀ first last row g', Ensures (J first ⟨first, last, row⟩ g') (body first last row)
      (fun signal => Q signal ⟨first, last, row⟩ g') E) →
    Ensures (V i f g) (dispatch env p (fun a b row => inFrame a b row (body a b row)) i step f.row)
      (AfterMove f (fun i => J i f g) fun signal => Q signal f g) E
  outOfFuel : ∀ i f g s, J i f g s → E .outOfFuel s

/-- **The rule of the walk**, by its moves. -/
theorem PathRule.walk {G : Type} {p : Program} {J V : Nat → Frame → G → Session σ → Prop}
    {Q : Signal → Frame → G → Session σ → Prop} (h : PathRule env p J V Q E) (fuel : Nat) (f : Frame) (g : G) (index : Nat) :
    Ensures (J index f g) (walk env p fuel f.first f.last index f.row) (fun signal => Q signal f g) E := by
  induction fuel generalizing f g index with
  | zero => exact .outOfFuel (h.outOfFuel index f g)
  | succ fuel ih =>
    unfold FormReplay.walk
    split
    · rename_i hlast
      exact .pure fun s => h.finish index f g s hlast
    rename_i hlast
    rw [← bind_assoc]
    refine .bind (h.arrive index f g (Nat.lt_of_not_le hlast)) fun _ => ?_
    split
    · rename_i step hstep
      -- The frames of a loop are walked with the fuel that is left.
      refine .bind (h.dispatch index f g step _ hstep fun first last row g' => ih ⟨first, last, row⟩ g' first) fun m => ?_
      cases m with
      | advance i => exact ih f g i
      | jump t =>
        dsimp only
        split
        · rename_i ht
          exact (ih f g t).strengthen fun s hs => hs.1 ht
        · rename_i ht
          exact .pure fun s hs => hs.2 ht
      | leave signal => exact .pure fun s hs => hs
    · rename_i hsome
      have hnone : p.workflow.steps[index]? = none := by
        cases hstep : p.workflow.steps[index]? with
        | none      => rfl
        | some step => exact absurd hstep (hsome step)
      exact .fail fun s => h.noStep index f g s hnone

/-- The rule of the walk, by the steps of a frame: `J` holds as a frame goes on, of the place a goto leads to where
one is under way, and `V` once it has come to a step.  `G` is what is told of the frames around. -/
structure WalkRule {G : Type} (env : Env σ) (p : Program) (J : Option Nat → Frame → G → Session σ → Prop)
    (V : Nat → Frame → G → Session σ → Prop) (E : Halt → Session σ → Prop) : Prop where
  tables : p.tables.Within p.workflow.steps.length
  arrive : ∀ goal f g i, f.Contains i → (∀ t ∈ goal, t = i) →
    Ensures (J goal f g) (do checkpoint env; visit i) (fun _ => V i f g) E
  stay : ∀ i f g s, V i f g s → J (p.gotoTarget? i) f g s
  condition : ∀ i f g step c, p.workflow.steps[i]? = some step → step.kind = .ifStart c →
    Ensures (V i f g) (evaluate env f.row c) (fun _ => J none f g) E
  step : ∀ i f g step, f.Contains i → p.workflow.steps[i]? = some step → step.isAction = true →
    Ensures (V i f g) (executeStep env p i step f.row) (fun signal s => J signal.target? f g s ∧ signal.OfStep p step) E
  loop : ∀ i f g step spec stop (body : DataRow → Engine σ Signal), f.Contains i → p.workflow.steps[i]? = some step →
    step.kind = .loopStart spec → p.tables.loopToEnd.target? i = some stop →
    (∀ row g', Ensures (J none ⟨i + 1, stop, row⟩ g') (body row) (fun signal s =>
      J signal.target? ⟨i + 1, stop, row⟩ g' s ∧ Frame.Emits ⟨i + 1, stop, row⟩ p.workflow.steps.length signal) E) →
    Ensures (V i f g) (runLoop env p i spec f.row fun row => inFrame (i + 1) stop row (body row))
      (AfterLoop fun goal s => J goal f g s ∧ ∀ t ∈ goal, t < p.workflow.steps.length) E
  miss : ∀ i f g fault s, f.Contains i → p.Misses i fault → J none f g s → E (.error (.structural fault)) s

namespace WalkRule

variable {G : Type} {p : Program} {J : Option Nat → Frame → G → Session σ → Prop}
  {V : Nat → Frame → G → Session σ → Prop}

/-- A frame goes to a step in its range, or to the end of it; a goto leads to that step. -/
def Going (J : Option Nat → Frame → G → Session σ → Prop) (i : Nat) (f : Frame) (g : G) (s : Session σ) : Prop :=
  f.first ≤ i ∧ ∃ goal, (∀ t ∈ goal, t = i ∧ i < f.last) ∧ J goal f g s

theorem pathRule (h : WalkRule env p J V E) (hfuel : ∀ goal f g s, J goal f g s → E .outOfFuel s) :
    PathRule env p (Going J) (fun i f g s => f.Contains i ∧ V i f g s)
      (fun signal f g s => J signal.target? f g s ∧ f.Emits p.workflow.steps.length signal) E where
  arrive i f g hlast := .fix fun s₀ ⟨hfirst, goal, hgoal, hs₀⟩ =>
    ((h.arrive goal f g i ⟨hfirst, hlast⟩ fun t ht => (hgoal t ht).1).imp (fun s hs => hs ▸ hs₀)
      (fun _ s hs => ⟨⟨hfirst, hlast⟩, hs⟩) fun _ _ => id)
  finish i f g s hlast hs := by
    obtain ⟨-, goal, hgoal, hs⟩ := hs
    cases goal with
    | none   => exact ⟨hs, .inl (.inl rfl)⟩
    | some t => exact absurd (hgoal t rfl).2 (Nat.not_lt.2 hlast)
  noStep i f g s hnone hs := by
    have hgoto : p.gotoTarget? i = none := by rw [Program.gotoTarget?, hnone]
    exact h.miss i f g _ s hs.1 (.step hnone) (hgoto ▸ h.stay i f g s hs.2)
  dispatch i f g step body hstep hbody := .fix fun s₀ ⟨hi, hs₀⟩ => by
    have hdispatch : Ensures (V i f g) (dispatch env p (fun a b row => inFrame a b row (body a b row)) i step f.row)
        (AfterStep (fun goal => J goal f g) p.workflow.steps.length i) E :=
      ensures_dispatch h.tables hstep (h.stay i f g) (fun c => h.condition i f g step c hstep)
        (h.step i f g step hi hstep) (fun spec stop hkind hstop => h.loop i f g step spec stop _ hi hstep hkind hstop
          fun row g' => (hbody (i + 1) stop row g').strengthen fun s hs => ⟨Nat.le_refl _, none, nofun, hs⟩)
        fun fault s => h.miss i f g fault s hi
    refine hdispatch.imp (fun s hs => hs ▸ hs₀) (fun m s hs => ?_) fun _ _ => id
    cases m with
    | advance k => exact ⟨Nat.le_of_lt (Nat.lt_of_le_of_lt hi.1 hs.2), none, nofun, hs.1⟩
    | jump t =>
      refine ⟨fun ht => ⟨ht.1, some t, fun t' ht' => ?_, hs.1⟩, fun ht => ⟨hs.1, .inr ⟨t, rfl, hs.2, ht⟩⟩⟩
      cases ht'
      exact ⟨rfl, ht.2⟩
    | leave signal => exact ⟨hs.2.target?_eq_none.symm ▸ hs.1, .inl hs.2⟩
  outOfFuel i f g s := fun ⟨_, goal, _, hs⟩ => hfuel goal f g s hs

/-- **The rule of the walk**: the invariant is kept by a frame and by all frames that its loops open. -/
theorem walk (h : WalkRule env p J V E) (hfuel : ∀ goal f g s, J goal f g s → E .outOfFuel s) (fuel : Nat) (f : Frame)
    (g : G) {goal : Option Nat} {index : Nat} (hindex : f.first ≤ index) (hgoal : ∀ t ∈ goal, t = index ∧ index < f.last) :
    Ensures (J goal f g) (walk env p fuel f.first f.last index f.row)
      (fun signal s => J signal.target? f g s ∧ f.Emits p.workflow.steps.length signal) E :=
  ((h.pathRule hfuel).walk fuel f g index).strengthen fun _ hs => ⟨hindex, goal, hgoal, hs⟩

theorem executeRange (h : WalkRule env p J V E) (hfuel : ∀ goal f g s, J goal f g s → E .outOfFuel s)
    {P Q : Session σ → Prop} (row : DataRow) (g : G)
    (henter : ∀ s, P s →
      J none ⟨0, p.workflow.steps.length, row⟩ g (s.record (.entered 0 p.workflow.steps.length row)))
    (hleave : ∀ signal s, signal.OfOutcome → J none ⟨0, p.workflow.steps.length, row⟩ g s → Q (s.record (.left signal))) :
    Ensures P (executeRange env p 0 p.workflow.steps.length row) (fun signal s => Q s ∧ signal.OfOutcome) E := by
  let f : Frame := ⟨0, p.workflow.steps.length, row⟩
  refine ensures_inFrame henter (h.walk hfuel env.fuel f g (Nat.le_refl _) (by nofun)) fun signal s hs => ?_
  have hout : signal.OfOutcome := by
    rcases hs.2 with hout | ⟨t, -, hlast, ht⟩
    · exact hout
    · exact absurd ⟨Nat.zero_le t, hlast⟩ ht
  exact ⟨hleave signal s hout (hout.target?_eq_none ▸ hs.1), hout⟩

end WalkRule

/-! ## Programs -/

section Programs

variable {p : Program} {P : Session σ → Prop}

theorem ensures_checkEscaped
    (hescaped : ∀ signal s, signal.isLoopControl = true → P s → E (.error (.structural (.loopControlOutside signal))) s)
    (signal : Signal) : Ensures (fun s => P s ∧ signal.OfOutcome) (checkEscaped signal) (fun _ => P) E := by
  refine .fix fun s₀ ⟨hs₀, hout⟩ => Ensures.strengthen (P := P) ?_ fun s hs => hs ▸ hs₀
  rcases hout with rfl | hloop
  · exact .pure fun s hs => hs
  · have hstays : signal.isAdvance = false := by cases signal <;> first | rfl | cases hloop
    unfold FormReplay.checkEscaped
    rw [hstays, hloop]
    exact .fail fun s hs => hescaped signal s hloop hs

theorem Program.rows_getElem? {i : Nat} {row : DataRow} (h : p.rows[i]? = some row) :
    (∃ item, p.input.primary.rows[i]? = some item ∧ row = DataRow.empty.mergeItem p.input.primary.name item) ∨
      p.runsWithoutRows = true ∧ i = 0 ∧ row = .empty := by
  unfold Program.rows at h
  dsimp only at h
  split at h
  · rename_i hempty
    rw [List.getElem?_singleton] at h
    split at h
    · rename_i hi
      cases h
      exact .inr ⟨(Bool.and_eq_true_iff.1 hempty).2, hi, rfl⟩
    · cases h
  · rw [List.getElem?_map, Option.map_eq_some_iff] at h
    obtain ⟨item, hitem, hrow⟩ := h
    exact .inl ⟨item, hitem, hrow.symm⟩

/-- **The rule of the rows.**  `P` holds before the row at a position, `S` once it has begun, and `Q` of the signal that
it gives. -/
theorem ensures_rows {P : Nat → Session σ → Prop} {S : Nat → DataRow → Session σ → Prop}
    {Q : Nat → Signal → Session σ → Prop} (hrest : ∀ i, i ≤ p.rows.length → Ensures (P i) (checkpoint env) (fun _ => P i) E)
    (hbegin : ∀ i row, p.rows[i]? = some row → Ensures (P i) (beginRow env p i row) (fun _ => S i row) E)
    (hrow : ∀ i row, p.rows[i]? = some row →
      Ensures (S i row) (executeRange env p 0 p.workflow.steps.length row) (Q i) E)
    (hcheck : ∀ i signal, i < p.rows.length → Ensures (Q i signal) (checkEscaped signal) (fun _ => P (i + 1)) E) :
    Ensures (P 0) (executeRows env p 0 p.rows) (fun _ => P p.rows.length) E := by
  -- What is left are the rows from some position on.
  suffices hrows : ∀ rows position, p.rows.drop position = rows → position + rows.length = p.rows.length →
      Ensures (P position) (executeRows env p position rows) (fun _ => P p.rows.length) E from
    hrows p.rows 0 rfl (Nat.zero_add _)
  intro rows
  induction rows with
  | nil =>
    intro position _ hlength
    rw [← hlength]
    exact .pure fun s hs => hs
  | cons row rest ih =>
    intro position hdrop hlength
    have hrow₀ : p.rows[position]? = some row := by
      have hhead : (p.rows.drop position)[0]? = some row := by rw [hdrop]; rfl
      rwa [List.getElem?_drop, Nat.add_zero] at hhead
    have hlength' : position + 1 + rest.length = p.rows.length := by
      rw [← hlength, List.length_cons]
      omega
    have hrest' : p.rows.drop (position + 1) = rest := by rw [← List.drop_drop, hdrop]; rfl
    refine .bind (hrest position (by omega)) fun _ => .bind (hbegin position row hrow₀) fun _ => ?_
    refine .bind (hrow position row hrow₀) fun signal => .bind (hcheck _ signal (by omega)) fun _ => ?_
    exact ih (position + 1) hrest' hlength'

theorem ensures_executeRows {P : Nat → Session σ → Prop} {S : Nat → DataRow → Session σ → Prop} {O : Signal → Prop}
    (hrest : ∀ i, i ≤ p.rows.length → Ensures (P i) (checkpoint env) (fun _ => P i) E)
    (hbegin : ∀ i row, p.rows[i]? = some row → Ensures (P i) (beginRow env p i row) (fun _ => S i row) E)
    (hrow : ∀ i row, p.rows[i]? = some row → Ensures (S i row) (executeRange env p 0 p.workflow.steps.length row)
      (fun signal s => P (i + 1) s ∧ O signal) E)
    (hcheck : ∀ i signal, i ≤ p.rows.length → Ensures (fun s => P i s ∧ O signal) (checkEscaped signal) (fun _ => P i) E) :
    Ensures (P 0) (executeRows env p 0 p.rows) (fun _ => P p.rows.length) E :=
  ensures_rows (Q := fun i signal s => P (i + 1) s ∧ O signal) hrest hbegin hrow fun i signal hi => hcheck (i + 1) signal hi

/-- **The rule of a program.**  `P` holds between the rows, `S` once a row has begun, and `Q` of the signal that a row
gives. -/
theorem ensures_program {S : Nat → DataRow → Session σ → Prop} {Q : Signal → Session σ → Prop}
    (hrest : Ensures P (checkpoint env) (fun _ => P) E)
    (hbegin : ∀ i row, p.rows[i]? = some row → Ensures P (beginRow env p i row) (fun _ => S i row) E)
    (hrow : ∀ i row, p.rows[i]? = some row →
      Ensures (S i row) (executeRange env p 0 p.workflow.steps.length row) Q E)
    (hwhole : Ensures P (executeRange env p 0 p.workflow.steps.length .empty) Q E)
    (hcheck : ∀ signal, Ensures (Q signal) (checkEscaped signal) (fun _ => P) E) :
    Ensures P (executeProgram env p) (fun _ => P) E := by
  unfold executeProgram
  split
  · exact .bind hwhole hcheck
  · exact ensures_rows (P := fun _ => P) (fun _ _ => hrest) hbegin hrow fun _ signal _ => hcheck signal

theorem ensures_executeProgram {S : Nat → DataRow → Session σ → Prop} {O : Signal → Prop}
    (hrest : Ensures P (checkpoint env) (fun _ => P) E)
    (hbegin : ∀ i row, p.rows[i]? = some row → Ensures P (beginRow env p i row) (fun _ => S i row) E)
    (hrow : ∀ i row, p.rows[i]? = some row → Ensures (S i row) (executeRange env p 0 p.workflow.steps.length row)
      (fun signal s => P s ∧ O signal) E)
    (hwhole : Ensures P (executeRange env p 0 p.workflow.steps.length .empty) (fun signal s => P s ∧ O signal) E)
    (hcheck : ∀ signal, Ensures (fun s => P s ∧ O signal) (checkEscaped signal) (fun _ => P) E) :
    Ensures P (executeProgram env p) (fun _ => P) E := ensures_program hrest hbegin hrow hwhole hcheck

end Programs

end FormReplay
