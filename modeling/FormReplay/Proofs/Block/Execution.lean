import FormReplay.Proofs.Block.Layout
import FormReplay.Proofs.Block.Loops
/-!
# Walking a block

The walk over the steps of a block laid flat does what the block does (`Block.walksLike`).  It comes to some steps
that the block does not, the ends of its bodies, and only passes them.
-/
namespace FormReplay

variable {σ : Type} {env : Env σ}

/-! ## One step -/

section Walk

variable {p : Program} {fuel first last i : Nat} {step : Step} {row : DataRow}

def follow (env : Env σ) (p : Program) (fuel first last : Nat) (row : DataRow) : Move → Engine σ Signal
  | .advance i    => walk env p fuel first last i row
  | .jump t       => if first ≤ t ∧ t < last then walk env p fuel first last t row else pure (.goto t)
  | .leave signal => pure signal

def stepOn (env : Env σ) (p : Program) (fuel first last i : Nat) (step : Step) (row : DataRow) : Engine σ Signal :=
  dispatch env p (fun a b row => inFrame a b row (walk env p fuel a b a row)) i step row >>=
    follow env p fuel first last row

theorem walk_eq_stepOn (hi : i < last) (hstep : p.workflow.steps[i]? = some step) :
    walk env p (fuel + 1) first last i row =
      (do checkpoint env; visit i; stepOn env p fuel first last i step row) := by
  unfold walk
  rw [if_neg (Nat.not_le.2 hi)]
  simp only [hstep]
  rfl

theorem walk_end (hi : last ≤ i) : walk env p (fuel + 1) first last i row = pure .next := by
  unfold walk
  rw [if_pos hi]

/-! What one step comes to, by its kind. -/

theorem stepOn_label (m : Mark) (name : String) :
    stepOn env p fuel first last i (m.step (.label name)) row = walk env p fuel first last (i + 1) row := rfl

theorem stepOn_ifEnd (m : Mark) :
    stepOn env p fuel first last i (m.step .ifEnd) row = walk env p fuel first last (i + 1) row := rfl

theorem stepOn_leap (m : Mark) (way : Leap) :
    stepOn env p fuel first last i (m.step way.kind) row = pure way.signal := by
  cases way <;> rfl

theorem stepOn_action (m : Mark) (kind : ActionKind) (spec : ActionSpec) :
    stepOn env p fuel first last i (m.step (.action kind spec)) row =
      executeStep env p i (m.step (.action kind spec)) row >>= fun signal =>
        follow env p fuel first last row (signal.move i) := by
  simp only [stepOn, dispatch, Mark.step, pure_bind, bind_assoc]

theorem target_eq {jumps : Jumps} {stop : Nat} (h : jumps.target? i = some stop) (fault : StructuralFault) :
    target jumps i fault = (pure stop : Engine σ Nat) := by
  rw [target, h]

theorem stepOn_otherwise (m : Mark) {stop : Nat} (h : p.tables.elseToEnd.target? i = some stop) :
    stepOn env p fuel first last i (m.step .otherwise) row = walk env p fuel first last (stop + 1) row := by
  have hdispatch : ∀ frame : Nat → Nat → DataRow → Engine σ Signal,
      dispatch env p frame i (m.step .otherwise) row = pure (.advance (stop + 1)) := by
    intro frame
    simp only [dispatch, Mark.step, target_eq h, pure_bind]
  rw [stepOn, hdispatch]
  rfl

theorem stepOn_ifStart (m : Mark) (c : Condition) {stop : Nat} (h : p.tables.ifToEnd.target? i = some stop) :
    stepOn env p fuel first last i (m.step (.ifStart c)) row =
      evaluate env row c >>= fun holds =>
        walk env p fuel first last (if holds then i + 1 else (p.tables.ifToElse.target? i).getD stop + 1) row := by
  simp only [stepOn, dispatch, Mark.step, skipBranch, target_eq h, pure_bind, bind_assoc]
  congr 1
  funext holds
  cases holds <;> rfl

theorem stepOn_loopStart (m : Mark) (spec : LoopSpec) {stop : Nat} (h : p.tables.loopToEnd.target? i = some stop) :
    stepOn env p fuel first last i (m.step (.loopStart spec)) row =
      runLoop env p i spec row (fun row => inFrame (i + 1) stop row (walk env p fuel (i + 1) stop (i + 1) row)) >>=
        fun signal => follow env p fuel first last row (signal.moveAfterLoop stop) := by
  simp only [stepOn, dispatch, Mark.step, target_eq h, pure_bind, bind_assoc]

/-! ## Walks that do what an action does -/

theorem Sim.inFrame {x y : Engine σ Signal} (h : Sim Running x y Ends) :
    Sim Running (inFrame first last row x) y Ends := by
  refine .first (R := fun _ => Running) (fun s t hst => ⟨(), _, rfl, hst.record_left rfl⟩) fun _ => ?_
  exact .last h fun signal s t hends => ⟨s.record (.left signal), rfl, hends.1.record_left rfl, hends.2⟩

/-- Whatever fuel is enough, the walk from an index on does the same as an action. -/
def WalksLike (env : Env σ) (p : Program) (first last i : Nat) (row : DataRow) (k : Engine σ Signal) : Prop :=
  ∀ fuel, last - i < fuel → Sim Running (walk env p fuel first last i row) k Ends

namespace WalksLike

variable {k : Engine σ Signal}

theorem done : WalksLike env p first last last row (pure .next) := by
  intro fuel hfuel
  cases fuel with
  | zero => omega
  | succ fuel =>
    rw [walk_end (Nat.le_refl last)]
    exact .pure fun s t h => ⟨h, .inl rfl, fun hne => absurd rfl hne⟩

variable (hfuel : 0 < env.fuel) (hi : i < last) (hstep : p.workflow.steps[i]? = some step)
include hfuel hi hstep

theorem ofStep
    (h : ∀ fuel, last - i ≤ fuel → Sim Running (do FormReplay.visit i; stepOn env p fuel first last i step row) k Ends) :
    WalksLike env p first last i row k := by
  intro fuel hlast
  cases fuel with
  | zero => omega
  | succ fuel =>
    rw [walk_eq_stepOn hi hstep]
    exact .first (fun s t hst => ⟨(), s, checkpoint_eq hst.2 hfuel, hst⟩) fun _ => h fuel (Nat.le_of_lt_succ hlast)

theorem visit (h : ∀ fuel, last - i ≤ fuel → Sim AtStep (stepOn env p fuel first last i step row) k Ends) :
    WalksLike env p first last i row (do FormReplay.visit i; k) :=
  .ofStep hfuel hi hstep fun fuel hle => .bind (.visit i) fun _ => h fuel hle

theorem pass {j : Nat} (hij : i < j)
    (hpass : ∀ fuel, stepOn env p fuel first last i step row = walk env p fuel first last j row)
    (h : WalksLike env p first last j row k) : WalksLike env p first last i row k := by
  refine .ofStep hfuel hi hstep fun fuel hle => ?_
  rw [hpass]
  refine .first (R := fun _ => Running) (fun s t hst => ⟨(), _, rfl, ?_, hst.2⟩) fun _ => h fuel (by omega)
  exact (Session.outward_record_inward _ rfl).trans hst.1

omit hstep

variable (hcalm : env.host.Calm)
include hcalm

theorem action {m : Mark} {kind : ActionKind} {spec : ActionSpec}
    (hstep : p.workflow.steps[i]? = some (m.step (.action kind spec)))
    (hmode : (p.workflow.effectivePolicy (m.step (.action kind spec))).mode ≠ .goto)
    (h : WalksLike env p first last (i + 1) row k) :
    WalksLike env p first last i row (do
      FormReplay.visit i
      match ← executeStep env p i (m.step (.action kind spec)) row with
      | .next | .skip => k
      | signal => return signal) := by
  refine .visit hfuel hi hstep fun fuel hle => ?_
  rw [stepOn_action]
  have hnext : Sim Running (walk env p fuel first last (i + 1) row) k Ends := h fuel (by omega)
  refine .bind (.executeStep hcalm hmode i row) fun signal => ?_
  cases signal with
  | next         => exact hnext.imp (fun _ _ h => h.1.1) fun _ _ _ => id
  | skip         => exact hnext.imp (fun _ _ h => h.1.1) fun _ _ _ => id
  | goto t       => exact fun _ _ h => absurd rfl ((h.2.resolve_left nofun).ne_goto t)
  | breakLoop    => exact .pure fun s t h => ⟨h.1.1, .inr rfl, fun _ => h.1.2⟩
  | continueLoop => exact .pure fun s t h => ⟨h.1.1, .inr rfl, fun _ => h.1.2⟩
  | repeatLoop   => exact .pure fun s t h => ⟨h.1.1, .inr rfl, fun _ => h.1.2⟩

theorem conditional {m : Mark} {c : Condition} {stop next : Nat} {x y : Engine σ Signal}
    (hstep : p.workflow.steps[i]? = some (m.step (.ifStart c))) (hstop : p.tables.ifToEnd.target? i = some stop)
    (hnext : (p.tables.ifToElse.target? i).getD stop + 1 = next) (hlt : i < next)
    (hyes : WalksLike env p first last (i + 1) row x) (hno : WalksLike env p first last next row y) :
    WalksLike env p first last i row (do
      FormReplay.visit i
      if ← evaluate env row c then x else y) := by
  refine .visit hfuel hi hstep fun fuel hle => ?_
  rw [stepOn_ifStart m c hstop, hnext]
  refine .bind (.evaluate hcalm row c) fun holds => ?_
  cases holds with
  | true  => exact (hyes fuel (by omega)).imp (fun _ _ h => h.1) fun _ _ _ => id
  | false => exact (hno fuel (by omega)).imp (fun _ _ h => h.1) fun _ _ _ => id

theorem loop {m : Mark} {spec : LoopSpec} {stop : Nat} {y : DataRow → Engine σ Signal}
    (hstep : p.workflow.steps[i]? = some (m.step (.loopStart spec))) (hstop : p.tables.loopToEnd.target? i = some stop)
    (hlt : i < stop) (hlast : stop < last) (hbody : ∀ row, WalksLike env p (i + 1) stop (i + 1) row (y row))
    (h : WalksLike env p first last (stop + 1) row k) :
    WalksLike env p first last i row (do
      FormReplay.visit i
      execLoop env p i spec row y
      k) := by
  refine .visit hfuel hi hstep fun fuel hle => ?_
  rw [stepOn_loopStart m spec hstop]
  have hframe : ∀ row, Sim Running (inFrame (i + 1) stop row (walk env p fuel (i + 1) stop (i + 1) row)) (y row) Ends :=
    fun row => .inFrame (hbody row fuel (by omega))
  have hloop : Sim AtStep (runLoop env p i spec row _) (do execLoop env p i spec row y; return .next) Over :=
    (Sim.runLoop hcalm hfuel p i spec row hframe).imp (fun _ _ h => h.1) fun _ _ _ => id
  have hnext : ∀ signal : Signal, Sim (Over signal) (follow env p fuel first last row (signal.moveAfterLoop stop)) k Ends := by
    rintro signal s t ⟨hst, rfl⟩
    exact h fuel (by omega) s t hst
  simpa only [bind_assoc, pure_bind] using hloop.bind hnext

end WalksLike

end Walk

/-! ## Blocks -/

def Program.bare (p : Program) : Program := { p with tables := {} }

section Blocks

variable {p : Program} (hcalm : env.host.Calm) (hfuel : 0 < env.fuel) (hpolicies : p.workflow.StaysOnError)
include hcalm hfuel hpolicies

/-- **The walk through a block does what the block does**, and then whatever follows it. -/
theorem Block.walksLike (b : Block) {first last i : Nat} {row : DataRow} {k : Engine σ Signal} (hfits : b.Fits p i)
    (hlast : i + b.size ≤ last) (h : WalksLike env p first last (i + b.size) row k) :
    WalksLike env p first last i row (andThen (b.exec env p.bare i row) k) := by
  induction b generalizing first last i row k with
  | done => exact h
  | label m name rest ih =>
    obtain ⟨hstep, hrest⟩ := hfits
    have hend : i + 1 + rest.size = i + (rest.size + 1) := by omega
    simp only [Block.size] at hlast h
    refine .pass hfuel (by omega) hstep (Nat.lt_succ_self i) (fun fuel => stepOn_label m name) (ih hrest (by omega) ?_)
    rwa [hend]
  | leap m way rest ih =>
    simp only [Block.size] at hlast
    rw [exec, andThen_bind]
    refine .visit hfuel (by omega) hfits.1 fun fuel _ => ?_
    rw [stepOn_leap]
    cases way <;> exact .pure fun s t h => ⟨h.1, .inr rfl, fun _ => h.2⟩
  | action m kind spec rest ih =>
    obtain ⟨hstep, hrest⟩ := hfits
    have hend : i + 1 + rest.size = i + (rest.size + 1) := by omega
    simp only [Block.size] at hlast h
    have hmode : (p.workflow.effectivePolicy (m.step (.action kind spec))).mode ≠ .goto :=
      hpolicies _ (List.mem_of_getElem? hstep) rfl
    have hbare : executeStep env p.bare i (m.step (.action kind spec)) row =
        executeStep env p i (m.step (.action kind spec)) row := executeStep_tables hmode {} i row
    have hnext : WalksLike env p first last (i + 1) row (andThen (rest.exec env p.bare (i + 1) row) k) :=
      ih hrest (by omega) (by rwa [hend])
    have hexec : andThen ((action m kind spec rest).exec env p.bare i row) k = (do
        visit i
        match ← executeStep env p i (m.step (.action kind spec)) row with
        | .next | .skip => andThen (rest.exec env p.bare (i + 1) row) k
        | signal => return signal) := by
      simp only [exec, andThen_bind, hbare]
      congr 2
      funext _
      congr 1
      funext signal
      cases signal <;> rfl
    rw [hexec]
    exact .action hfuel (by omega) hcalm hstep hmode hnext
  | ifThen m stop c body rest ihBody ihRest =>
    obtain ⟨hstep, hnoElse, hifEnd, hbody, hstop, hrest⟩ := hfits
    simp only [Block.size] at hlast h
    have hinner : i + 1 + body.size = i + body.size + 1 := by omega
    have hend : i + body.size + 1 + 1 + rest.size = i + (body.size + rest.size + 2) := by omega
    let after := andThen (rest.exec env p.bare (i + body.size + 2) row) k
    have hafter : WalksLike env p first last (i + body.size + 1 + 1) row after := ihRest hrest (by omega) (by rwa [hend])
    have hclose : WalksLike env p first last (i + body.size + 1) row after :=
      .pass hfuel (by omega) hstop (Nat.lt_succ_self _) (fun fuel => stepOn_ifEnd stop) hafter
    have hinside : WalksLike env p first last (i + 1) row (andThen (body.exec env p.bare (i + 1) row) after) :=
      ihBody hbody (by omega) (by rwa [hinner])
    simp only [exec, andThen_bind, andThen_ite, andThen_assoc]
    exact .conditional hfuel (by omega) hcalm hstep hifEnd (by rw [hnoElse]; rfl) (by omega) hinside hafter
  | ifElse m middle stop c body other rest ihBody ihOther ihRest =>
    obtain ⟨hstep, hifElse, hifEnd, hbody, hmiddle, helseEnd, hother, hstop, hrest⟩ := hfits
    simp only [Block.size] at hlast h
    let between := i + body.size + 1
    let last' := between + other.size + 1
    let after := andThen (rest.exec env p.bare (last' + 1) row) k
    have hinner : i + 1 + body.size = between := by omega
    have hinner' : between + 1 + other.size = last' := by omega
    have hend : last' + 1 + rest.size = i + (body.size + other.size + rest.size + 3) := by omega
    have hafter : WalksLike env p first last (last' + 1) row after := ihRest hrest (by omega) (by rwa [hend])
    have hclose : WalksLike env p first last last' row after :=
      .pass hfuel (by omega) hstop (Nat.lt_succ_self _) (fun fuel => stepOn_ifEnd stop) hafter
    have hbetween : WalksLike env p first last between row after :=
      .pass hfuel (by omega) hmiddle (by omega) (fun fuel => stepOn_otherwise middle helseEnd) hafter
    have hyes : WalksLike env p first last (i + 1) row (andThen (body.exec env p.bare (i + 1) row) after) :=
      ihBody hbody (by omega) (by rwa [hinner])
    have hno : WalksLike env p first last (between + 1) row (andThen (other.exec env p.bare (between + 1) row) after) :=
      ihOther hother (by omega) (by rwa [hinner'])
    simp only [exec, andThen_bind, andThen_ite, andThen_assoc]
    exact .conditional hfuel (by omega) hcalm hstep hifEnd (by rw [hifElse]; rfl) (by omega) hyes hno
  | loop m stop spec named body rest ihBody ihRest =>
    obtain ⟨hstep, hloopEnd, hbody, hrest⟩ := hfits
    simp only [Block.size] at hlast h
    have hinner : i + 1 + body.size = i + body.size + 1 := by omega
    have hend : i + body.size + 1 + 1 + rest.size = i + (body.size + rest.size + 2) := by omega
    have hafter : WalksLike env p first last (i + body.size + 1 + 1) row
        (andThen (rest.exec env p.bare (i + body.size + 2) row) k) := ihRest hrest (by omega) (by rwa [hend])
    have hinside : ∀ row, WalksLike env p (i + 1) (i + body.size + 1) (i + 1) row (body.exec env p.bare (i + 1) row) := by
      intro row
      rw [← andThen_next (body.exec env p.bare (i + 1) row)]
      exact ihBody hbody (by omega) (by rw [hinner]; exact .done)
    simp only [exec, andThen_bind]
    exact .loop hfuel (by omega) hcalm hstep hloopEnd (by omega) (by omega) hinside hafter

end Blocks

end FormReplay
