import FormReplay.Proofs.Engine.Alike
import FormReplay.Proofs.Block.Meaning
/-!
# Loops over bodies that are alike

The engine settles one place of a loop after the other, with so many repeats left at each.  A loop of a block counts
the repeats in a row instead.  Over bodies that are alike the two are alike (`Sim.runLoop`).
-/
namespace FormReplay

variable {σ : Type} {env : Env σ}

/-- How a body ends: with no goto, and at one step if it does not just run to its end. -/
def Ends (signal : Signal) (s t : Session σ) : Prop :=
  Running s t ∧ signal.OfOutcome ∧ (signal ≠ .next → s.context = t.context)

def Over (signal : Signal) (s t : Session σ) : Prop := Running s t ∧ signal = .next

theorem Signal.OfOutcome.ne_goto {signal : Signal} (h : signal.OfOutcome) (t : Nat) : signal ≠ .goto t := by
  rintro rfl
  cases h.target?_eq_none

namespace Sim

theorem afterBreak {signal : Signal} :
    Sim (Ends signal) (Pure.pure .next : Engine σ Signal) (do (Pure.pure () : Engine σ Unit); return .next) Over :=
  fun _ _ h => ⟨rfl, h.1, rfl⟩

section Places

variable {x : Nat → Bool → Engine σ Signal} {y : Nat → Nat → Engine σ Signal} {limit count : Nat}

theorem settlePosition (h : ∀ i repeats, Sim Running (x i (repeats == 0)) (y i repeats) Ends) {position n : Nat}
    (hcount : position < count)
    (hrest : Sim Running (FormReplay.overPositions x limit (position + 1) n)
      (do FormReplay.through limit count y (position + 1) 0; return .next) Over)
    (left repeats : Nat) (hleft : repeats + left = limit) :
    Sim Running
      (FormReplay.settlePosition (x position) (repeats == 0) left >>= fun
        | .advance       => FormReplay.overPositions x limit (position + 1) n
        | .leave         => return .next
        | .bubble target => return .goto target)
      (do FormReplay.through limit count y position repeats; return .next) Over := by
  have hnext : ∀ {signal : Signal}, Sim (Ends signal) (FormReplay.overPositions x limit (position + 1) n)
      (do FormReplay.through limit count y (position + 1) 0; return .next) Over :=
    hrest.imp (fun _ _ hends => hends.1) fun _ _ _ => id
  induction left generalizing repeats with
  | zero =>
    rw [FormReplay.through, if_pos hcount]
    simp only [FormReplay.settlePosition, bind_assoc, pure_bind]
    refine .bind (h position repeats) fun signal => ?_
    cases signal with
    | breakLoop    => exact afterBreak
    | goto target  => exact fun s t hends => absurd rfl (hends.2.1.ne_goto target)
    | next         => exact hnext
    | skip         => exact hnext
    | continueLoop => exact hnext
    | repeatLoop =>
      dsimp only
      rw [if_neg (by omega)]
      exact hnext
  | succ left ih =>
    rw [FormReplay.through, if_pos hcount]
    simp only [FormReplay.settlePosition, bind_assoc]
    refine .bind (h position repeats) fun signal => ?_
    cases signal with
    | breakLoop    => exact afterBreak
    | goto target  => exact fun s t hends => absurd rfl (hends.2.1.ne_goto target)
    | next         => exact hnext
    | skip         => exact hnext
    | continueLoop => exact hnext
    | repeatLoop =>
      dsimp only
      rw [if_pos (by omega)]
      exact (ih (repeats + 1) (by omega)).imp (fun _ _ hends => hends.1) fun _ _ _ => id

theorem overPositions (h : ∀ i repeats, Sim Running (x i (repeats == 0)) (y i repeats) Ends) (position n : Nat)
    (hcount : position + n = count) :
    Sim Running (overPositions x limit position n) (do FormReplay.through limit count y position 0; return .next) Over := by
  induction n generalizing position with
  | zero =>
    rw [FormReplay.through, if_neg (by omega)]
    exact fun _ _ hst => ⟨rfl, hst, rfl⟩
  | succ n ih => exact settlePosition h (by omega) (ih (position + 1) (by omega)) limit 0 (Nat.zero_add limit)

end Places

theorem whileHolds {holds holds' : Engine σ Bool} {x y : Nat → Engine σ Signal}
    (hholds : Sim Running holds holds' fun _ => Running) (h : ∀ i, Sim Running (x i) (y i) Ends)
    (limit iteration repeats n : Nat) :
    Sim Running (whileHolds holds x limit iteration repeats n)
      (do FormReplay.whilst limit holds' y iteration repeats n; return .next) Over := by
  induction n generalizing iteration repeats with
  | zero => exact fun _ _ hst => ⟨rfl, hst, rfl⟩
  | succ n ih =>
    rw [FormReplay.whileHolds, FormReplay.whilst, bind_assoc]
    refine .bind hholds fun go => ?_
    cases go with
    | false => exact fun _ _ hst => ⟨rfl, hst, rfl⟩
    | true =>
      have hnext : ∀ {signal : Signal} i r, Sim (Ends signal) (FormReplay.whileHolds holds x limit i r n)
          (do FormReplay.whilst limit holds' y i r n; return .next) Over :=
        fun i r => (ih i r).imp (fun _ _ hends => hends.1) fun _ _ _ => id
      simp only [Bool.not_true, Bool.false_eq_true, ↓reduceIte, bind_assoc]
      refine .bind (h iteration) fun signal => ?_
      cases signal with
      | breakLoop    => exact afterBreak
      | goto target  => exact fun s t hends => absurd rfl (hends.2.1.ne_goto target)
      | next         => exact hnext _ _
      | skip         => exact hnext _ _
      | continueLoop => exact hnext _ _
      | repeatLoop =>
        dsimp only
        split
        · exact hnext _ _
        · exact hnext _ _

variable (hcalm : env.host.Calm) (hfuel : 0 < env.fuel)
include hcalm hfuel

/-- **The rule of a loop**: over bodies that are alike it does the same, and goes on behind its end. -/
theorem runLoop (p : Program) (start : Nat) (spec : LoopSpec) (row : DataRow) {x y : DataRow → Engine σ Signal}
    (h : ∀ row, Sim Running (x row) (y row) Ends) :
    Sim Running (runLoop env p start spec row x) (do execLoop env p start spec row y; return .next) Over := by
  have hreport : ∀ i, Sim Running (FormReplay.report env (.loopIteration start i spec.id))
      (FormReplay.report env (.loopIteration start i spec.id)) fun _ => Running := fun i => report hcalm _
  -- The tree has no checkpoints, and they do nothing here.
  have hfree : ∀ {α : Type} {u v : Engine σ α} {Q : α → Session σ → Session σ → Prop}, Sim Running u v Q →
      Sim Running (do FormReplay.checkpoint env; u) v Q :=
    fun huv => .first (fun s t hst => ⟨(), s, checkpoint_eq hst.2 hfuel, hst⟩) fun _ => huv
  unfold FormReplay.runLoop execLoop
  dsimp only
  cases spec.mode with
  | count times =>
    exact overPositions (x := fun i _ => do FormReplay.checkpoint env; FormReplay.report env _; x row)
      (fun i _ => hfree (.bind (hreport i) fun _ => h row)) 0 _ (Nat.zero_add _)
  | whileHolds condition most =>
    refine whileHolds (hfree (.bind (setStep start) fun _ => ?_)) (fun i => .bind (hreport i) fun _ => h row) _ _ _ _
    exact (evaluate hcalm row _).imp (fun _ _ => id) fun _ _ _ hstep => hstep.1
  | data source most =>
    dsimp only
    generalize p.loopRows source row = rows
    generalize limited most rows.items = items
    have hget : ∀ i, items.toArray.getD i .empty = items.getD i .empty := by
      intro i
      rw [Array.getD_eq_getD_getElem?, List.getElem?_toArray, List.getD_eq_getElem?_getD]
    have hitems : Sim Running
        (FormReplay.overPositions (fun i first => do
            FormReplay.checkpoint env
            FormReplay.enterRow env p rows.isPrimary first i (row.mergeItem rows.source (items.toArray.getD i .empty))
            FormReplay.report env (.loopIteration start i spec.id)
            x (row.mergeItem rows.source (items.toArray.getD i .empty)))
          env.config.repeatLimit 0 items.toArray.size)
        (do
          through env.config.repeatLimit items.length (fun i repeats => do
              FormReplay.enterRow env p rows.isPrimary (repeats == 0) i (row.mergeItem rows.source (items.getD i .empty))
              FormReplay.report env (.loopIteration start i spec.id)
              y (row.mergeItem rows.source (items.getD i .empty)))
            0 0
          return .next) Over := by
      simp only [hget, List.size_toArray]
      refine overPositions (fun i repeats => hfree ?_) 0 _ (Nat.zero_add _)
      exact .bind (enterRow hcalm p _ _ i _) fun _ => .bind (hreport i) fun _ => h _
    have hrow : Sim Running (FormReplay.modifyContext fun c => { c with row := row } : Engine σ Unit)
        (FormReplay.modifyContext fun c => { c with row := row }) fun _ => Running := modifyContext fun _ => rfl
    have hboth := hitems.bind (Q := Over) fun signal =>
      (hrow.andConst (signal = .next)).bind fun _ => .pure (a := signal) fun _ _ => id
    simpa only [bind_assoc, pure_bind] using hboth

end Sim

end FormReplay
