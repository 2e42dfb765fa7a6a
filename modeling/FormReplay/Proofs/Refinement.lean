import FormReplay.Proofs.Block.Execution
/-!
# Structured programs

A program built of blocks, laid flat into a step list and run by walking the list with its jump tables, does what
the direct recursion over the blocks does: the same calls, reports and sleeps, and the same end.
-/
namespace FormReplay

variable {σ : Type} {env : Env σ}

/-! ## Programs -/

theorem Block.executeRange_alike {p : Program} {b : Block} (hcalm : env.host.Calm) (hsize : b.size < env.fuel)
    (hpolicies : p.workflow.StaysOnError) (hsteps : p.workflow.steps = b.flatten) (htables : p.tables = b.tables)
    (row : DataRow) :
    Sim Running (executeRange env p 0 p.workflow.steps.length row) (b.exec env p.bare 0 row) Ends := by
  have hfuel : 0 < env.fuel := Nat.lt_of_le_of_lt (Nat.zero_le _) hsize
  have hlength : p.workflow.steps.length = b.size := by rw [hsteps, b.length_flatten]
  have hfits : b.Fits p 0 := by
    refine b.fits (hsteps ▸ .whole _) fun link a _ _ => ?_
    rw [htables]
    cases link <;> rfl
  have hwalk : WalksLike env p 0 b.size 0 row (b.exec env p.bare 0 row) := by
    rw [← andThen_next (b.exec env p.bare 0 row)]
    exact b.walksLike hcalm hfuel hpolicies hfits (by omega) (by rw [Nat.zero_add]; exact .done)
  rw [hlength]
  exact .inFrame (hwalk env.fuel hsize)

theorem Sim.checkEscaped (signal : Signal) :
    Sim (Ends signal) (checkEscaped signal : Engine σ Unit) (checkEscaped signal) fun _ => Running := by
  intro s t h
  obtain ⟨hrunning, rfl | hloop, hcontext⟩ := h
  · exact ⟨rfl, hrunning⟩
  · cases signal with
    | breakLoop    => exact ⟨rfl, hrunning.1, hcontext nofun⟩
    | continueLoop => exact ⟨rfl, hrunning.1, hcontext nofun⟩
    | repeatLoop   => exact ⟨rfl, hrunning.1, hcontext nofun⟩
    | _            => cases hloop

theorem Block.jumps_eq_nil_iff (b : Block) (i : Nat) : b.jumps .loopToEnd i = [] ↔ b.hasLoops = false := by
  induction b generalizing i with
  | done => exact iff_of_true rfl rfl
  | action _ _ _ _ ih | label _ _ _ ih | leap _ _ _ ih => exact ih (i + 1)
  | ifThen _ _ _ _ _ ihBody ihRest => simp [jumps, pick, hasLoops, ihBody, ihRest]
  | ifElse _ _ _ _ _ _ _ ihBody ihOther ihRest => simp [jumps, pick, hasLoops, ihBody, ihOther, ihRest, and_assoc]
  | loop => simp [jumps, pick, hasLoops]

theorem Block.hasLoops_tables (b : Block) : b.tables.hasLoops = b.hasLoops := by
  rw [Bool.eq_iff_iff, JumpTables.hasLoops, Bool.not_eq_true', List.isEmpty_eq_false_iff, ← Bool.not_eq_false,
    ← b.jumps_eq_nil_iff 0]
  rfl

/-- **A program laid flat does what its block does.** -/
theorem Block.executeProgram_alike {p : Program} {b : Block} (hcalm : env.host.Calm) (hsize : b.size < env.fuel)
    (hpolicies : p.workflow.StaysOnError) (hsteps : p.workflow.steps = b.flatten) (htables : p.tables = b.tables) :
    Sim Running (executeProgram env p) (b.execProgram env p.bare) fun _ => Running := by
  have hfuel : 0 < env.fuel := Nat.lt_of_le_of_lt (Nat.zero_le _) hsize
  have hrange : ∀ row, Sim Running (executeRange env p 0 p.workflow.steps.length row) (b.exec env p.bare 0 row) Ends :=
    b.executeRange_alike hcalm hsize hpolicies hsteps htables
  have hrows : ∀ rows position, Sim Running (executeRows env p position rows) (b.execRows env p.bare position rows)
      fun _ => Running := by
    intro rows
    induction rows with
    | nil => exact fun _ => .pure fun _ _ => id
    | cons row rest ih =>
      intro position
      refine .first (R := fun _ => Running) (fun s t hst => ⟨(), s, checkpoint_eq hst.2 hfuel, hst⟩) fun _ => ?_
      refine .bind (.beginRow hcalm p position row) fun _ => .bind (hrange row) fun signal => ?_
      exact .bind (.checkEscaped signal) fun _ => ih (position + 1)
  have hloops : p.tables.hasLoops = b.hasLoops := by
    rw [htables, b.hasLoops_tables]
  unfold executeProgram execProgram
  rw [hloops]
  split
  · exact .bind (hrange .empty) fun signal => .checkEscaped signal
  · exact hrows p.rows 0

/-! ## Refinement -/

/-- **Structured programs are run as they were built.**  Laid flat, a block without gotos is analysed without issues,
its tables pair each construct with its own else and its own end, and executing the steps with these tables makes the
same calls and reports and comes to the same end as executing the block without any table, for every input, every
configuration and every host that neither stops nor pauses the run.  The fuel has to suffice for one walk over the
steps. -/
theorem flattened_blocks_refined (w : Workflow) (b : Block) (hsteps : w.steps = b.flatten)
    (hlabels : ((labelsFrom 0 w.steps).map (·.1)).Nodup)
    (hpolicies : ∀ step ∈ w.steps, step.isAction = true → (w.effectivePolicy step).mode ≠ .goto) :
    w.analyze = (b.tables, []) ∧
      ∀ (σ : Type) (env : Env σ) (input : RunInput) (s : Session σ), env.host.Calm → b.size < env.fuel →
        s.world.control = .clear →
        SameEnd (fun _ => Alike) (executeProgram env (w.program w.analyze.1 input env.options) s)
          (b.execProgram env (w.program {} input env.options) s) := by
  have hanalyze : w.analyze = (b.tables, []) := analyze_flatten hsteps hlabels hpolicies
  refine ⟨hanalyze, fun σ env input s hcalm hsize hclear => ?_⟩
  rw [hanalyze]
  have hsame : Sim Running (executeProgram env (w.program b.tables input env.options))
      (b.execProgram env (w.program {} input env.options)) fun _ => Running :=
    b.executeProgram_alike hcalm hsize hpolicies hsteps rfl
  exact (hsame.imp (fun _ _ => id) fun _ _ _ h => h.1) s s ⟨rfl, hclear⟩

/-- Twice: click and go on where the kind of the row is a, and otherwise leave the loop. -/
def sampleBlock : Block :=
  .loop {} {} { id := some "l", mode := .count 2 } true
    (.ifElse {} {} {} (.data "kind" .equals (some "a"))
      (.label {} "here" (.action {} .click { target := some "#x" } (.leap {} .continueLoop .done)))
      (.leap {} .breakLoop .done)
      .done)
    .done

def sampleFlow : Workflow := { steps := sampleBlock.flatten }

def sampleEnv : Env Unit := ⟨.inert, {}, {}, 10, ⟨0, 0⟩⟩

theorem sample_refined :
    sampleFlow.analyze = (sampleBlock.tables, []) ∧ sampleEnv.host.Calm ∧ sampleBlock.size < sampleEnv.fuel ∧
      SameEnd (fun _ => Alike)
        (executeProgram sampleEnv (sampleFlow.program sampleFlow.analyze.1 ⟨⟨"", []⟩, []⟩ {}) { world := { host := () } })
        (sampleBlock.execProgram sampleEnv (sampleFlow.program {} ⟨⟨"", []⟩, []⟩ {}) { world := { host := () } }) := by
  obtain ⟨hanalyze, hsame⟩ := flattened_blocks_refined sampleFlow sampleBlock rfl (by decide) (by decide)
  have hsize : sampleBlock.size < sampleEnv.fuel := by decide
  exact ⟨hanalyze, Host.calm_inert, hsize, hsame Unit sampleEnv ⟨⟨"", []⟩, []⟩ _ Host.calm_inert hsize rfl⟩

end FormReplay
