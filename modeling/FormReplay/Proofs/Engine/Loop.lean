import FormReplay.Proofs.Engine.Step
/-!
# What loops ensure

The rule of loops: what one turn of a loop keeps, the loop keeps.  A turn may leave something else for every signal of
the body (`TurnRule`), or only speak of the place that a goto leads to (`LoopRule`).  A data loop may tell a position that
is executed for the first time from one that is repeated.
-/
namespace FormReplay

variable {σ : Type} {env : Env σ} {E : Halt → Session σ → Prop}

inductive Loops (start : Nat) : Operation σ → Prop
  | rest {e : Operation σ} : Rests .pausePoll e → Loops start e
  | iteration (i : Nat) (id : Option String) : Loops start (.report (.loopIteration start i id))
  | rowStarted (row : Nat) : Loops start (.report (.rowStarted row))
  | current : Loops start (.edit (.onContext fun c => { c with stepIndex := start }))
  | row (row : DataRow) : Loops start (.edit (.onContext fun c => { c with row := row }))
  | began (index : Nat) (row : DataRow) : Loops start
      (.edit (.onContext fun c => { c with rowIndex := index, row := row, rowsProcessed := c.rowsProcessed + 1 }))
  | judges {row : DataRow} {c : Condition} {e : Operation σ} : Judges row c e → Loops start e

theorem Loops.outward {start : Nat} {e : Operation σ} (h : Loops start e) : e.Outward := by
  cases h with
  | rest h   => exact h.outward
  | judges h => exact h.outward
  | _        => trivial

theorem Loops.leavesControl {start : Nat} {e : Operation σ} (h : Loops start e) : e.LeavesControl := by
  cases h with
  | rest h   => exact h.leavesControl
  | judges h => exact h.leavesControl
  | current | row _ | began _ _ => exact fun _ => rfl
  | _ => trivial

theorem Loops.ne_observe {start : Nat} {e : Operation σ} (h : Loops start e) : e ≠ .observe := by
  cases h with
  | rest h   => exact h.ne_observe
  | judges h => exact h.ne_observe
  | _        => nofun

/-! ## Verdicts

`A` is what holds as a loop goes on, and `Q` what the body leaves for each of its signals. -/

section Turns

variable {A : Session σ → Prop} {Q : Signal → Session σ → Prop}

/-- A loop is left for the step after it once its positions are done or after a break, or else for the place of a goto. -/
def AfterTurns (A : Session σ → Prop) (Q : Signal → Session σ → Prop) (signal : Signal) (s : Session σ) : Prop :=
  (signal = .next ∧ (A s ∨ Q .breakLoop s)) ∨ ∃ t, signal = .goto t ∧ Q (.goto t) s

def AfterVerdict (A : Session σ → Prop) (Q : Signal → Session σ → Prop) : Verdict → Session σ → Prop
  | .advance  => A
  | .leave    => Q .breakLoop
  | .bubble t => Q (.goto t)

variable (again : ∀ signal s, signal.verdict = .advance → Q signal s → A s)
include again

theorem ensures_verdict (signal : Signal) : Ensures (Q signal) (pure signal.verdict) (AfterVerdict A Q) E := by
  refine .pure fun s hs => ?_
  cases signal with
  | breakLoop => exact hs
  | goto t    => exact hs
  | _         => exact again _ s rfl hs

/-! ## Positions -/

theorem ensures_settlePosition {B : Session σ → Prop} {body : Bool → Engine σ Signal}
    (hbody : ∀ first, Ensures (fun s => A s ∧ (first = false → B s)) (body first) (fun signal s => Q signal s ∧ B s) E)
    (first : Bool) (left : Nat) :
    Ensures (fun s => A s ∧ (first = false → B s)) (settlePosition body first left) (AfterVerdict A Q) E := by
  have hverdict : ∀ signal : Signal, Ensures (fun s => Q signal s ∧ B s) (pure signal.verdict) (AfterVerdict A Q) E :=
    fun signal => (ensures_verdict again signal).strengthen fun s hs => hs.1
  induction left generalizing first with
  | zero => exact .bind (hbody first) hverdict
  | succ left ih =>
    refine .bind (hbody first) fun signal => ?_
    split
    · exact (ih false).strengthen fun s hs => ⟨again _ s rfl hs.1, fun _ => hs.2⟩
    · exact hverdict signal

theorem ensures_overPositions {B : Nat → Session σ → Prop} {body : Nat → Bool → Engine σ Signal} (limit position n : Nat)
    (hbody : ∀ i first, position ≤ i → i < position + n → Ensures (fun s => A s ∧ (first = false → B i s))
      (body i first) (fun signal s => Q signal s ∧ B i s) E) :
    Ensures A (overPositions body limit position n) (AfterTurns A Q) E := by
  induction n generalizing position with
  | zero => exact .pure fun s hs => .inl ⟨rfl, .inl hs⟩
  | succ n ih =>
    have hsettle := ensures_settlePosition again (fun first => hbody position first (Nat.le_refl _) (by omega)) true limit
    refine .bind (hsettle.strengthen fun s hs => ⟨hs, nofun⟩) fun v => ?_
    cases v with
    | advance  => exact ih (position + 1) fun i first hi hn => hbody i first (by omega) (by omega)
    | leave    => exact .pure fun s hs => .inl ⟨rfl, .inr hs⟩
    | bubble t => exact .pure fun s hs => .inr ⟨t, rfl, hs⟩

theorem ensures_whileHolds {holds : Engine σ Bool} {body : Nat → Engine σ Signal} (hholds : Ensures A holds (fun _ => A) E)
    (hbody : ∀ i, Ensures A (body i) Q E) (limit iteration repeats n : Nat) :
    Ensures A (whileHolds holds body limit iteration repeats n) (AfterTurns A Q) E := by
  induction n generalizing iteration repeats with
  | zero => exact .pure fun s hs => .inl ⟨rfl, .inl hs⟩
  | succ n ih =>
    have hagain : ∀ signal : Signal, signal.verdict = .advance → ∀ iteration repeats,
        Ensures (Q signal) (whileHolds holds body limit iteration repeats n) (AfterTurns A Q) E :=
      fun signal hadvance _ _ => (ih _ _).strengthen fun s => again signal s hadvance
    refine .bind hholds fun go => ?_
    split
    · exact .pure fun s hs => .inl ⟨rfl, .inl hs⟩
    · refine .bind (hbody iteration) fun signal => ?_
      cases signal with
      | repeatLoop =>
        dsimp only
        split
        · exact hagain _ rfl _ _
        · exact hagain _ rfl _ _
      | breakLoop    => exact .pure fun s hs => .inl ⟨rfl, .inr hs⟩
      | goto t       => exact .pure fun s hs => .inr ⟨t, rfl, hs⟩
      | next         => exact hagain _ rfl _ _
      | skip         => exact hagain _ rfl _ _
      | continueLoop => exact hagain _ rfl _ _

end Turns

/-! ## Loops -/

theorem Program.loopRows_cases (p : Program) (source : Option String) (row : DataRow) :
    (p.loopRows source row = ⟨p.input.primary.name, true, p.input.primary.rows⟩) ∨
      (p.loopRows source row).isPrimary = false ∧ (p.loopRows source row).source ≠ p.input.primary.name := by
  unfold Program.loopRows
  dsimp only
  split
  · exact .inl rfl
  · split
    · exact .inl rfl
    · rename_i hname
      split
      · exact .inr ⟨rfl, hname⟩
      · exact .inr ⟨rfl, hname⟩

theorem limited_getElem? {limit : Option UInt64} {items : List Record} {i : Nat} {item : Record}
    (h : (limited limit items)[i]? = some item) : items[i]? = some item := by
  cases limit with
  | none   => exact h
  | some n =>
    rw [limited, List.getElem?_take] at h
    split at h
    · exact h
    · cases h

def Session.began (r : Nat) (row : DataRow) (s : Session σ) : Session σ :=
  s.onContext fun c => { c with rowIndex := r, row := row, rowsProcessed := c.rowsProcessed + 1 }

theorem ensures_beginRow {p : Program} {i : Nat} {row : DataRow} {P Q : Session σ → Prop}
    (h : ∀ s, P s → Q ((s.began (p.rowOffset + i) row).told env (.rowStarted (p.rowOffset + i)))) :
    Ensures P (beginRow env p i row) (fun _ => Q) E := by
  refine .bind (R := fun _ s => ∃ s₀, P s₀ ∧ s = s₀.began (p.rowOffset + i) row)
    (.modifyContext fun s hs => ⟨s, hs, rfl⟩) fun _ => .report fun s ⟨s₀, hs₀, hs⟩ => ?_
  subst hs
  exact h s₀ hs₀

/-- The rule of a loop, by its turns.  `A` holds before and after each, and `Q` of the signal that the body gives.  `B` is
what an execution of a data loop leaves at its position. -/
structure TurnRule (env : Env σ) (p : Program) (start : Nat) (spec : LoopSpec) (row : DataRow)
    (body : DataRow → Engine σ Signal) (A : Session σ → Prop) (Q : Signal → Session σ → Prop) (B : Nat → Session σ → Prop)
    (E : Halt → Session σ → Prop) : Prop where
  rest : Ensures A (checkpoint env) (fun _ => A) E
  test : ∀ condition most, spec.mode = .whileHolds condition most → Ensures A
    (do modifyContext fun c => { c with stepIndex := start }
        evaluate env row condition) (fun _ => A) E
  turn : (∀ source most, spec.mode ≠ .data source most) → ∀ i, Ensures A
    (do report env (.loopIteration start i spec.id)
        body row) Q E
  position : ∀ source most i item first, spec.mode = .data source most →
    (limited most (p.loopRows source row).items)[i]? = some item →
    Ensures (fun s => A s ∧ (first = false → B i s))
      (do checkpoint env
          enterRow env p (p.loopRows source row).isPrimary first i (row.mergeItem (p.loopRows source row).source item)
          report env (.loopIteration start i spec.id)
          body (row.mergeItem (p.loopRows source row).source item))
      (fun signal s => Q signal s ∧ B i s) E
  again : ∀ signal s, signal.verdict = .advance → Q signal s → A s
  restore : ∀ s, A s → A (s.onContext fun c => { c with row := row })
  restoreOf : ∀ signal s, Q signal s → Q signal (s.onContext fun c => { c with row := row })

section Rules

variable {p : Program} {start : Nat} {spec : LoopSpec} {row : DataRow} {body : DataRow → Engine σ Signal}

/-- **The rule of a loop**: what its turns keep is kept. -/
theorem TurnRule.runLoop {A : Session σ → Prop} {Q : Signal → Session σ → Prop} {B : Nat → Session σ → Prop}
    (h : TurnRule env p start spec row body A Q B E) :
    Ensures A (runLoop env p start spec row body) (AfterTurns A Q) E := by
  have hrestore : ∀ signal s, AfterTurns A Q signal s →
      AfterTurns A Q signal (s.onContext fun c => { c with row := row }) := by
    rintro signal s (⟨rfl, hs | hs⟩ | ⟨t, rfl, hs⟩)
    · exact .inl ⟨rfl, .inl (h.restore s hs)⟩
    · exact .inl ⟨rfl, .inr (h.restoreOf _ s hs)⟩
    · exact .inr ⟨t, rfl, h.restoreOf _ s hs⟩
  unfold FormReplay.runLoop
  dsimp only
  split
  · rename_i times hmode
    refine ensures_overPositions (B := fun _ _ => True) h.again _ _ _ fun i first _ _ => ?_
    refine Ensures.imp (.bind h.rest fun _ => h.turn (by rw [hmode]; nofun) i) (fun s hs => hs.1)
      (fun _ s hs => ⟨hs, trivial⟩) fun _ _ => id
  · rename_i condition most hmode
    exact ensures_whileHolds h.again (.bind h.rest fun _ => h.test condition most hmode)
      (h.turn (by rw [hmode]; nofun)) _ _ _ _
  · rename_i source most hmode
    refine .bind (R := AfterTurns A Q) (ensures_overPositions (B := B) h.again _ _ _ fun i first _ hi => ?_) fun signal => ?_
    · have hi : i < (limited most (p.loopRows source row).items).length := by simpa using hi
      have hitem : (limited most (p.loopRows source row).items).toArray.getD i .empty =
          (limited most (p.loopRows source row).items)[i] := by simp [hi]
      rw [hitem]
      exact h.position source most i _ first hmode (List.getElem?_eq_getElem hi)
    · refine .bind (R := fun _ => AfterTurns A Q signal) ?_ fun _ => .pure fun s hs => hs
      exact .modifyContext (hrestore signal)

theorem TurnRule.ofKeeps {A : Session σ → Prop} {Q : Signal → Session σ → Prop}
    (hk : ∀ e, Loops start e → e.Keeps env A E) (hfuel : ∀ s, A s → E .outOfFuel s)
    (hbody : ∀ row, Ensures A (body row) Q E) (again : ∀ signal s, signal.verdict = .advance → Q signal s → A s)
    (hrestore : ∀ signal s, Q signal s → Q signal (s.onContext fun c => { c with row := row })) :
    TurnRule env p start spec row body A Q (fun _ _ => True) E := by
  have hcheck : Ensures A (checkpoint env) (fun _ => A) E :=
    (does_checkpoint (F := Loops start) fun _ => .rest).ensures hk hfuel
  have hturn : ∀ i row, Ensures A (do report env (.loopIteration start i spec.id); body row) Q E :=
    fun i row => .bind (R := fun _ => A) (.report (hk _ (.iteration i _))) fun _ => hbody row
  refine ⟨hcheck, fun condition _ _ => ?_, fun _ i => hturn i row, fun source most i item first _ _ => ?_, again,
    hk _ (.row row) fun _ _ => rfl, hrestore⟩
  · have hcondition : Does env (Loops start) (evaluate env row condition) := 
      does_evaluate row condition fun _ => .judges
    refine .bind (R := fun _ => A) (.modifyContext (hk _ .current fun _ _ => rfl)) fun _ => ?_
    exact hcondition.ensures hk hfuel
  · have henter : ∀ isPrimary merged, Ensures A (enterRow env p isPrimary first i merged) (fun _ => A) E := by
      intro isPrimary merged
      unfold enterRow
      split
      · refine .bind (R := fun _ => A) (.modifyContext (hk _ (.began _ _) fun _ _ => rfl)) fun _ => ?_
        exact .report (hk _ (.rowStarted _))
      · exact .modifyContext (hk _ (.row _) fun _ _ => rfl)
    exact Ensures.imp (.bind hcheck fun _ => .bind (henter _ _) fun _ => hturn i _) (fun s hs => hs.1)
      (fun _ s hs => ⟨hs, trivial⟩) fun _ _ => id

/-- **A data loop gives the row around back**, however it is left. -/
theorem ensures_runLoop_row {source : Option String} {most : Option UInt64} (hmode : spec.mode = .data source most)
    (P : Session σ → Prop) :
    Ensures P (FormReplay.runLoop env p start spec row body) (fun _ s => s.context.row = row) fun _ _ => True := by
  unfold FormReplay.runLoop
  rw [hmode]
  exact .bind (.anything _) fun signal => .bind (R := fun _ s => s.context.row = row) (.modifyContext fun _ _ => rfl) fun _ =>
    .pure fun _ => id

/-! ### Places to go to

`A` is the invariant of going on to a place, if there is one to go to. -/

def AfterLoop (A : Option Nat → Session σ → Prop) (signal : Signal) (s : Session σ) : Prop :=
  A signal.target? s ∧ (signal = .next ∨ ∃ t, signal = .goto t)

theorem Signal.target?_of_advance {signal : Signal} (h : signal.verdict = .advance) : signal.target? = none := by
  cases signal <;> first | rfl | cases h

theorem AfterTurns.afterLoop {A : Option Nat → Session σ → Prop} {signal : Signal} {s : Session σ}
    (h : AfterTurns (A none) (fun signal => A signal.target?) signal s) : AfterLoop A signal s := by
  obtain ⟨rfl, hs | hs⟩ | ⟨t, rfl, hs⟩ := h
  · exact ⟨hs, .inl rfl⟩
  · exact ⟨hs, .inl rfl⟩
  · exact ⟨hs, .inr ⟨t, rfl⟩⟩

variable {A : Option Nat → Session σ → Prop}

structure LoopRule (env : Env σ) (p : Program) (start : Nat) (spec : LoopSpec) (row : DataRow)
    (body : DataRow → Engine σ Signal) (A : Option Nat → Session σ → Prop) (B : Nat → Session σ → Prop)
    (E : Halt → Session σ → Prop) : Prop where
  rest : Ensures (A none) (checkpoint env) (fun _ => A none) E
  test : ∀ condition most, spec.mode = .whileHolds condition most → Ensures (A none)
    (do modifyContext fun c => { c with stepIndex := start }
        evaluate env row condition) (fun _ => A none) E
  turn : (∀ source most, spec.mode ≠ .data source most) → ∀ i, Ensures (A none)
    (do report env (.loopIteration start i spec.id)
        body row) (fun signal => A signal.target?) E
  position : ∀ source most i item first, spec.mode = .data source most →
    (limited most (p.loopRows source row).items)[i]? = some item →
    Ensures (fun s => A none s ∧ (first = false → B i s))
      (do checkpoint env
          enterRow env p (p.loopRows source row).isPrimary first i (row.mergeItem (p.loopRows source row).source item)
          report env (.loopIteration start i spec.id)
          body (row.mergeItem (p.loopRows source row).source item))
      (fun signal s => A signal.target? s ∧ B i s) E
  restore : ∀ goal s, A goal s → A goal (s.onContext fun c => { c with row := row })

theorem LoopRule.runLoop {B : Nat → Session σ → Prop} (h : LoopRule env p start spec row body A B E) :
    Ensures (A none) (runLoop env p start spec row body) (AfterLoop A) E := by
  have hrule : TurnRule env p start spec row body (A none) (fun signal => A signal.target?) B E := {
    rest := h.rest
    test := h.test
    turn := h.turn
    position := h.position
    again := fun _ s hadvance hs => Signal.target?_of_advance hadvance ▸ hs
    restore := h.restore none
    restoreOf := fun _ => h.restore _ }
  exact hrule.runLoop.weaken fun _ _ => AfterTurns.afterLoop

theorem ensures_runLoop_keeps (hk : ∀ goal e, Loops start e → e.Keeps env (A goal) E) (hfuel : ∀ s, A none s → E .outOfFuel s)
    (hbody : ∀ row, Ensures (A none) (body row) (fun signal => A signal.target?) E) :
    Ensures (A none) (FormReplay.runLoop env p start spec row body) (AfterLoop A) E := by
  have hrule : TurnRule env p start spec row body (A none) (fun signal => A signal.target?) (fun _ _ => True) E :=
    .ofKeeps (hk none) hfuel hbody (fun _ s hadvance hs => Signal.target?_of_advance hadvance ▸ hs)
      fun signal => hk signal.target? _ (.row row) fun _ _ => rfl
  exact hrule.runLoop.weaken fun _ _ => AfterTurns.afterLoop

end Rules

end FormReplay
