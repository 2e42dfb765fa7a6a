import FormReplay.Proofs.Engine.Run
/-!
# The account of rows

A run counts the primary rows that it begins.  Each of them is begun for the body that is run next, against a row that
the item at this index of the dataset was merged into last, and the index is one of the window that was set.  Without
loops the rows of the window are begun in turn, so runs over windows that follow on one another begin each row once.
-/
namespace FormReplay

variable {σ : Type} {env : Env σ}

/-! ## Rows in a trace -/

def Moment.begun? : Moment → Option Nat
  | .progress (.rowStarted i) => some i
  | _                         => none

def Moment.body? : Moment → Option DataRow
  | .entered _ _ row => some row
  | _                => none

def begunRows (trace : List Entry) : List Nat := trace.filterMap (·.moment.begun?)

/-- The primary row that was begun last, as long as no body was run for it. -/
def unentered? : List Entry → Option Nat
  | [] => none
  | e :: past => if e.moment.body?.isSome then none else e.moment.begun?.or (unentered? past)

/-- What an entry may tell of rows, where `A` says which rows may be begun for which bodies: the rows begun are counted,
and none is begun while another awaits its body. -/
structure Tells (A : Nat → DataRow → Prop) (e : Entry) (past : List Entry) : Prop where
  count : e.context.rowsProcessed = (begunRows (e :: past)).length
  alone : ∀ i, e.moment.begun? = some i → unentered? past = none
  body  : ∀ row, e.moment.body? = some row → ∀ i, unentered? past = some i → A i row

def Moment.LeavesRows (m : Moment) : Prop := m.begun? = none ∧ m.body? = none

theorem Moment.KeepsRow.leavesRows {m : Moment} (h : m.KeepsRow) : m.LeavesRows := by
  cases m with
  | progress event => cases event <;> first | exact ⟨rfl, rfl⟩ | exact h.elim
  | entered _ _ _  => exact h.elim
  | _              => exact ⟨rfl, rfl⟩

theorem begunRows_cons {e : Entry} (he : e.moment.begun? = none) (past : List Entry) :
    begunRows (e :: past) = begunRows past :=
  List.filterMap_cons_none he

theorem unentered?_cons {e : Entry} (he : e.moment.LeavesRows) (past : List Entry) :
    unentered? (e :: past) = unentered? past := by
  rw [unentered?, he.1, he.2]
  rfl

theorem begunRows_reverse (trace : List Entry) : begunRows trace.reverse = (begunRows trace).reverse :=
  List.filterMap_reverse

theorem body_of_begun {A : Nat → DataRow → Prop} {past : List Entry} {e : Entry} {i : Nat} (hi : e.moment.begun? = some i)
    (later : List Entry) (h : Always (Tells A) (later ++ e :: past)) :
    (unentered? (later ++ e :: past) = some i ∧ ∀ e' ∈ later, e'.moment.LeavesRows) ∨
      ∃ newer body between row, later = newer ++ body :: between ∧ body.moment.body? = some row ∧ A i row ∧
        ∀ e' ∈ between, e'.moment.LeavesRows := by
  induction later with
  | nil =>
    have hbody : e.moment.body? = none := by
      unfold Moment.begun? at hi
      split at hi
      · rename_i hm
        rw [hm]
        rfl
      · cases hi
    refine .inl ⟨?_, fun _ he' => absurd he' List.not_mem_nil⟩
    rw [List.nil_append, unentered?, hbody, hi]
    rfl
  | cons newest later ih =>
    obtain ⟨hunentered, hleaves⟩ | ⟨newer, body, between, row, hlater, hrest⟩ := ih h.2
    · cases hbody : newest.moment.body? with
      | some row => exact .inr ⟨[], newest, later, row, rfl, hbody, h.1.body row hbody i hunentered, hleaves⟩
      | none =>
        cases hbegun : newest.moment.begun? with
        | some j =>
          -- No other row is begun meanwhile.
          cases hunentered.symm.trans (h.1.alone j hbegun)
        | none =>
          have hnewest : newest.moment.LeavesRows := ⟨hbegun, hbody⟩
          exact .inl ⟨(unentered?_cons hnewest _).trans hunentered, List.forall_mem_cons.2 ⟨hnewest, hleaves⟩⟩
    · exact .inr ⟨newest :: newer, body, between, row, by rw [hlater]; rfl, hrest⟩

/-! ## Sessions that keep the account -/

/-- The rows begun are counted, `B` holds of them, and a row that awaits its body is one that `D` holds of. -/
structure Tallied (A : Nat → DataRow → Prop) (B : List Nat → Prop) (D : Nat → Prop) (s : Session σ) : Prop where
  always    : Always (Tells A) s.trace
  count     : s.context.rowsProcessed = (begunRows s.trace).length
  begun     : B (begunRows s.trace)
  unentered : ∀ i, unentered? s.trace = some i → D i

abbrev Settled (A : Nat → DataRow → Prop) (B : List Nat → Prop) : Session σ → Prop := Tallied A B fun _ => False

namespace Tallied

variable {A : Nat → DataRow → Prop} {B : List Nat → Prop} {D : Nat → Prop} {s : Session σ}

theorem congr (h : Tallied A B D s) {s' : Session σ} (htrace : s'.trace = s.trace)
    (hcount : s'.context.rowsProcessed = s.context.rowsProcessed) : Tallied A B D s' := by
  refine ⟨htrace ▸ h.always, ?_, htrace ▸ h.begun, htrace ▸ h.unentered⟩
  rw [hcount, htrace]
  exact h.count

theorem mono (h : Tallied A B D s) {B' : List Nat → Prop} {D' : Nat → Prop} (hB : ∀ rows, B rows → B' rows)
    (hD : ∀ i, D i → D' i) : Tallied A B' D' s :=
  ⟨h.always, h.count, hB _ h.begun, fun i hi => hD i (h.unentered i hi)⟩

theorem record (h : Tallied A B D s) {m : Moment} (hm : m.LeavesRows) : Tallied A B D (s.record m) := by
  have hbegun : begunRows (s.record m).trace = begunRows s.trace := begunRows_cons hm.1 s.trace
  have hcount : s.context.rowsProcessed = (begunRows (s.record m).trace).length := by rw [hbegun, h.count]
  refine ⟨⟨⟨hcount, fun i hi => ?_, fun row hrow => ?_⟩, h.always⟩, hcount, hbegun ▸ h.begun, ?_⟩
  · rw [hm.1] at hi
    cases hi
  · rw [hm.2] at hrow
    cases hrow
  · intro i hi
    exact h.unentered i ((unentered?_cons hm s.trace).symm.trans hi)

theorem enter {row : DataRow} (h : Tallied A B (A · row) s) (first last : Nat) :
    Settled A B (s.record (.entered first last row)) := by
  refine ⟨⟨⟨h.count, fun i hi => ?_, fun row' hrow i hi => ?_⟩, h.always⟩, h.count, h.begun, nofun⟩
  · cases hi
  · cases hrow
    exact h.unentered i hi

end Tallied

variable {A : Nat → DataRow → Prop} {B : List Nat → Prop} {D : Nat → Prop}

theorem keptWithinRow_tallied : KeptWithinRow (Tallied (σ := σ) A B D) where
  keptBy := {
    acted := fun _ => trivial
    record := fun _ _ hm hs => hs.record hm.leavesRows
    world := fun _ _ hs => hs.congr rfl rfl }
  congr _ _ htrace _ hcount hs := hs.congr htrace hcount

theorem Tallied.begin {s : Session σ} (h : Settled A B s) {i : Nat} {row : DataRow} (hrow : A i row)
    {B' : List Nat → Prop} (hB : ∀ rows, B rows → B' (i :: rows)) :
    Tallied A B' (A · row) ((s.began i row).record (.progress (.rowStarted i))) := by
  have hcount : s.context.rowsProcessed + 1 = (i :: begunRows s.trace).length := by rw [List.length_cons, h.count]
  refine ⟨⟨⟨hcount, fun j hj => ?_, fun row' hrow' => ?_⟩, h.always⟩, hcount, hB _ h.begun, fun j hj => ?_⟩
  · exact Option.eq_none_iff_forall_ne_some.2 fun k hk => h.unentered k hk
  · cases hrow'
  · cases hj
    exact hrow

/-! ## Steps and programs -/

theorem tallied_beginRow {p : Program} {i : Nat} {row : DataRow} (hrow : A (p.rowOffset + i) row) {B' : List Nat → Prop}
    (hB : ∀ rows, B rows → B' ((p.rowOffset + i) :: rows)) {E : Halt → Session σ → Prop} :
    Ensures (Settled A B) (beginRow env p i row) (fun _ => Tallied A B' (A · row)) E :=
  ensures_beginRow fun _ hs => keptWithinRow_tallied.keptBy.accept _ _ (hs.begin hrow hB)

/-- A program without loops that has come to the row at a position has begun those before it, in turn. -/
def Program.Begun (p : Program) (k : Nat) (rows : List Nat) : Prop :=
  p.tables.hasLoops = false → rows = (List.range' p.rowOffset k).reverse

section Programs

variable {p : Program}

def Left (A : Nat → DataRow → Prop) (p : Program) : Session σ → Prop :=
  Settled A fun rows => ∃ k ≤ p.rows.length, p.Begun k rows

theorem Tallied.left {k : Nat} (hk : k ≤ p.rows.length) {s : Session σ} (h : Settled A (p.Begun k) s) : Left A p s :=
  h.mono (fun _ hB => ⟨k, hk, hB⟩) fun _ => id

variable (hloop : ∀ i item (outer : DataRow), p.input.primary.rows[i]? = some item →
  A (p.rowOffset + i) (outer.mergeItem p.input.primary.name item))
include hloop

theorem rowRule_settled (tables : p.tables.Within p.workflow.steps.length) {k : Nat} (hk : k ≤ p.rows.length) :
    RowRule env p (Settled A (p.Begun k)) (fun _ => Settled A (p.Begun k)) (fun row => Tallied A (p.Begun k) (A · row))
      (fun _ => Left A p) := by
  have hkept : KeptWithinRow (Settled (σ := σ) A (p.Begun k)) := keptWithinRow_tallied
  have hleft : ∀ (_ : Halt) (s : Session σ), Settled A (p.Begun k) s → Left A p s := fun _ _ => Tallied.left hk
  exact {
    tables
    rest := hkept.rest hleft
    arrive := fun i => .bind (hkept.rest hleft) fun _ => ensures_visit fun s hs =>
      hkept.keptBy.record _ (.visited i) trivial (hs.congr rfl rfl)
    stay := fun _ _ => id
    condition := fun _ _ c row _ _ => hkept.evaluate hleft row c
    test := fun _ _ c row _ _ => .bind (R := fun _ => Settled A (p.Begun k))
      (.modifyContext fun _ hs => hs.congr rfl rfl) fun _ => hkept.evaluate hleft row c
    step := fun i step row _ _ => hkept.executeStep hleft p i step row
    begin := by
      refine fun i outer item hloops hitem => tallied_beginRow (hloop i item outer hitem) fun rows _ hnone => ?_
      rw [hloops] at hnone
      cases hnone
    ready := fun _ _ hs => hs.mono (fun _ => id) fun _ => False.elim
    row := fun _ _ hs => hs.congr rfl rfl
    iteration := fun _ _ _ row _ hs => (keptWithinRow_tallied (D := (A · row))).told _ nofun hs
    entered := fun first last _ _ hs => hs.enter first last
    left := fun _ _ hs => hs.record ⟨rfl, rfl⟩
    fault := fun fault => hleft (.error (.structural fault))
    outOfFuel := hleft .outOfFuel }

/-- **A program keeps the account**: without loops it comes to all of its rows, one after the other. -/
theorem settled_executeProgram (tables : p.tables.Within p.workflow.steps.length)
    (hrow : p.tables.hasLoops = false → ∀ i row, p.rows[i]? = some row → A (p.rowOffset + i) row) :
    Ensures (Settled A (p.Begun 0)) (executeProgram env p) (fun _ => Settled A (p.Begun p.rows.length))
      fun _ => Left A p := by
  have hrule : ∀ {k : Nat} (hk : k ≤ p.rows.length), RowRule env p _ _ _ _ := fun hk => rowRule_settled hloop tables hk
  unfold executeProgram
  split
  · rename_i hloops
    have hany : ∀ k rows, p.Begun k rows := fun k rows hnone => by
      rw [hloops] at hnone
      cases hnone
    refine .bind (((hrule (Nat.zero_le _)).executeRange .empty).strengthen ((hrule (Nat.zero_le _)).ready .empty)) ?_
    refine fun signal => (ensures_checkEscaped (fun _ _ _ => Tallied.left (Nat.zero_le _)) signal).weaken ?_
    exact fun _ s hs => hs.mono (fun _ _ => hany _ _) fun _ => id
  · rename_i hloops
    have hnone : p.tables.hasLoops = false := Bool.eq_false_iff.2 hloops
    have hlt : ∀ {i row}, p.rows[i]? = some row → i < p.rows.length := fun hi => (List.getElem?_eq_some_iff.1 hi).1
    refine ensures_executeRows (P := fun k => Settled A (p.Begun k))
      (S := fun i row => Tallied A (p.Begun (i + 1)) (A · row)) (O := Signal.OfOutcome) (fun k hk => (hrule hk).rest)
      (fun i row hi => ?_) (fun i row hi => (hrule (hlt hi)).executeRange row)
      fun k signal hk => ensures_checkEscaped (fun _ _ _ => Tallied.left hk) signal
    refine tallied_beginRow (hrow hnone i row hi) fun rows hrows _ => ?_
    rw [hrows hnone, List.range'_concat, List.reverse_append, Nat.one_mul]
    rfl

end Programs

/-! ## Runs -/

/-- Row `i` of a dataset is in the window of a run, and is the item that was merged into a row last. -/
structure Dataset.Carries (d : Dataset) (o : RunOptions) (i : Nat) (row : DataRow) : Prop where
  merged : ∃ item outer, d.rows[i]? = some item ∧ row = DataRow.mergeItem outer d.name item
  first  : o.skipRows ≤ i
  last   : ∀ n ∈ o.limitRows, i < o.skipRows + n

/-- Row `i` may be begun for a body that is run against a row.  Where a workflow without loops is run over no rows at
all, the empty row counts as the first one that is not skipped. -/
def Workflow.Accounts (w : Workflow) (d : Dataset) (o : RunOptions) (i : Nat) (row : DataRow) : Prop :=
  d.Carries o i row ∨ w.LoopFree ∧ d.rows = [] ∧ i = o.skipRows ∧ row = .empty

def Dataset.windowEnd (d : Dataset) (o : RunOptions) : Nat :=
  match o.limitRows with
  | some n => min (o.skipRows + n) d.rows.length
  | none   => d.rows.length

def Dataset.due (d : Dataset) (o : RunOptions) : List Nat :=
  if d.rows.isEmpty then [o.skipRows] else List.range' o.skipRows (d.windowEnd o - o.skipRows)

theorem Dataset.length_sliced (d : Dataset) (o : RunOptions) :
    (d.sliced o.skipRows o.limitRows).rows.length = d.windowEnd o - o.skipRows := by
  unfold Dataset.sliced Dataset.windowEnd
  cases o.limitRows with
  | none   => exact List.length_drop
  | some n =>
    dsimp only
    rw [List.length_take, List.length_drop]
    omega

theorem Dataset.due_eq (w : Workflow) (tables : JumpTables) (input : RunInput) (o : RunOptions) :
    input.primary.due o = List.range' o.skipRows (w.program tables input o).rows.length := by
  have hlength : (w.program tables input o).input.primary.rows.length = input.primary.windowEnd o - o.skipRows :=
    input.primary.length_sliced o
  unfold Dataset.due
  split
  · rename_i hempty
    have hnone : (w.program tables input o).input.primary.rows = [] := by
      refine List.eq_nil_iff_length_eq_zero.2 ?_
      rw [hlength, Dataset.windowEnd, List.isEmpty_iff.1 hempty]
      cases o.limitRows <;> simp
    have hwithout : (w.program tables input o).runsWithoutRows = true := hempty
    rw [Program.rows, hnone, hwithout]
    rfl
  · rename_i hempty
    have hwithout : (w.program tables input o).runsWithoutRows = false := Bool.eq_false_iff.2 hempty
    rw [Program.rows, hwithout, Bool.and_false, ← hlength, if_neg nofun, List.length_map]

section Account

variable (env : Env σ) (w : Workflow) (input : RunInput) (world : World σ)

theorem run_tallied :
    let p := w.program w.analyze.1 input env.options
    let A := w.Accounts input.primary env.options
    ∃ s : Session σ, Left A p s ∧ history env w input world = s.trace ∧ ∀ f ∈ run env w input world,
      f.trace = s.trace.reverse ∧ f.report.rowsProcessed = s.context.rowsProcessed ∧
      (∀ n, f.report.outcome = .completed n → n = s.context.rowsProcessed ∧ Settled A (p.Begun p.rows.length) s) := by
  intro p A
  have hcarries : ∀ i item (outer : DataRow), p.input.primary.rows[i]? = some item →
      A (p.rowOffset + i) (outer.mergeItem p.input.primary.name item) := fun i item outer hitem => by
    obtain ⟨hrow, hlimit⟩ := Workflow.program_getElem? hitem
    exact .inl ⟨⟨item, outer, hrow, rfl⟩, Nat.le_add_right _ _, fun n hn => Nat.add_lt_add_left (hlimit n hn) _⟩
  have hexecution : Ensures (Settled A (p.Begun 0)) (execution env w input) (fun _ => Settled A (p.Begun p.rows.length))
      fun _ => Left A p := by
    refine ensures_execution (fun hsound => ?_) fun _ _ => Tallied.left (Nat.zero_le _)
    refine settled_executeProgram hcarries w.within_analyze fun hloops i row hi => ?_
    obtain ⟨item, hitem, rfl⟩ | ⟨hwithout, rfl, rfl⟩ := Program.rows_getElem? hi
    · exact hcarries i item .empty hitem
    · exact .inr ⟨Workflow.loopFree_of_hasLoops hsound hloops, List.isEmpty_iff.1 hwithout, rfl, rfl⟩
  have hnew : Settled A (p.Begun 0) (world.session w.handlers) := ⟨trivial, rfl, fun _ => rfl, nofun⟩
  have hstart : Settled A (p.Begun 0) (started env w world) := keptWithinRow_tallied.told _ nofun hnew
  have hcontext : ∀ (r : Except RunError Unit) (s : Session σ), (s.ended env r).context = s.context :=
    fun r s => (s.told_learned _).2
  obtain ⟨r, s, hok, herror, hrun, hhistory⟩ | ⟨s, hs, hrun, hhistory⟩ := run_ensures hexecution world hstart
  · have hleft : Left A p s := by
      cases r with
      | ok a    => exact (hok a rfl).left (Nat.le_refl _)
      | error e => exact herror e rfl
    refine ⟨s.ended env r, keptWithinRow_tallied.told _ nofun hleft, hhistory, fun f hf => ?_⟩
    rw [hrun] at hf
    cases hf
    rw [hcontext]
    refine ⟨rfl, rfl, fun n hn => ?_⟩
    cases r with
    | ok a =>
      cases hn
      exact ⟨rfl, keptWithinRow_tallied.told _ nofun (hok a rfl)⟩
    | error e =>
      unfold Session.finished Session.report conclude at hn
      cases e <;> cases hn
  · exact ⟨s, hs, hhistory, fun f hf => by rw [hrun] at hf; cases hf⟩

/-- A completed run without loops has begun the rows that were due, in turn. -/
theorem begunRows_of_completed (hfree : w.LoopFree) {f : Finished σ} (hrun : run env w input world = some f) {n : Nat}
    (hn : f.report.outcome = .completed n) : begunRows f.trace = input.primary.due env.options := by
  obtain ⟨s, -, -, hfinished⟩ := run_tallied env w input world
  obtain ⟨htrace, -, hcompleted⟩ := hfinished f hrun
  rw [htrace, begunRows_reverse, (hcompleted n hn).2.begun hfree.hasLoops, List.reverse_reverse]
  exact (Dataset.due_eq w w.analyze.1 input env.options).symm

/-- However a run without loops ends, it has begun the first of the rows that were due, in turn. -/
theorem begunRows_prefix (hfree : w.LoopFree) :
    (begunRows (history env w input world)).reverse <+: input.primary.due env.options := by
  obtain ⟨s, hleft, hhistory, -⟩ := run_tallied env w input world
  obtain ⟨k, hk, hbegun⟩ := hleft.begun
  rw [hhistory, hbegun hfree.hasLoops, List.reverse_reverse, Dataset.due_eq w w.analyze.1 input env.options]
  refine ⟨List.range' (env.options.skipRows + k) ((w.program w.analyze.1 input env.options).rows.length - k), ?_⟩
  have happend := @List.range'_append_1 env.options.skipRows k ((w.program w.analyze.1 input env.options).rows.length - k)
  rwa [Nat.add_sub_of_le hk] at happend

end Account

/-- Completed runs of workflows without loops, over windows of one dataset that follow on one another from a row on.
The last window has no limit. -/
inductive Dataset.Covered (d : Dataset) : Nat → List (Finished σ) → Prop
  | rest {env : Env σ} {w : Workflow} {input : RunInput} {world : World σ} {f : Finished σ} {n : Nat} :
      w.LoopFree → input.primary = d → run env w input world = some f → f.report.outcome = .completed n →
      env.options.limitRows = none → Covered d env.options.skipRows [f]
  | window {env : Env σ} {w : Workflow} {input : RunInput} {world : World σ} {f : Finished σ} {n limit : Nat}
      {fs : List (Finished σ)} :
      w.LoopFree → input.primary = d → run env w input world = some f → f.report.outcome = .completed n →
      env.options.limitRows = some limit → Covered d (env.options.skipRows + limit) fs →
      Covered d env.options.skipRows (f :: fs)

theorem Dataset.range'_window (d : Dataset) (o : RunOptions) {limit : Nat} (hlimit : o.limitRows = some limit) :
    List.range' o.skipRows (d.windowEnd o - o.skipRows) ++
        List.range' (o.skipRows + limit) (d.rows.length - (o.skipRows + limit)) =
      List.range' o.skipRows (d.rows.length - o.skipRows) := by
  have hend : d.windowEnd o = min (o.skipRows + limit) d.rows.length := by rw [Dataset.windowEnd, hlimit]
  rw [hend]
  by_cases hle : o.skipRows + limit ≤ d.rows.length
  · rw [Nat.min_eq_left hle, Nat.add_sub_cancel_left, List.range'_append_1]
    congr 1
    omega
  · have hnone : d.rows.length - (o.skipRows + limit) = 0 := by omega
    rw [Nat.min_eq_right (by omega), hnone]
    exact List.append_nil _

/-- Runs over windows that follow on one another begin each row from the first window on once, in turn. -/
theorem Dataset.Covered.begunRows {d : Dataset} (hrows : d.rows ≠ []) {skip : Nat} {fs : List (Finished σ)}
    (h : d.Covered skip fs) : fs.flatMap (FormReplay.begunRows ·.trace) = List.range' skip (d.rows.length - skip) := by
  have hdue : ∀ o, d.due o = List.range' o.skipRows (d.windowEnd o - o.skipRows) := fun o =>
    if_neg (by simpa using hrows)
  induction h with
  | @rest env w input world f n hfree hinput hrun hn hlimit =>
    subst hinput
    rw [List.flatMap_singleton, begunRows_of_completed env w input world hfree hrun hn, hdue, Dataset.windowEnd, hlimit]
  | @window env w input world f n limit fs hfree hinput hrun hn hlimit _ ih =>
    subst hinput
    rw [List.flatMap_cons, begunRows_of_completed env w input world hfree hrun hn, hdue, ih]
    exact input.primary.range'_window env.options hlimit

/-- **The account of rows**: at every moment of a run and in its report the rows begun are counted.  Each of them is begun
for the body that is run next, before any other row or body, and that body's row had the item at this index of the
dataset merged last; the index is in the window that was set, and never exceeds what is skipped or there.  A run without
loops begins the rows due in turn, and all of them if it is completed.  So completed runs over windows that follow on one
another from the first row to the last begin every row exactly once. -/
theorem rows_accounted (env : Env σ) (w : Workflow) (input : RunInput) (world : World σ) :
    let d := input.primary
    let trace := history env w input world
    (∀ later e past, trace = later ++ e :: past → e.context.rowsProcessed = (begunRows (e :: past)).length) ∧
    (∀ f ∈ run env w input world, f.report.rowsProcessed = (begunRows f.trace).length ∧
      ∀ n, f.report.outcome = .completed n → n = f.report.rowsProcessed) ∧
    (∀ later e past i, trace = later ++ e :: past → e.moment.begun? = some i →
      i ≤ max env.options.skipRows d.rows.length ∧
      ∃ newer body between row, later = newer ++ body :: between ∧ body.moment.body? = some row ∧
        w.Accounts d env.options i row ∧ ∀ e' ∈ between, e'.moment.LeavesRows) ∧
    (w.LoopFree → (begunRows trace).reverse <+: d.due env.options ∧
      ∀ f ∈ run env w input world, f.report.outcome.isCompleted = true → begunRows f.trace = d.due env.options) ∧
    ∀ fs : List (Finished σ), d.rows ≠ [] → d.Covered 0 fs → fs.flatMap (begunRows ·.trace) = List.range d.rows.length := by
  intro d trace
  obtain ⟨s, hleft, hhistory, hfinished⟩ := run_tallied env w input world
  have htrace : trace = s.trace := hhistory
  have halways : Always (Tells (w.Accounts d env.options)) trace := htrace ▸ hleft.always
  have hnone : unentered? trace = none := by
    rw [htrace]
    exact Option.eq_none_iff_forall_ne_some.2 hleft.unentered
  refine ⟨fun later e past hsplit => ?_, fun f hf => ?_, fun later e past i hsplit hi => ?_, fun hfree => ⟨?_, ?_⟩, ?_⟩
  · rw [hsplit] at halways
    exact halways.split.count
  · obtain ⟨hf, hcount, hcompleted⟩ := hfinished f hf
    refine ⟨?_, fun n hn => ?_⟩
    · rw [hcount, hf, begunRows_reverse, List.length_reverse]
      exact hleft.count
    · rw [hcount]
      exact (hcompleted n hn).1
  · rw [hsplit] at halways hnone
    obtain ⟨hunentered, -⟩ | ⟨newer, body, between, row, hlater, hbody, hrow, hbetween⟩ := body_of_begun hi later halways
    · rw [hnone] at hunentered
      cases hunentered
    · refine ⟨?_, newer, body, between, row, hlater, hbody, hrow, hbetween⟩
      obtain ⟨⟨item, outer, hitem, -⟩, -, -⟩ | ⟨-, -, rfl, -⟩ := hrow
      · exact Nat.le_trans (Nat.le_of_lt (List.getElem?_eq_some_iff.1 hitem).1) (Nat.le_max_right _ _)
      · exact Nat.le_max_left _ _
  · exact begunRows_prefix env w input world hfree
  · intro f hf hcompleted
    obtain ⟨n, hn⟩ : ∃ n, f.report.outcome = .completed n := by
      unfold RunOutcome.isCompleted at hcompleted
      split at hcompleted
      · exact ⟨_, ‹_›⟩
      · cases hcompleted
    exact begunRows_of_completed env w input world hfree hf hn
  · intro fs hrows hcovered
    rw [hcovered.begunRows hrows, List.range_eq_range']
    rfl

def threePeople : RunInput := ⟨⟨"people", ["Ada", "Bo", "Cy"].map fun name => .ofFields [("name", .str name)]⟩, []⟩

def oneClick : Workflow where
  steps := [{ kind := .action .click { target := some "#next" } }]

def windowed (skip : Nat) (limit : Option Nat) : Env Unit := ⟨.inert, {}, { skipRows := skip, limitRows := limit }, 10, ⟨0, 0⟩⟩

/-- Runs over the first two of three rows and over what is left begin the three of them. -/
theorem three_rows_in_windows :
    ∃ f g : Finished Unit, threePeople.primary.Covered 0 [f, g] ∧ [f, g].flatMap (begunRows ·.trace) = [0, 1, 2] := by
  have hfree : oneClick.LoopFree := by
    intro step hstep spec hkind
    cases List.mem_singleton.1 hstep
    cases hkind
  have hfirst : (run (windowed 0 (some 2)) oneClick threePeople { host := () }).map (·.report.outcome) =
      some (.completed 2) := by decide +kernel
  have hrest : (run (windowed 2 none) oneClick threePeople { host := () }).map (·.report.outcome) =
      some (.completed 1) := by decide +kernel
  obtain ⟨f, hf, hcompleted⟩ := Option.map_eq_some_iff.1 hfirst
  obtain ⟨g, hg, hcompleted'⟩ := Option.map_eq_some_iff.1 hrest
  have hcovered : threePeople.primary.Covered 0 [f, g] :=
    .window hfree rfl hf hcompleted rfl (.rest hfree rfl hg hcompleted' rfl)
  obtain ⟨-, -, -, -, hall⟩ := rows_accounted (windowed 0 (some 2)) oneClick threePeople { host := () }
  exact ⟨f, g, hcovered, hall _ (by decide) hcovered⟩

end FormReplay
