import FormReplay.Proofs.Confinement
import FormReplay.Proofs.Engine.Run
/-!
# Where a suspended run is taken up again

A run suspended by navigation reports the primary row that it began last, and row zero if it has begun none, however
many rows it was told to skip.  The rows that it begins are rows of its dataset as it was given, none of those skipped.
So the row reported is the one that the step under way runs against, as long as no primary row is begun inside another:
the loop around is not told that its row is no longer the last one begun.
-/
namespace FormReplay

variable {σ α : Type} {env : Env σ}

/-! ## Rows in a trace -/

def lastBegun? : List Entry → Option Nat
  | [] => none
  | e :: past =>
    match e.moment with
    | .progress (.rowStarted r) => some r
    | _                         => lastBegun? past

/-- Of all items of a source, the row has this one merged last. -/
inductive DataRow.StemsFrom (source : String) (item : Record) : DataRow → Prop
  | merged (outer : DataRow) : StemsFrom source item (outer.mergeItem source item)
  | detail {row : DataRow} {other : String} (extra : Record) : other ≠ source → StemsFrom source item row →
      StemsFrom source item (row.mergeItem other extra)

namespace Dataset

/-- The row was made for the row of the dataset at an index. -/
def Runs (d : Dataset) (r : Nat) (row : DataRow) : Prop := ∃ item, d.rows[r]? = some item ∧ row.StemsFrom d.name item

/-- No row of the dataset is begun inside another: none of the open frames runs against one. -/
def Unnested (d : Dataset) : List Entry → Prop :=
  Always fun e past => match e.moment with
    | .progress (.rowStarted _) => ∀ f ∈ openFrames past, d.name ∉ f.row.lineage
    | _                         => True

/-- The index that a run keeps is that of the row begun last.  The rows that it begins are rows of the dataset, and
none of the first `skip`. -/
def Tracks (d : Dataset) (skip : Nat) (e : Entry) (past : List Entry) : Prop :=
  e.context.rowIndex = (lastBegun? (e :: past)).getD 0 ∧
    ∀ r, e.moment = .progress (.rowStarted r) → skip ≤ r ∧ d.Runs r e.context.row

/-- If the row is one of the dataset it is the one begun last, unless rows were begun inside others. -/
def Current (d : Dataset) (trace : List Entry) (row : DataRow) : Prop :=
  d.Unnested trace → d.name ∈ row.lineage → ∃ r, lastBegun? trace = some r ∧ d.Runs r row

end Dataset

theorem lastBegun?_cons {e : Entry} (he : ∀ r, e.moment ≠ .progress (.rowStarted r)) (past : List Entry) :
    lastBegun? (e :: past) = lastBegun? past := by
  rw [lastBegun?]
  split
  · rename_i r hr
    exact absurd hr (he r)
  · rfl

theorem openFrames_cons {e : Entry} (he : e.moment.KeepsRow) (past : List Entry) :
    openFrames (e :: past) = openFrames past := by
  rw [openFrames]
  split <;> rename_i hm <;> first | rfl | (rw [hm] at he; exact he.elim)

theorem Dataset.unnested_of_none {d : Dataset} {trace : List Entry} (h : lastBegun? trace = none) : d.Unnested trace := by
  induction trace with
  | nil => trivial
  | cons e past ih =>
    rw [lastBegun?] at h
    split at h
    · cases h
    · rename_i hm
      refine ⟨?_, ih h⟩
      dsimp only
      split
      · rename_i r hr
        exact absurd hr (hm r)
      · trivial

section Following

variable {d : Dataset} {skip : Nat}

theorem Dataset.Tracks.lastBegun {trace : List Entry} (h : Always (d.Tracks skip) trace) {r : Nat}
    (hr : lastBegun? trace = some r) : skip ≤ r ∧ ∃ row, d.Runs r row := by
  induction trace with
  | nil => cases hr
  | cons e past ih =>
    rw [lastBegun?] at hr
    split at hr
    · rename_i hm
      cases hr
      exact ⟨(h.1.2 r hm).1, _, (h.1.2 r hm).2⟩
    · exact ih h.2 hr

namespace Dataset.Current

theorem cons {trace : List Entry} {row : DataRow} (h : d.Current trace row) {e : Entry}
    (he : ∀ r, e.moment ≠ .progress (.rowStarted r)) : d.Current (e :: trace) row := by
  intro hunnested hrow
  rw [lastBegun?_cons he]
  exact h hunnested.2 hrow

theorem detail {trace : List Entry} {row : DataRow} (h : d.Current trace row) {other : String} (hother : other ≠ d.name)
    (extra : Record) : d.Current trace (row.mergeItem other extra) := by
  intro hunnested hrow
  have hmem : d.name ∈ row.lineage := by
    rcases List.mem_append.1 hrow with hmem | hmem
    · exact hmem
    · exact absurd (List.mem_singleton.1 hmem).symm hother
  obtain ⟨r, hr, item, hitem, hstems⟩ := h hunnested hmem
  exact ⟨r, hr, item, hitem, .detail extra hother hstems⟩

end Dataset.Current

/-- The index of the row begun last is kept, and some rows are current, those of the open frames among them. -/
structure Follows (d : Dataset) (skip : Nat) (fs : List Frame) (rows : List DataRow) (s : Session σ) : Prop where
  frames  : openFrames s.trace = fs
  index   : s.context.rowIndex = (lastBegun? s.trace).getD 0
  always  : Always (d.Tracks skip) s.trace
  around  : fs.map Frame.row ⊆ rows
  current : ∀ row ∈ rows, d.Current s.trace row

namespace Follows

variable {fs : List Frame} {rows : List DataRow} {s : Session σ}

theorem congr (h : Follows d skip fs rows s) {s' : Session σ} (htrace : s'.trace = s.trace)
    (hindex : s'.context.rowIndex = s.context.rowIndex) : Follows d skip fs rows s' :=
  ⟨htrace ▸ h.frames, by rw [hindex, htrace]; exact h.index, htrace ▸ h.always, h.around, htrace ▸ h.current⟩

theorem forget (h : Follows d skip fs rows s) : Follows d skip fs (fs.map Frame.row) s :=
  ⟨h.frames, h.index, h.always, List.Subset.refl _, fun row hrow => h.current row (h.around hrow)⟩

theorem add (h : Follows d skip fs rows s) {row : DataRow} (hrow : d.Current s.trace row) :
    Follows d skip fs (row :: rows) s :=
  ⟨h.frames, h.index, h.always, List.subset_cons_of_subset _ h.around, List.forall_mem_cons.2 ⟨hrow, h.current⟩⟩

theorem record (h : Follows d skip fs rows s) {m : Moment} (hm : ∀ r, m ≠ .progress (.rowStarted r)) {fs' : List Frame}
    (hframes : openFrames (s.record m).trace = fs') (haround : fs'.map Frame.row ⊆ rows) :
    Follows d skip fs' rows (s.record m) := by
  have hlast : lastBegun? (s.record m).trace = lastBegun? s.trace := lastBegun?_cons hm s.trace
  have hindex : s.context.rowIndex = (lastBegun? (s.record m).trace).getD 0 := hlast.symm ▸ h.index
  exact ⟨hframes, hindex, ⟨⟨hindex, fun r hr => absurd hr (hm r)⟩, h.always⟩, haround,
    fun row hrow => (h.current row hrow).cons hm⟩

theorem enter {row : DataRow} (h : Follows d skip fs (row :: fs.map Frame.row) s) (first last : Nat) :
    Follows d skip (⟨first, last, row⟩ :: fs) (row :: fs.map Frame.row) (s.record (.entered first last row)) :=
  h.record (m := .entered first last row) nofun (congrArg _ h.frames) (List.Subset.refl _)

theorem leave {f : Frame} (h : Follows d skip (f :: fs) rows s) (signal : Signal) :
    Follows d skip fs rows (s.record (.left signal)) :=
  h.record (m := .left signal) nofun (congrArg List.tail h.frames) (List.cons_subset.1 h.around).2

end Follows

theorem keptWithinRow_follows (d : Dataset) (skip : Nat) (fs : List Frame) (rows : List DataRow) :
    KeptWithinRow (Follows (σ := σ) d skip fs rows) where
  keptBy := {
    acted := fun _ => trivial
    record := fun s m hm hs =>
      hs.record (fun r hr => by rw [hr] at hm; exact hm) ((openFrames_cons hm s.trace).trans hs.frames) hs.around
    world := fun _ _ hs => hs.congr rfl rfl }
  congr _ _ htrace hindex _ hs := hs.congr htrace hindex

/-! ## Rows that begin -/

structure Program.Windows (p : Program) (d : Dataset) : Prop where
  name : p.input.primary.name = d.name
  row  : ∀ i item, p.input.primary.rows[i]? = some item → d.rows[p.rowOffset + i]? = some item
  full : p.runsWithoutRows = false

theorem Follows.begin {fs : List Frame} {s : Session σ} (h : Follows d skip fs (fs.map Frame.row) s) {r : Nat}
    (hskip : skip ≤ r) {row : DataRow} (hrow : d.Runs r row) :
    Follows d skip fs (row :: fs.map Frame.row) ((s.began r row).record (.progress (.rowStarted r))) := by
  refine ⟨h.frames, rfl, ⟨⟨rfl, fun r' hr => ?_⟩, h.always⟩, List.subset_cons_self _ _, fun row' hrow' hunnested hmem => ?_⟩
  · cases hr
    exact ⟨hskip, hrow⟩
  · rcases List.mem_cons.1 hrow' with rfl | hrow'
    · exact ⟨r, rfl, hrow⟩
    · -- The row of a frame around is none of the dataset.
      obtain ⟨f, hf, rfl⟩ := List.mem_map.1 hrow'
      exact absurd hmem (hunnested.1 f (h.frames.symm ▸ hf))

theorem follows_beginRow {p : Program} {fs : List Frame} {i : Nat} {row : DataRow} (hrow : d.Runs (p.rowOffset + i) row)
    {E : Halt → Session σ → Prop} : Ensures (Follows d p.rowOffset fs (fs.map Frame.row)) (beginRow env p i row)
      (fun _ => Follows d p.rowOffset fs (row :: fs.map Frame.row)) E :=
  ensures_beginRow fun _ hs =>
    (keptWithinRow_follows d p.rowOffset fs _).keptBy.accept _ _ (hs.begin (Nat.le_add_right _ _) hrow)

/-! ## Steps, loops and walks -/

def Followed (d : Dataset) (skip : Nat) (s : Session σ) : Prop := ∃ fs rows, Follows d skip fs rows s

theorem Follows.followed {fs : List Frame} {rows : List DataRow} {s : Session σ} (h : Follows d skip fs rows s) :
    Followed d skip s := ⟨fs, rows, h⟩

theorem follows_rest {fs : List Frame} {rows : List DataRow} :
    Ensures (Follows d skip fs rows) (checkpoint env) (fun _ => Follows d skip fs rows) (fun _ => Followed d skip) :=
  (keptWithinRow_follows d skip fs rows).rest fun _ _ => Follows.followed

theorem follows_told {fs : List Frame} {rows : List DataRow} {s : Session σ} (h : Follows d skip fs rows s)
    (event : ProgressEvent) (hevent : ∀ r, event ≠ .rowStarted r) : Follows d skip fs rows (s.told env event) :=
  (keptWithinRow_follows d skip fs rows).told event hevent h

theorem follows_evaluate {fs : List Frame} {rows : List DataRow} (row : DataRow) (c : Condition) :
    Ensures (Follows d skip fs rows) (evaluate env row c) (fun _ => Follows d skip fs rows) (fun _ => Followed d skip) :=
  (keptWithinRow_follows d skip fs rows).evaluate (fun _ _ => Follows.followed) row c

section Programs

variable {p : Program} (hwindow : p.Windows d)
include hwindow

theorem follows_enterRow {fs : List Frame} {f : Frame} {source : Option String} {most : Option UInt64} {k : Nat}
    {item : Record} (hitem : (limited most (p.loopRows source f.row).items)[k]? = some item) (first : Bool) :
    let merged := f.row.mergeItem (p.loopRows source f.row).source item
    Ensures (fun s => Follows d p.rowOffset (f :: fs) ((f :: fs).map Frame.row) s ∧
        (first = false → d.Current s.trace merged))
      (do checkpoint env; enterRow env p (p.loopRows source f.row).isPrimary first k merged)
      (fun _ => Follows d p.rowOffset (f :: fs) (merged :: (f :: fs).map Frame.row)) (fun _ => Followed d p.rowOffset) := by
  intro merged
  let rows := (f :: fs).map Frame.row
  have hentered : Ensures (Follows d p.rowOffset (f :: fs) (merged :: rows))
      (do checkpoint env; modifyContext fun c => { c with row := merged })
      (fun _ => Follows d p.rowOffset (f :: fs) (merged :: rows)) (fun _ => Followed d p.rowOffset) :=
    .bind follows_rest fun _ => .modifyContext fun _ hs => hs.congr rfl rfl
  cases first with
  | false =>
    rw [enterRow, Bool.and_false]
    exact hentered.strengthen fun s hs => hs.1.add (hs.2 rfl)
  | true =>
    rcases p.loopRows_cases source f.row with hprimary | ⟨hother, hname⟩
    · have hrow : d.Runs (p.rowOffset + k) merged := by
        rw [hprimary] at hitem
        have hstems : merged.StemsFrom (p.loopRows source f.row).source item := .merged f.row
        rw [hprimary, hwindow.name] at hstems
        exact ⟨item, hwindow.row k item (limited_getElem? hitem), hstems⟩
      have hbegin : (p.loopRows source f.row).isPrimary = true := by rw [hprimary]
      rw [enterRow, hbegin]
      exact .bind (follows_rest.imp (fun _ hs => hs.1) (fun _ _ => id) fun _ _ => id) fun _ => follows_beginRow hrow
    · rw [enterRow, hother]
      exact hentered.strengthen fun s hs =>
        hs.1.add ((hs.1.current f.row (.head _)).detail (hwindow.name ▸ hname) item)

theorem follows_runLoop {f : Frame} {fs : List Frame} {i last : Nat} {spec : LoopSpec} {body : DataRow → Engine σ Signal}
    (hbody : ∀ row, Ensures (Follows d p.rowOffset (f :: fs) (row :: (f :: fs).map Frame.row)) (body row)
      (fun signal s => Follows d p.rowOffset (f :: fs) (row :: (f :: fs).map Frame.row) s ∧
        ∀ t ∈ signal.target?, t < last) (fun _ => Followed d p.rowOffset)) :
    Ensures (Follows d p.rowOffset (f :: fs) ((f :: fs).map Frame.row)) (runLoop env p i spec f.row body)
      (AfterLoop fun goal s => Follows d p.rowOffset (f :: fs) ((f :: fs).map Frame.row) s ∧ ∀ t ∈ goal, t < last)
      (fun _ => Followed d p.rowOffset) := by
  let rows := (f :: fs).map Frame.row
  let A : Option Nat → Session σ → Prop := fun goal s =>
    Follows d p.rowOffset (f :: fs) rows s ∧ ∀ t ∈ goal, t < last
  -- A position that is repeated finds its row current.
  let B : Nat → Session σ → Prop := fun k s => ∀ source most item, spec.mode = .data source most →
    (limited most (p.loopRows source f.row).items)[k]? = some item →
    d.Current s.trace (f.row.mergeItem (p.loopRows source f.row).source item)
  have hturn : ∀ k row, Ensures (Follows d p.rowOffset (f :: fs) (row :: rows))
      (do report env (.loopIteration i k spec.id); body row)
      (fun signal s => Follows d p.rowOffset (f :: fs) (row :: rows) s ∧ ∀ t ∈ signal.target?, t < last)
      (fun _ => Followed d p.rowOffset) :=
    fun k row => .bind (R := fun _ => Follows d p.rowOffset (f :: fs) (row :: rows))
      (.report fun _ hs => follows_told hs _ nofun) fun _ => hbody row
  have hrule : LoopRule env p i spec f.row body A B (fun _ => Followed d p.rowOffset) := {
    rest := follows_rest.imp (fun _ hs => hs.1) (fun _ _ hs => ⟨hs, nofun⟩) fun _ _ => id
    test := fun c most _ => by
      refine .bind (R := fun _ => Follows d p.rowOffset (f :: fs) rows) (.modifyContext fun _ hs => hs.1.congr rfl rfl)
        fun _ => (follows_evaluate f.row c).weaken fun _ _ hs => ⟨hs, nofun⟩
    turn := fun _ k => (hturn k f.row).imp (fun _ hs => hs.1.add (hs.1.current f.row (.head _)))
      (fun _ _ hs => ⟨hs.1.forget, hs.2⟩) fun _ _ => id
    position := fun source most k item first hmode hitem => by
      let merged := f.row.mergeItem (p.loopRows source f.row).source item
      have hposition : Ensures (fun s => A none s ∧ (first = false → B k s))
          (do checkpoint env; enterRow env p (p.loopRows source f.row).isPrimary first k merged)
          (fun _ => Follows d p.rowOffset (f :: fs) (merged :: rows)) (fun _ => Followed d p.rowOffset) :=
        (follows_enterRow hwindow hitem first).strengthen fun s hs =>
          ⟨hs.1.1, fun hfirst => hs.2 hfirst source most item hmode hitem⟩
      rw [← bind_assoc]
      refine (hposition.bind fun _ => hturn k merged).weaken fun signal s hs => ?_
      refine ⟨⟨hs.1.forget, hs.2⟩, fun source' most' item' hmode' hitem' => ?_⟩
      rw [hmode] at hmode'
      cases hmode'
      rw [hitem] at hitem'
      cases hitem'
      exact hs.1.current merged (.head _)
    restore := fun _ _ hs => ⟨hs.1.congr rfl rfl, hs.2⟩ }
  exact hrule.runLoop.strengthen fun s hs => ⟨hs, nofun⟩

theorem walkRule_follows (tables : p.tables.Within p.workflow.steps.length) :
    WalkRule env p (fun _ f (fs : List Frame) => Follows d p.rowOffset (f :: fs) ((f :: fs).map Frame.row))
      (fun _ f fs => Follows d p.rowOffset (f :: fs) ((f :: fs).map Frame.row)) (fun _ => Followed d p.rowOffset) where
  tables := tables
  arrive _ f fs i _ _ := .bind follows_rest fun _ => ensures_visit fun s hs =>
    (keptWithinRow_follows d p.rowOffset (f :: fs) _).keptBy.record (s.onContext fun c => { c with stepIndex := i }) (.visited i) trivial
      (hs.congr rfl rfl)
  stay _ _ _ _ := id
  condition _ f _ _ c _ _ := follows_evaluate f.row c
  step i f fs step _ _ _ :=
    (keptWithinRow_follows d p.rowOffset (f :: fs) _).executeStep (fun _ _ => Follows.followed) p i step f.row
  loop i f fs _ _ stop _ _ _ _ _ hbody :=
    follows_runLoop hwindow fun row => ensures_inFrame (fun _ hs => hs.enter (i + 1) stop) (hbody row (f :: fs))
      fun signal _ hs => ⟨hs.1.leave signal, hs.2.target_lt⟩
  miss _ _ _ _ _ _ _ hs := ⟨_, _, hs⟩

theorem follows_executeProgram (tables : p.tables.Within p.workflow.steps.length) :
    Ensures (Follows d p.rowOffset [] []) (executeProgram env p) (fun _ => Follows d p.rowOffset [] [])
      (fun _ => Followed d p.rowOffset) := by
  have hrange : ∀ row, Ensures (Follows d p.rowOffset [] [row]) (executeRange env p 0 p.workflow.steps.length row)
      (fun signal s => Follows d p.rowOffset [] [] s ∧ signal.OfOutcome) (fun _ => Followed d p.rowOffset) := fun row =>
    (walkRule_follows hwindow tables).executeRange (fun _ _ _ _ hs => ⟨_, _, hs⟩) row []
      (fun s hs => hs.enter 0 _) fun signal s _ hs => (hs.leave signal).forget
  refine ensures_executeProgram follows_rest (fun i row hi => follows_beginRow ?_) (fun i row _ => hrange row) ?_
    (ensures_checkEscaped fun _ _ _ hs => ⟨_, _, hs⟩)
  · obtain ⟨item, hitem, rfl⟩ | ⟨hwithout, -⟩ := Program.rows_getElem? hi
    · exact ⟨item, hwindow.row i item hitem, hwindow.name ▸ .merged .empty⟩
    · rw [hwindow.full] at hwithout
      cases hwithout
  · -- The whole program runs against no row.
    exact (hrange .empty).strengthen fun s hs => hs.add fun _ hmem => absurd hmem List.not_mem_nil

end Programs

end Following

/-! ## Runs -/

theorem windows_program {w : Workflow} {tables : JumpTables} {input : RunInput} {o : RunOptions}
    (hrows : input.primary.rows ≠ []) : (w.program tables input o).Windows input.primary where
  name := rfl
  row _ _ hitem := (Workflow.program_getElem? hitem).1
  full := List.isEmpty_eq_false_iff.2 hrows

theorem run_follows (env : Env σ) (w : Workflow) (input : RunInput) (world : World σ) (hrows : input.primary.rows ≠ []) :
    ∃ s : Session σ, Followed input.primary env.options.skipRows s ∧ history env w input world = s.trace ∧
      ∀ f ∈ run env w input world, ∀ pt ∈ f.report.resume, pt.rowIndex = s.context.rowIndex := by
  let d := input.primary
  let skip := env.options.skipRows
  have hexecution : Ensures (Follows d skip [] []) (execution env w input) (fun _ => Followed d skip)
      fun _ => Followed d skip := by
    refine ensures_execution (fun _ => ?_) fun _ _ hs => ⟨_, _, hs⟩
    exact (follows_executeProgram (windows_program hrows) w.within_analyze).weaken fun _ _ hs => ⟨_, _, hs⟩
  have hnew : Follows d skip [] [] (world.session w.handlers) :=
    ⟨rfl, rfl, trivial, List.Subset.refl _, fun _ hrow => absurd hrow List.not_mem_nil⟩
  have hstart : Follows d skip [] [] (started env w world) := follows_told hnew (.runStarted _ _) nofun
  obtain ⟨r, s, hr, hrun, hhistory⟩ | ⟨s, hout, hrun, hhistory⟩ := run_cases env w input world
  · have hs : Followed d skip s := by
      cases r with
      | ok _    => exact hexecution.ok hstart hr
      | error e => exact hexecution.error hstart hr
    obtain ⟨fs, rows, hs⟩ := hs
    refine ⟨s.ended env r, ⟨fs, rows, follows_told hs (.runEnded _ _ _ _) nofun⟩, hhistory, fun f hf pt hpt => ?_⟩
    have hcontext : (s.ended env r).context = s.context := (s.told_learned (.runEnded _ _ _ _)).2
    rw [hrun] at hf
    cases hf
    obtain ⟨_, -, rfl⟩ := Session.report_resume hpt
    rw [hcontext]
  · exact ⟨s, hexecution.error hstart hout, hhistory, fun f hf => by rw [hrun] at hf; cases hf⟩

/-- **The rows that a run tells of**: at any time the row reported is the one begun last, and the rows begun are rows
of the dataset as it was given, none of them skipped. -/
theorem rows_tracked (env : Env σ) (w : Workflow) (input : RunInput) (world : World σ) (hrows : input.primary.rows ≠ []) :
    Always (input.primary.Tracks env.options.skipRows) (history env w input world) := by
  obtain ⟨s, ⟨fs, rows, hs⟩, hhistory, -⟩ := run_follows env w input world hrows
  exact hhistory ▸ hs.always

/-- The row at which a run with this trace is to be taken up.  It is the primary row begun last, by its index in the
dataset as it was given, and not one of the first `skip`.  If no row was begun inside another, every open frame that
runs against a primary row runs against this one.  Where no row was begun it is row zero. -/
def Dataset.TakesUp (d : Dataset) (skip : Nat) (trace : List Entry) (row : Nat) : Prop :=
  match lastBegun? trace with
  | some r => row = r ∧ skip ≤ r ∧ r < d.rows.length ∧
      (d.Unnested trace → ∀ f ∈ openFrames trace, d.name ∈ f.row.lineage → d.Runs r f.row)
  | none => row = 0 ∧ ∀ f ∈ openFrames trace, d.name ∉ f.row.lineage

/-- **Where a run is taken up again**: a suspended run reports the primary row that it began last, or row zero. -/
theorem resumes_at_last_row (env : Env σ) (w : Workflow) (input : RunInput) (world : World σ)
    (hrows : input.primary.rows ≠ []) {f : Finished σ} (hrun : run env w input world = some f) {pt : ResumePoint}
    (hpt : f.report.resume = some pt) :
    input.primary.TakesUp env.options.skipRows (history env w input world) pt.rowIndex := by
  obtain ⟨s, ⟨fs, rows, hs⟩, hhistory, hresume⟩ := run_follows env w input world hrows
  have hindex : pt.rowIndex = (lastBegun? s.trace).getD 0 := (hresume f hrun pt hpt).trans hs.index
  have hframe : ∀ frame ∈ openFrames s.trace, frame.row ∈ rows := fun frame hframe =>
    hs.around (List.mem_map_of_mem (hs.frames ▸ hframe))
  rw [hhistory, Dataset.TakesUp]
  split
  · rename_i r hr
    obtain ⟨hskip, row, item, hitem, -⟩ := Dataset.Tracks.lastBegun (hhistory ▸ rows_tracked env w input world hrows) hr
    refine ⟨by rw [hindex, hr]; rfl, hskip, (List.getElem?_eq_some_iff.1 hitem).1, fun hunnested frame hmem hrow => ?_⟩
    obtain ⟨r', hr', hruns⟩ := hs.current frame.row (hframe frame hmem) hunnested hrow
    rw [hr] at hr'
    cases hr'
    exact hruns
  · rename_i hnone
    refine ⟨by rw [hindex, hnone]; rfl, fun frame hmem hrow => ?_⟩
    obtain ⟨r, hr, -⟩ := hs.current frame.row (hframe frame hmem) (Dataset.unnested_of_none hnone) hrow
    rw [hnone] at hr
    cases hr

def leaving : Host Nat where
  answer q n :=
    match q with
    | .execute .. => ⟨if n = 0 then .error (.navigation "left") else .ok (), n - 1, []⟩
    | q           => ⟨(Host.inert.answer q ()).answer, n, []⟩
  observe _ n := ⟨(), n, []⟩
  elapse _ _ n := ⟨(), n, []⟩
  hasClipboard := false

def threeRows : RunInput := ⟨⟨"people", ["Ada", "Bo", "Cy"].map fun name => .ofFields [("name", .str name)]⟩, []⟩

def clickThenLoop : Workflow where
  steps := [
    { kind := .action .click { target := some "#start" } },
    { kind := .loopStart { mode := .data none none } },
    { kind := .action .click { target := some "#row" } },
    { kind := .loopEnd none }]

def loopInLoop : Workflow where
  steps := [
    { kind := .loopStart { mode := .data none none } },
    { kind := .loopStart { mode := .data none none } },
    { kind := .action .click { target := some "#row" } },
    { kind := .loopEnd none },
    { kind := .action .click { target := some "#next" } },
    { kind := .loopEnd none }]

def suspending (skip : Nat) : Env Nat := ⟨leaving, {}, { skipRows := skip }, 10, ⟨0, 0⟩⟩

/-- With one row to skip, the run is suspended at the second of the others. -/
theorem suspended_resumes :
    threeRows.primary.rows ≠ [] ∧
      ∃ f, run (suspending 1) clickThenLoop threeRows { host := 2 } = some f ∧ f.report.resume = some ⟨2, 2⟩ ∧
        threeRows.primary.TakesUp 1 (history (suspending 1) clickThenLoop threeRows { host := 2 }) 2 := by
  have hrows : threeRows.primary.rows ≠ [] := by decide
  have hresume : (run (suspending 1) clickThenLoop threeRows { host := 2 }).bind (·.report.resume) = some ⟨2, 2⟩ := by
    decide +kernel
  obtain ⟨f, hrun, hpt⟩ := Option.bind_eq_some_iff.1 hresume
  exact ⟨hrows, f, hrun, hpt, resumes_at_last_row (suspending 1) clickThenLoop threeRows _ hrows hrun hpt⟩

/-- Two rows are to be skipped and none has begun, and the run would be taken up at row zero.  And where the first row
is under way, but the loop inside has run to its end, the run would be taken up at the last. -/
theorem resumes_elsewhere :
    (run (suspending 2) clickThenLoop threeRows { host := 0 }).bind (·.report.resume) = some ⟨0, 0⟩ ∧
      (run (suspending 0) loopInLoop threeRows { host := 3 }).bind (·.report.resume) = some ⟨4, 2⟩ ∧
      (openFrames (history (suspending 0) loopInLoop threeRows { host := 3 })).map (·.row.getText? "name") =
        [some "Ada", none] := by
  decide +kernel

end FormReplay
