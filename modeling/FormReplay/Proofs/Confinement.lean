import FormReplay.Proofs.Engine.Trace
/-!
# Frames keep to their range

The frames that are open, and the goto that is under way, are read off the trace.  A frame comes to no step
outside its range.  A goto into the range is followed, and one that leads out of it ends the frame and is given
back.  A frame that it opens runs the body of the loop it came to last: it keeps to its range as well, and so do
all frames inside it, unless a loop starts in the range and ends beyond it.  Ends that name their loop make
this possible (`crossing_escapes`).
-/
namespace FormReplay

variable {σ : Type} {env : Env σ}

def openFrames : List Entry → List Frame
  | [] => []
  | e :: past =>
    match e.moment with
    | .entered first last row => ⟨first, last, row⟩ :: openFrames past
    | .left _                 => (openFrames past).tail
    | _                       => openFrames past

/-- The frames that are open after a trace, each with the step that it came to last. -/
def whereabouts : List Entry → Nest
  | [] => []
  | e :: past =>
    match e.moment with
    | .entered first last row => (⟨first, last, row⟩, none) :: whereabouts past
    | .left _                 => (whereabouts past).tail
    | .visited i              => (whereabouts past).modifyHead fun at_ => (at_.1, some i)
    | _                       => whereabouts past

theorem whereabouts_frames (trace : List Entry) : (whereabouts trace).map Prod.fst = openFrames trace := by
  induction trace with
  | nil => rfl
  | cons e past ih =>
    cases hm : e.moment with
    | entered first last row => rw [whereabouts, openFrames, hm, List.map_cons, ih]
    | left signal            => rw [whereabouts, openFrames, hm, List.map_tail, ih]
    | visited i =>
      rw [whereabouts, openFrames, hm, ← ih]
      cases whereabouts past <;> rfl
    | _ => rw [whereabouts, openFrames, hm, ih]

/-- Where the goto leads that is under way after a trace: that of a step, of a policy, or of a frame. -/
def Program.underway? (p : Program) : List Entry → Option Nat
  | [] => none
  | e :: past =>
    match e.moment with
    | .visited i                    => p.gotoTarget? i
    | .progress (.stepFailed i _ _) => p.workflow.steps[i]?.bind p.policyTarget?
    | .left signal                  => signal.target?
    | .entered ..                   => none
    | _                             => p.underway? past

/-- Every loop that starts in the range of a frame ends with it at the latest. -/
def Frame.Closed (f : Frame) (loops : Jumps) : Prop := ∀ q ∈ loops, f.Contains q.1 → q.2 ≤ f.last

/-- What may happen after `past`.  A frame comes to a step in its range, which is in the range of all closed frames
around it as well; it opens the frame of the loop whose start it came to last; and it ends.  A goto that is under way is
followed or, if it leads out of the range, given back. -/
def Confined (p : Program) (e : Entry) (past : List Entry) : Prop :=
  match e.moment with
  | .visited i =>
    (∀ t ∈ p.underway? past, t = i) ∧
      ∃ f outer, openFrames past = f :: outer ∧ f.Contains i ∧ ∀ g ∈ outer, g.Closed p.tables.loopToEnd → g.Contains i
  | .entered first last _ =>
    p.underway? past = none ∧
      ((openFrames past = [] ∧ first = 0 ∧ last = p.workflow.steps.length) ∨
        ∃ f i outer, whereabouts past = (f, some i) :: outer ∧ f.Contains i ∧ first = i + 1 ∧
          (i, last) ∈ p.tables.loopToEnd)
  | .left signal =>
    p.underway? past = signal.target? ∧
      ∃ f outer, openFrames past = f :: outer ∧ f.Emits p.workflow.steps.length signal
  | _ => True

/-- After a confined trace a goto is under way or not, and every open frame is inside all closed ones around it. -/
structure Nested (p : Program) (goal : Option Nat) (nest : Nest) (trace : List Entry) : Prop where
  here    : whereabouts trace = nest
  goal    : p.underway? trace = goal
  always  : Always (Confined p) trace
  inside  : (nest.map Prod.fst).Pairwise fun f g => g.Closed p.tables.loopToEnd → g.first ≤ f.first ∧ f.last ≤ g.last

namespace Nested

variable {p : Program} {goal : Option Nat} {f : Frame} {at_ : Option Nat} {nest outer : Nest} {e : Entry}
  {past : List Entry}

theorem frames (h : Nested p goal nest past) : openFrames past = nest.map Prod.fst := by
  rw [← whereabouts_frames, h.here]

theorem aside (h : Nested p goal nest past) (he : ¬e.moment.Steers) : Nested p goal nest (e :: past) := by
  have hhere : whereabouts (e :: past) = whereabouts past := by
    rw [whereabouts]
    split <;> rename_i hm <;> first | rfl | (rw [hm] at he; exact absurd trivial he)
  have hgoal : p.underway? (e :: past) = p.underway? past := by
    rw [Program.underway?]
    split <;> rename_i hm <;> first | rfl | (rw [hm] at he; exact absurd trivial he)
  refine ⟨hhere.trans h.here, hgoal.trans h.goal, ⟨?_, h.always⟩, h.inside⟩
  unfold Confined
  split <;> rename_i hm <;> first | trivial | (rw [hm] at he; exact absurd trivial he)

theorem contains (h : Nested p goal ((f, at_) :: outer) past) {i : Nat} (hi : f.Contains i) {g : Frame}
    (hg : g ∈ outer.map Prod.fst) (hclosed : g.Closed p.tables.loopToEnd) : g.Contains i := by
  obtain ⟨hfirst, hlast⟩ := (List.pairwise_cons.1 h.inside).1 g hg hclosed
  exact ⟨Nat.le_trans hfirst hi.1, Nat.lt_of_lt_of_le hi.2 hlast⟩

theorem visit (h : Nested p goal ((f, at_) :: outer) past) {i : Nat} (he : e.moment = .visited i) (hi : f.Contains i)
    (hgoal : ∀ t ∈ goal, t = i) : Nested p (p.gotoTarget? i) ((f, some i) :: outer) (e :: past) := by
  refine ⟨?_, ?_, ⟨?_, h.always⟩, h.inside⟩
  · rw [whereabouts, he, h.here]
    rfl
  · rw [Program.underway?, he]
  · rw [Confined, he]
    exact ⟨h.goal ▸ hgoal, f, outer.map Prod.fst, h.frames, hi, fun g hg hclosed => h.contains hi hg hclosed⟩

theorem failed (h : Nested p none nest past) {i : Nat} {step : Step} {mode : ErrorMode} {err : RunError}
    (he : e.moment = .progress (.stepFailed i mode err)) (hstep : p.workflow.steps[i]? = some step) :
    Nested p (p.policyTarget? step) nest (e :: past) := by
  refine ⟨?_, ?_, ⟨?_, h.always⟩, h.inside⟩
  · rw [whereabouts, he]
    exact h.here
  · rw [Program.underway?, he]
    dsimp only
    rw [hstep]
    rfl
  · rw [Confined, he]
    trivial

theorem enter {i stop : Nat} (h : Nested p none ((f, some i) :: outer) past) {row : DataRow}
    (he : e.moment = .entered (i + 1) stop row) (hi : f.Contains i) (hloop : (i, stop) ∈ p.tables.loopToEnd) :
    Nested p none ((⟨i + 1, stop, row⟩, none) :: (f, some i) :: outer) (e :: past) := by
  refine ⟨?_, ?_, ⟨?_, h.always⟩, List.pairwise_cons.2 ⟨fun g hg hclosed => ?_, h.inside⟩⟩
  · rw [whereabouts, he, h.here]
  · rw [Program.underway?, he]
  · rw [Confined, he]
    exact ⟨h.goal, .inr ⟨f, i, outer, h.here, hi, rfl, hloop⟩⟩
  · have hgi : g.Contains i := by
      cases hg with
      | head      => exact hi
      | tail _ hg => exact h.contains hi hg hclosed
    exact ⟨Nat.le_succ_of_le hgi.1, hclosed _ hloop hgi⟩

theorem leave {signal : Signal} (h : Nested p signal.target? ((f, at_) :: outer) past) (he : e.moment = .left signal)
    (hsignal : f.Emits p.workflow.steps.length signal) : Nested p signal.target? outer (e :: past) := by
  refine ⟨?_, ?_, ⟨?_, h.always⟩, (List.pairwise_cons.1 h.inside).2⟩
  · rw [whereabouts, he, h.here]
    rfl
  · rw [Program.underway?, he]
  · rw [Confined, he]
    exact ⟨h.goal, f, outer.map Prod.fst, h.frames, hsignal⟩

theorem range (h : Nested p none [] past) {row : DataRow} (he : e.moment = .entered 0 p.workflow.steps.length row) :
    Nested p none [(⟨0, p.workflow.steps.length, row⟩, none)] (e :: past) := by
  refine ⟨?_, ?_, ⟨?_, h.always⟩, List.pairwise_singleton _ _⟩
  · rw [whereabouts, he, h.here]
  · rw [Program.underway?, he]
  · rw [Confined, he]
    exact ⟨h.goal, .inl ⟨h.frames, rfl, rfl⟩⟩

end Nested

theorem nested_program (env : Env σ) (w : Workflow) (input : RunInput) :
    let p := w.program w.analyze.1 input env.options
    ProgramRule env p (fun goal nest s => Nested p goal nest s.trace) fun _ s => ∃ goal nest, Nested p goal nest s.trace := by
  intro p
  refine .ofTrace (T := Nested p) (E := fun trace => ∃ goal nest, Nested p goal nest trace) w.within_analyze
    ?_ ?_ ?_ ?_ ?_ ?_ ?_
  · exact fun goal nest e past he h => h.aside he
  · exact fun goal f at_ outer i e past he hi hgoal h => h.visit he hi hgoal
  · exact fun f outer i step mode err e past he hstep h => h.failed he hstep
  · exact fun f outer i stop row e past he hi hstop h => h.enter he hi (Jumps.mem_of_target? hstop)
  · exact fun f at_ outer signal e past he hsignal h => h.leave he hsignal
  · exact fun row e past he h => h.range he
  · exact fun goal nest past h => ⟨goal, nest, h⟩

/-- The trace of every run is confined, with a goto under way at its end or not. -/
theorem nested_history (env : Env σ) (w : Workflow) (input : RunInput) (world : World σ) :
    ∃ goal nest, Nested (w.program w.analyze.1 input env.options) goal nest (history env w input world) := by
  let p := w.program w.analyze.1 input env.options
  refine history_of_program (T := Nested p none []) (U := fun trace => ∃ goal nest, Nested p goal nest trace)
    ⟨rfl, rfl, trivial, .nil⟩ ?_ ?_ ?_ ?_ world
  · exact fun e past he h => h.aside he.not_steers
  · exact fun e past he ⟨goal, nest, h⟩ => ⟨goal, nest, h.aside he.not_steers⟩
  · exact fun past h => ⟨none, [], h⟩
  · exact fun _ => (nested_program env w input).executeProgram.weaken fun _ s h => ⟨none, [], h⟩

/-- **Frames are confined**, in every run, whatever the host does and however the run ends. -/
theorem frames_confined (env : Env σ) (w : Workflow) (input : RunInput) (world : World σ) :
    Always (Confined (w.program w.analyze.1 input env.options)) (history env w input world) := by
  obtain ⟨goal, nest, hnested⟩ := nested_history env w input world
  exact hnested.always

/-! ## Loops that cross -/

/-- A frame comes to a step in the range of every open frame. -/
def InsideAll (e : Entry) (past : List Entry) : Prop :=
  match e.moment with
  | .visited i => ∀ f ∈ openFrames past, f.Contains i
  | _          => True

/-- Loop `a` is closed while loop `b`, opened inside it, is still open. -/
def crossing : Workflow where
  steps := [
    { kind := .loopStart { id := some "a", mode := .count 1 } },
    { kind := .loopStart { id := some "b", mode := .count 1 } },
    { kind := .loopEnd (some "a") },
    { kind := .action .click { target := some "#x" } },
    { kind := .loopEnd (some "b") }]

instance (f : Frame) (i : Nat) : Decidable (f.Contains i) := inferInstanceAs (Decidable (_ ∧ _))

instance : DecidableRel InsideAll := fun e past =>
  match e with
  | ⟨_, _, _, .visited i⟩ => inferInstanceAs (Decidable (∀ f ∈ openFrames past, f.Contains i))
  | ⟨_, _, _, .progress _⟩ | ⟨_, _, _, .asked _ _⟩ | ⟨_, _, _, .acted _⟩ | ⟨_, _, _, .slept _ _⟩
  | ⟨_, _, _, .resolving _ _⟩ | ⟨_, _, _, .judging _ _⟩
  | ⟨_, _, _, .entered _ _ _⟩ | ⟨_, _, _, .attempted _⟩ | ⟨_, _, _, .left _⟩ => isTrue trivial

/-- The frame of loop `a` is open when a step outside its range is executed: loop `b` starts in the range. -/
theorem crossing_escapes :
    crossing.analyze.2 = [] ∧
      ¬Always InsideAll (history ⟨.inert, {}, {}, 10, ⟨0, 0⟩⟩ crossing ⟨⟨"", []⟩, []⟩ { host := () }) := by
  decide +kernel

end FormReplay
