import FormReplay.Proofs.Confinement
/-!
# Signals are contained

A frame gives back that all went well, a signal for a loop, or a goto that leads out of its range; a loop uses up every
signal of its body but such a goto.  So a signal for a loop reaches no further than the innermost loop: where a frame
ended with one, the next thing is another turn of the same loop, or the step behind it in the frame around.  And a goto
closes the frames that do not contain its place, one after another, until it comes to one that does.  All of it is read
off the trace: the frame that ended last (`ended?`), and the signal of a bare step (`Program.raised?`).
-/
namespace FormReplay

variable {σ α : Type} {env : Env σ} {p : Program}

/-! ## What frames and loops give back -/

/-- The signals that a frame gives back, whatever the jump tables say. -/
def Frame.GivesBack (f : Frame) (signal : Signal) : Prop :=
  signal.OfOutcome ∨ ∃ t, signal = .goto t ∧ ¬f.Contains t

theorem Frame.GivesBack.eq_next {f : Frame} {signal : Signal} (h : f.GivesBack signal)
    (hadvance : signal.isAdvance = true) : signal = .next := by
  cases signal with
  | next => rfl
  | skip => obtain (h | h) | ⟨t, h, -⟩ := h <;> cases h
  | _    => cases hadvance

theorem Signal.isLoopControl_of_leave {i : Nat} {signal given : Signal} (h : signal.move i = .leave given) :
    given.isLoopControl = true := by
  cases signal <;> cases h <;> rfl

theorem afterMove_givesBack {f : Frame} {m : Move} (s : Session σ)
    (h : ∀ signal, m = .leave signal → signal.isLoopControl = true) :
    AfterMove f (fun _ _ => True) (fun signal _ => f.GivesBack signal) m s := by
  cases m with
  | advance i    => trivial
  | jump t       => exact ⟨fun _ => trivial, fun ht => .inr ⟨t, rfl, ht⟩⟩
  | leave signal => exact .inl (.inr (h signal rfl))

theorem pathRule_givesBack (env : Env σ) (p : Program) :
    PathRule env p (fun _ _ (_ : Unit) _ => True) (fun _ _ _ _ => True) (fun signal f _ _ => f.GivesBack signal)
      fun _ _ => True where
  arrive _ _ _ _ := .anything _
  finish _ _ _ _ _ _ := .inl (.inl rfl)
  noStep _ _ _ _ _ _ := trivial
  dispatch i f _ step body hstep _ := by
    have hlands : ∀ s : Session σ, p.Lands i step (AfterMove f (fun _ _ => True) fun signal _ => f.GivesBack signal)
        (fun _ _ => True) s := by
      refine fun s => ⟨fun m hm => afterMove_givesBack s fun signal heq => ?_, fun _ _ => trivial⟩
      cases hm <;> first | cases heq
      exact StepKind.signal?_isLoopControl ‹_›
    refine ensures_moves hstep (fun _ s _ => hlands s) (fun c _ => (Ensures.anything _).weaken fun _ s _ => hlands s)
      (fun _ => (Ensures.anything _).weaken fun signal s _ => ?_)
      fun spec stop _ _ => (Ensures.anything _).weaken fun signal s _ => ?_
    · exact afterMove_givesBack s fun _ => Signal.isLoopControl_of_leave
    · refine afterMove_givesBack s fun _ heq => ?_
      cases signal <;> cases heq
  outOfFuel _ _ _ _ _ := trivial

/-- **What a frame gives back.** -/
theorem returns_inFrame (p : Program) (fuel first last : Nat) (row : DataRow) :
    Returns (inFrame first last row (walk env p fuel first last first row)) (Frame.GivesBack ⟨first, last, row⟩) :=
  ensures_inFrame (fun _ => id) ((pathRule_givesBack env p).walk fuel ⟨first, last, row⟩ () first) fun _ _ => id

/-- **What a loop gives back**, if its body gives back signals of `O`. -/
theorem returns_runLoop {start : Nat} {spec : LoopSpec} {row : DataRow} {body : DataRow → Engine σ Signal}
    {O : Signal → Prop} (hbody : ∀ row, Returns (body row) O) :
    Returns (runLoop env p start spec row body) fun signal => signal = .next ∨ ∃ t, signal = .goto t ∧ O (.goto t) := by
  have hrule : TurnRule env p start spec row body (fun _ => True) (fun signal _ => O signal) (fun _ _ => True)
      fun _ _ => True := {
    rest := .anything _
    test := fun _ _ _ => .anything _
    turn := fun _ _ => Returns.bind fun _ => hbody row
    position := fun _ _ _ _ _ _ _ => by
      refine Ensures.imp (Returns.bind fun _ => Returns.bind fun _ => Returns.bind fun _ => hbody _)
        (fun _ _ => trivial) (fun _ _ hs => ⟨hs, trivial⟩) fun _ _ => id
    again := fun _ _ _ _ => trivial
    restore := fun _ _ => trivial
    restoreOf := fun _ _ => id }
  refine hrule.runLoop.weaken fun signal s hs => ?_
  obtain ⟨rfl, -⟩ | ⟨t, rfl, ht⟩ := hs
  · exact .inl rfl
  · exact .inr ⟨t, rfl, ht⟩

/-! ## Signals read off the trace -/

/-- The frame that ended last and the signal it gave, unless a frame has come to a step or was opened since. -/
def ended? : List Entry → Option (Frame × Signal)
  | [] => none
  | e :: past =>
    match e.moment with
    | .left signal             => (openFrames past).head?.map fun f => (f, signal)
    | .visited _ | .entered .. => none
    | _                        => ended? past

def Program.bare? (p : Program) (i : Nat) : Option Signal := p.workflow.steps[i]?.bind (·.kind.signal?)

/-- The signal of the step that a frame has come to last, if it is a bare one and its frame has not ended. -/
def Program.raised? (p : Program) : List Entry → Option Signal
  | [] => none
  | e :: past =>
    match e.moment with
    | .visited i           => p.bare? i
    | .entered .. | .left _ => none
    | _                    => p.raised? past

/-- What a loop makes of the signal of its body when it ends: a goto is passed on, and all else is used up. -/
def Signal.beyondLoop : Signal → Signal
  | .goto t => .goto t
  | _       => .next

/-- A frame that ended with a signal is followed by one from `first` up to `last`, with `outer` around: another turn of
its loop, or the next row. -/
def Frame.FollowedBy (f : Frame) (signal : Signal) (first last : Nat) (outer : List Frame) : Prop :=
  f.first = first ∧ f.last = last ∧ signal.verdict = .advance ∧ (outer = [] → signal = .next)

/-- What may happen after `past`, as far as signals are concerned. -/
def Contained (p : Program) (e : Entry) (past : List Entry) : Prop :=
  match e.moment with
  -- Once a frame ended, the frame around goes on behind the loop, or to the place of the goto.
  | .visited i =>
    p.raised? past = none ∧ ∀ f signal, ended? past = some (f, signal) → i = signal.target?.getD (f.last + 1)
  -- Or else it is the next turn of the same loop, or the next row.
  | .entered first last _ =>
    p.raised? past = none ∧
      ∀ f signal, ended? past = some (f, signal) → f.FollowedBy signal first last (openFrames past)
  -- A frame gives back the signal of its own step, and nothing of the frames inside but a goto.
  | .left signal =>
    (∃ f outer, openFrames past = f :: outer ∧ f.GivesBack signal) ∧ (∀ own ∈ p.raised? past, signal = own) ∧
      ∀ f inner, ended? past = some (f, inner) → signal = inner.beyondLoop
  | _ => True

def Moment.IsInner : Moment → Prop
  | .visited _ | .entered .. | .left _ => False
  | _ => True

theorem Moment.IsAside.isInner {m : Moment} (h : m.IsAside) : m.IsInner := by
  unfold Moment.IsInner
  split <;> first | exact h | trivial

theorem contained_inner {e : Entry} {past : List Entry} (he : e.moment.IsInner) : Contained p e past := by
  unfold Contained
  split <;> rename_i hm <;> first | trivial | (rw [hm] at he; exact he.elim)

structure Tracked (p : Program) (fs : List Frame) (raised : Option Signal) (ended : Option (Frame × Signal))
    (trace : List Entry) : Prop where
  open_  : openFrames trace = fs
  raised : p.raised? trace = raised
  ended  : ended? trace = ended
  always : Always (Contained p) trace

namespace Tracked

variable {fs : List Frame} {f : Frame} {raised : Option Signal} {ended : Option (Frame × Signal)} {e : Entry}
  {past : List Entry}

theorem inner (h : Tracked p fs raised ended past) (he : e.moment.IsInner) : Tracked p fs raised ended (e :: past) := by
  have hframes : openFrames (e :: past) = openFrames past := by
    rw [openFrames]
    split <;> rename_i hm <;> first | rfl | (rw [hm] at he; exact he.elim)
  have hraised : p.raised? (e :: past) = p.raised? past := by
    rw [Program.raised?]
    split <;> rename_i hm <;> first | rfl | (rw [hm] at he; exact he.elim)
  have hended : ended? (e :: past) = ended? past := by
    rw [ended?]
    split <;> rename_i hm <;> first | rfl | (rw [hm] at he; exact he.elim)
  exact ⟨hframes.trans h.open_, hraised.trans h.raised, hended.trans h.ended, contained_inner he, h.always⟩

theorem visit (h : Tracked p fs none ended past) {i : Nat} (he : e.moment = .visited i)
    (hi : ∀ f signal, ended = some (f, signal) → i = signal.target?.getD (f.last + 1)) :
    Tracked p fs (p.bare? i) none (e :: past) := by
  refine ⟨?_, ?_, ?_, ?_, h.always⟩
  · rw [openFrames, he]
    exact h.open_
  · rw [Program.raised?, he]
  · rw [ended?, he]
  · rw [Contained, he]
    exact ⟨h.raised, h.ended ▸ hi⟩

theorem enter (h : Tracked p fs none ended past) {first last : Nat} {row : DataRow}
    (he : e.moment = .entered first last row)
    (hsame : ∀ f signal, ended = some (f, signal) → f.FollowedBy signal first last fs) :
    Tracked p (⟨first, last, row⟩ :: fs) none none (e :: past) := by
  refine ⟨?_, ?_, ?_, ?_, h.always⟩
  · rw [openFrames, he, h.open_]
  · rw [Program.raised?, he]
  · rw [ended?, he]
  · rw [Contained, he]
    refine ⟨h.raised, ?_⟩
    rw [h.ended, h.open_]
    exact hsame

theorem leave (h : Tracked p (f :: fs) raised ended past) {signal : Signal} (he : e.moment = .left signal)
    (hgives : f.GivesBack signal) (hown : ∀ own ∈ raised, signal = own)
    (hinner : ∀ f inner, ended = some (f, inner) → signal = inner.beyondLoop) :
    Tracked p fs none (some (f, signal)) (e :: past) := by
  refine ⟨?_, ?_, ?_, ?_, h.always⟩
  · rw [openFrames, he, h.open_]
    rfl
  · rw [Program.raised?, he]
  · rw [ended?, he, h.open_]
    rfl
  · rw [Contained, he]
    exact ⟨⟨f, fs, h.open_, hgives⟩, h.raised.symm ▸ hown, h.ended.symm ▸ hinner⟩

end Tracked

/-! ## Walks -/

section Walks

variable {f : Frame} {fs : List Frame}

/-- A frame goes to a step: behind the loop whose frame ended last, or to the place of its goto. -/
def Headed (p : Program) (i : Nat) (f : Frame) (fs : List Frame) (s : Session σ) : Prop :=
  ∃ ended, Tracked p (f :: fs) none ended s.trace ∧
    ∀ g signal, ended = some (g, signal) → i = signal.target?.getD (g.last + 1) ∧ ∀ t ∈ signal.target?, f.Contains t

theorem Tracked.headed {s : Session σ} (h : Tracked p (f :: fs) none none s.trace) (i : Nat) : Headed p i f fs s :=
  ⟨none, h, nofun⟩

theorem Headed.always {i : Nat} {s : Session σ} (h : Headed p i f fs s) : Always (Contained p) s.trace := by
  obtain ⟨ended, hs, -⟩ := h
  exact hs.always

def Come (p : Program) (i : Nat) (f : Frame) (fs : List Frame) (s : Session σ) : Prop :=
  Tracked p (f :: fs) (p.bare? i) none s.trace

def Giving (p : Program) (signal : Signal) (f : Frame) (fs : List Frame) (s : Session σ) : Prop :=
  f.GivesBack signal ∧ ∃ raised ended, Tracked p (f :: fs) raised ended s.trace ∧ (∀ own ∈ raised, signal = own) ∧
    ∀ g inner, ended = some (g, inner) → signal = inner.beyondLoop

theorem Tracked.unraised {signal : Signal} : ∀ own ∈ (none : Option Signal), signal = own := nofun

theorem Tracked.giving {s : Session σ} {raised : Option Signal} (h : Tracked p (f :: fs) raised none s.trace)
    {signal : Signal} (hgives : f.GivesBack signal) (hown : ∀ own ∈ raised, signal = own) : Giving p signal f fs s :=
  ⟨hgives, raised, none, h, hown, nofun⟩

theorem Tracked.jump {s : Session σ} (h : Tracked p (f :: fs) none none s.trace) (t : Nat) :
    AfterMove f (fun i => Headed p i f fs) (fun signal => Giving p signal f fs) (.jump t) s :=
  ⟨fun _ => h.headed t, fun ht => h.giving (.inr ⟨t, rfl, ht⟩) unraised⟩

/-- A loop may take another turn, or go on behind its end. -/
def Turning (p : Program) (first last : Nat) (fs : List Frame) (s : Session σ) : Prop :=
  ∃ ended, Tracked p fs none ended s.trace ∧ ∀ g signal, ended = some (g, signal) → g.FollowedBy signal first last fs

theorem Tracked.turning {first last : Nat} {s : Session σ} (h : Tracked p fs none none s.trace) :
    Turning p first last fs s :=
  ⟨none, h, nofun⟩

theorem Turning.always {first last : Nat} {s : Session σ} (h : Turning p first last fs s) :
    Always (Contained p) s.trace := by
  obtain ⟨ended, hs, -⟩ := h
  exact hs.always

def Turned (p : Program) (first last : Nat) (fs : List Frame) (signal : Signal) (s : Session σ) : Prop :=
  ∃ row, Frame.GivesBack ⟨first, last, row⟩ signal ∧ Tracked p fs none (some (⟨first, last, row⟩, signal)) s.trace

theorem tracked_inner {raised : Option Signal} {ended : Option (Frame × Signal)} {x : Engine σ α}
    (hx : Does env (Operation.Adds Moment.IsInner) x) :
    Ensures (fun s => Tracked p fs raised ended s.trace) x (fun _ s => Tracked p fs raised ended s.trace)
      fun _ s => Always (Contained p) s.trace :=
  (hx.ensures_trace (fun _ => trivial) fun _ _ he h => h.inner he).imp (fun _ => id) (fun _ _ => id)
    fun _ _ h => h.always

theorem turning_keeps {first last : Nat} {e : Operation σ} (he : e.Adds Moment.IsInner) (hobserve : e ≠ .observe) :
    e.Keeps env (Turning p first last fs) fun _ s => Always (Contained p) s.trace := by
  let T : List Entry → Prop := fun trace =>
    ∃ ended, Tracked p fs none ended trace ∧ ∀ g signal, ended = some (g, signal) → g.FollowedBy signal first last fs
  have hkeeps : e.Keeps env (fun s => T s.trace) fun _ s => T s.trace :=
    he.keeps (fun _ => trivial) fun _ _ hm ⟨ended, h, hended⟩ => ⟨ended, h.inner hm, hended⟩
  exact hkeeps.weaken (fun _ _ ⟨_, h, _⟩ => h.always) hobserve

theorem headed_checkpoint (i : Nat) :
    Ensures (Headed p i f fs) (checkpoint env) (fun _ => Headed p i f fs) fun _ s => Always (Contained p) s.trace := by
  have hcheck : Does env (Operation.Adds Moment.IsInner) (checkpoint env) :=
    does_checkpoint fun _ he => he.adds fun _ hm => hm.isAside.isInner
  refine .fix fun s₀ ⟨ended, hs₀, hended⟩ => ?_
  exact ((tracked_inner hcheck).strengthen fun s hs => hs ▸ hs₀).weaken fun _ s hs => ⟨ended, hs, hended⟩

theorem inner_executeStep (i : Nat) (step : Step) (row : DataRow) :
    Does env (Operation.Adds Moment.IsInner) (executeStep env p i step row) :=
  does_executeStep (fun _ he => he.adds (fun _ => Moment.IsAside.isInner) fun _ => trivial) (fun _ => trivial) trivial
    (fun _ _ => trivial) (does_attempt_adds (fun _ => Moment.IsAside.isInner) (fun _ _ _ => trivial) i step row)

theorem turned_inFrame {first last : Nat} {row : DataRow} {body : Engine σ Signal}
    (hbody : Ensures (Headed p first ⟨first, last, row⟩ fs) body (fun signal => Giving p signal ⟨first, last, row⟩ fs)
      fun _ s => Always (Contained p) s.trace) :
    Ensures (Turning p first last fs) (inFrame first last row body) (Turned p first last fs)
      fun _ s => Always (Contained p) s.trace := by
  refine ensures_inFrame (fun s hs => ?_) hbody fun signal s hs => ?_
  · obtain ⟨ended, hs, hsame⟩ := hs
    exact (hs.enter rfl hsame).headed first
  · obtain ⟨hgives, raised, ended, hs, hown, hinner⟩ := hs
    exact ⟨row, hgives, hs.leave rfl hgives hown hinner⟩

/-- **A loop uses up what its body gives**, but a goto: after it the frame around is headed behind the loop, or to the
place of the goto. -/
theorem headed_runLoop {i stop : Nat} {spec : LoopSpec} {row : DataRow} {body : DataRow → Engine σ Signal}
    (hbody : ∀ row, Ensures (Turning p (i + 1) stop (f :: fs)) (body row) (Turned p (i + 1) stop (f :: fs))
      fun _ s => Always (Contained p) s.trace) :
    Ensures (Turning p (i + 1) stop (f :: fs)) (runLoop env p i spec row body)
      (fun signal => AfterMove f (fun i => Headed p i f fs) (fun signal => Giving p signal f fs)
        (signal.moveAfterLoop stop))
      fun _ s => Always (Contained p) s.trace := by
  have hkeeps : ∀ e : Operation σ, Loops i e →
      e.Keeps env (Turning p (i + 1) stop (f :: fs)) fun _ s => Always (Contained p) s.trace := fun e he =>
    turning_keeps (he.adds fun _ => Moment.IsAside.isInner) he.ne_observe
  have hrule : TurnRule env p i spec row body (Turning p (i + 1) stop (f :: fs)) (Turned p (i + 1) stop (f :: fs))
      (fun _ _ => True) fun _ s => Always (Contained p) s.trace := by
    refine .ofKeeps hkeeps (fun _ => Turning.always) hbody (fun signal s hadvance hs => ?_) fun _ _ => id
    obtain ⟨row, -, hs⟩ := hs
    refine ⟨_, hs, fun g signal' heq => ?_⟩
    cases heq
    exact ⟨rfl, rfl, hadvance, nofun⟩
  refine hrule.runLoop.weaken fun signal s hs => ?_
  obtain ⟨rfl, ⟨ended, hs, hsame⟩ | ⟨row, -, hs⟩⟩ | ⟨t, rfl, row, -, hs⟩ := hs
  · refine ⟨ended, hs, fun g signal heq => ?_⟩
    obtain ⟨-, hlast, hadvance, -⟩ := hsame g signal heq
    rw [Signal.target?_of_advance hadvance, hlast]
    exact ⟨rfl, nofun⟩
  · refine ⟨_, hs, fun g signal heq => ?_⟩
    cases heq
    exact ⟨rfl, nofun⟩
  · refine ⟨fun ht => ⟨_, hs, fun g signal heq => ?_⟩, fun ht => ?_⟩
    · cases heq
      exact ⟨rfl, fun t' ht' => Option.some.inj ht' ▸ ht⟩
    · refine ⟨.inr ⟨t, rfl, ht⟩, none, _, hs, Tracked.unraised, fun g inner heq => ?_⟩
      cases heq
      rfl

theorem Program.bare?_eq {i : Nat} {step : Step} (hstep : p.workflow.steps[i]? = some step) :
    p.bare? i = step.kind.signal? := by
  rw [Program.bare?, hstep]
  rfl

/-- A step that executes nothing sends its frame on, or has it give back its own signal. -/
theorem Come.lands {i : Nat} {step : Step} (hstep : p.workflow.steps[i]? = some step) {s : Session σ}
    (h : Come p i f fs s) :
    p.Lands i step (AfterMove f (fun i => Headed p i f fs) fun signal => Giving p signal f fs)
      (fun _ s => Always (Contained p) s.trace) s := by
  have hcome : Tracked p (f :: fs) step.kind.signal? none s.trace := Program.bare?_eq hstep ▸ h
  refine ⟨fun m hm => ?_, fun _ _ => hcome.always⟩
  cases hm with
  | label hkind | ifEnd hkind | loopEnd hkind | holds hkind | skips hkind _ | otherwise hkind _ =>
    rw [hkind] at hcome
    exact hcome.headed _
  | goto hkind _ =>
    rw [hkind] at hcome
    exact hcome.jump _
  | raise hsignal =>
    refine hcome.giving (.inl (.inr (StepKind.signal?_isLoopControl hsignal))) fun own hown => ?_
    exact Option.some.inj (hsignal.symm.trans hown)

/-- **The walk of a frame**, with the frames around. -/
theorem pathRule_contained (env : Env σ) (p : Program) :
    PathRule env p (Headed p) (Come p) (Giving p) fun _ s => Always (Contained p) s.trace where
  arrive i f fs _ := by
    refine .bind (headed_checkpoint i) fun _ => ensures_visit fun s hs => ?_
    obtain ⟨ended, hs, hended⟩ := hs
    exact hs.visit rfl fun g signal heq => (hended g signal heq).1
  finish i f fs s hlast hs := by
    obtain ⟨ended, hs, hended⟩ := hs
    refine ⟨.inl (.inl rfl), none, ended, hs, Tracked.unraised, fun g inner heq => ?_⟩
    -- A goto into the frame would lead to a step of it.
    cases inner with
    | goto t =>
      obtain ⟨rfl, hcontains⟩ := hended g _ heq
      exact absurd (hcontains _ rfl).2 (Nat.not_lt.2 hlast)
    | _ => rfl
  noStep _ _ _ _ _ hs := hs.always
  dispatch i f fs step body hstep hbody := by
    refine ensures_moves hstep (fun _ s hs => hs.lands hstep) (fun c _ => ?_) (fun haction => ?_)
      fun spec stop hkind _ => ?_
    · have hlooks : Does env (Operation.Adds Moment.IsInner) (evaluate env f.row c) :=
        does_evaluate f.row c fun _ he => he.adds.mono fun _ h => h.isLook.isAside.isInner
      exact (tracked_inner hlooks).weaken fun _ s hs => Come.lands hstep hs
    · have hnone : p.bare? i = none := by
        rw [Program.bare?_eq hstep]
        rw [Step.isAction] at haction
        cases hkind : step.kind <;> rw [hkind] at haction <;> first | rfl | cases haction
      refine (tracked_inner (inner_executeStep i step f.row)).weaken fun signal s hs => ?_
      rw [hnone] at hs
      cases hmove : signal.move i with
      | advance k   => exact hs.headed k
      | jump t      => exact hs.jump t
      | leave given => exact hs.giving (.inl (.inr (Signal.isLoopControl_of_leave hmove))) Tracked.unraised
    · have hnone : p.bare? i = none := by
        rw [Program.bare?_eq hstep, hkind]
        rfl
      refine (headed_runLoop fun row => ?_).strengthen fun s hs => Tracked.turning (hnone ▸ hs)
      exact turned_inFrame (hbody (i + 1) stop row (f :: fs))
  outOfFuel _ _ _ _ := Headed.always

end Walks

/-! ## Programs -/

theorem turned_executeRange (env : Env σ) (p : Program) (first last : Nat) (row : DataRow) :
    Ensures (Turning p first last []) (executeRange env p first last row) (Turned p first last [])
      fun _ s => Always (Contained p) s.trace :=
  turned_inFrame ((pathRule_contained env p).walk env.fuel ⟨first, last, row⟩ [] first)

theorem turning_checkEscaped {first last : Nat} (signal : Signal) :
    Ensures (Turned p first last [] signal) (checkEscaped signal : Engine σ Unit) (fun _ => Turning p first last [])
      fun _ s => Always (Contained p) s.trace := by
  have hfails : ∀ fault, Ensures (Turned p first last [] signal) (fail (.structural fault) : Engine σ Unit)
      (fun _ => Turning p first last []) fun _ s => Always (Contained p) s.trace :=
    fun _ => .fail fun _ ⟨_, _, hs⟩ => hs.always
  unfold checkEscaped
  split
  · refine .pure fun s ⟨row, hgives, hs⟩ => ⟨_, hs, fun g given heq => ?_⟩
    have hnext : signal = .next := hgives.eq_next ‹_›
    cases heq
    exact ⟨rfl, rfl, hnext ▸ rfl, fun _ => hnext⟩
  · split <;> exact hfails _

/-- Before every row no frame is open, and the last one, if there was one, ended well. -/
theorem contained_executeProgram (env : Env σ) (p : Program) :
    Ensures (Turning p 0 p.workflow.steps.length []) (executeProgram env p)
      (fun _ => Turning p 0 p.workflow.steps.length []) fun _ s => Always (Contained p) s.trace := by
  let n := p.workflow.steps.length
  have hkeeps : ∀ e : Operation σ, Loops 0 e → e.Keeps env (Turning p 0 n []) fun _ s => Always (Contained p) s.trace :=
    fun e he => turning_keeps (he.adds fun _ => Moment.IsAside.isInner) he.ne_observe
  have hcheck : Does env (Loops 0) (checkpoint env) := does_checkpoint fun _ => .rest
  have hbegin : ∀ i row, Ensures (Turning p 0 n []) (beginRow env p i row) (fun _ => Turning p 0 n [])
      fun _ s => Always (Contained p) s.trace := fun i row =>
    .bind (R := fun _ => Turning p 0 n []) (.modifyContext (hkeeps _ (.began _ _) fun _ _ => rfl)) fun _ =>
      .report (hkeeps _ (.rowStarted _))
  exact ensures_program (hcheck.ensures hkeeps fun _ => Turning.always) (fun i row _ => hbegin i row)
    (fun _ row _ => turned_executeRange env p 0 n row) (turned_executeRange env p 0 n .empty) turning_checkEscaped

/-- **Signals for loops are contained**, in every run. -/
theorem always_contained (env : Env σ) (w : Workflow) (input : RunInput) (world : World σ) :
    Always (Contained (w.program w.analyze.1 input env.options)) (history env w input world) := by
  let p := w.program w.analyze.1 input env.options
  let T : List Entry → Prop := fun trace => ∃ ended, Tracked p [] none ended trace ∧
    ∀ g signal, ended = some (g, signal) → g.FollowedBy signal 0 p.workflow.steps.length []
  refine history_of_program (T := T) ⟨none, ⟨rfl, rfl, rfl, trivial⟩, nofun⟩ ?_ ?_ ?_ ?_ world
  · exact fun e past he ⟨ended, h, hended⟩ => ⟨ended, h.inner he.isInner, hended⟩
  · exact fun e past he h => ⟨contained_inner he.isInner, h⟩
  · exact fun past ⟨_, h, _⟩ => h.always
  · exact fun _ => (contained_executeProgram env p).weaken fun _ _ => Turning.always

/-! ## Gotos -/

/-- The frames that were open when the step was come to, or had failed, that is the last one. -/
def openAtStep : List Entry → List Frame
  | [] => []
  | e :: past =>
    match e.moment with
    | .visited _ | .progress (.stepFailed ..) => openFrames past
    | _                                       => openAtStep past

/-- What may happen after `past` to the goto that is under way.  It leads to its place in the innermost of the frames
that contain it, of those that were open when it was raised; the frames inside that one end with it; and none is
opened. -/
def Consumed (p : Program) (e : Entry) (past : List Entry) : Prop :=
  match e.moment with
  | .visited i =>
    ∀ t ∈ p.underway? past, i = t ∧ openFrames past = (openAtStep past).dropWhile fun f => !decide (f.Contains t)
  | .left signal => ∀ t ∈ p.underway? past, signal = .goto t ∧ ∃ f outer, openFrames past = f :: outer ∧ ¬f.Contains t
  | .entered ..  => p.underway? past = none
  | _            => True

/-- The frames that a goto has closed are those, from the innermost, that do not contain its place. -/
theorem consumed_of_confined {trace : List Entry} (h : Always (Confined p) trace) :
    Always (Consumed p) trace ∧ ∀ t ∈ p.underway? trace,
      ∃ closed, openAtStep trace = closed ++ openFrames trace ∧ ∀ f ∈ closed, ¬f.Contains t := by
  induction trace with
  | nil => exact ⟨trivial, nofun⟩
  | cons e past ih =>
    obtain ⟨hconfined, hpast⟩ := h
    obtain ⟨hconsumed, hclosed⟩ := ih hpast
    obtain ⟨time, control, context, moment⟩ := e
    cases moment with
    | visited i =>
      obtain ⟨hgoal, f, outer, hopen, hcontains, -⟩ := hconfined
      refine ⟨⟨fun t ht => ?_, hconsumed⟩, fun t _ => ⟨[], rfl, nofun⟩⟩
      obtain rfl := hgoal t ht
      obtain ⟨closed, hframes, hmisses⟩ := hclosed t ht
      refine ⟨rfl, ?_⟩
      rw [hframes, List.dropWhile_append_of_pos fun f hf => by simpa using hmisses f hf, hopen,
        List.dropWhile_cons_of_neg (by simpa using hcontains)]
    | left signal =>
      obtain ⟨hgoal, f, outer, hopen, hemits⟩ := hconfined
      have hleads : ∀ t ∈ signal.target?, signal = .goto t ∧ ¬f.Contains t := fun t ht => by
        obtain hout | ⟨t', rfl, -, hmiss⟩ := hemits
        · exact absurd ht (hout.target?_eq_none ▸ Option.not_mem_none t)
        · cases ht
          exact ⟨rfl, hmiss⟩
      refine ⟨⟨fun t ht => ?_, hconsumed⟩, fun t ht => ?_⟩
      · obtain ⟨hsignal, hmiss⟩ := hleads t (hgoal ▸ ht)
        exact ⟨hsignal, f, outer, hopen, hmiss⟩
      · obtain ⟨closed, hframes, hmisses⟩ := hclosed t (hgoal ▸ ht)
        refine ⟨closed ++ [f], ?_, fun g hg => ?_⟩
        · show openAtStep past = closed ++ [f] ++ (openFrames past).tail
          rw [hframes, hopen, List.append_assoc]
          rfl
        · obtain hg | hg := List.mem_append.1 hg
          · exact hmisses g hg
          · exact List.mem_singleton.1 hg ▸ (hleads t ht).2
    | entered first last row => exact ⟨⟨hconfined.1, hconsumed⟩, nofun⟩
    | progress event =>
      cases event with
      | stepFailed i mode err => exact ⟨⟨trivial, hconsumed⟩, fun t _ => ⟨[], rfl, nofun⟩⟩
      | _ => exact ⟨⟨trivial, hconsumed⟩, hclosed⟩
    | _ => exact ⟨⟨trivial, hconsumed⟩, hclosed⟩

/-- **Signals are contained.**  A range of steps gives back that all went well, a signal for a loop, or a goto that
leads out of it; a loop only the first or a goto that leads out of its body.  In every run a signal for a loop reaches
no further than the innermost loop, and a goto is followed in the innermost frame around it that contains its place. -/
theorem signals_contained (env : Env σ) :
    (∀ p first last row, Returns (executeRange env p first last row) (Frame.GivesBack ⟨first, last, row⟩)) ∧
      (∀ p fuel start stop spec row,
        let frame := fun row => inFrame (start + 1) stop row (walk env p fuel (start + 1) stop (start + 1) row)
        Returns (runLoop env p start spec row frame) fun signal =>
          signal = .next ∨ ∃ t, signal = .goto t ∧ ¬(start + 1 ≤ t ∧ t < stop)) ∧
      ∀ w input world, let p := w.program w.analyze.1 input env.options
        Always (Contained p) (history env w input world) ∧ Always (Consumed p) (history env w input world) := by
  refine ⟨fun p first last row => returns_inFrame p env.fuel first last row, fun p fuel start stop spec row => ?_,
    fun w input world => ?_⟩
  · let O : Signal → Prop := fun signal => signal.OfOutcome ∨ ∃ t, signal = .goto t ∧ ¬(start + 1 ≤ t ∧ t < stop)
    have hbody : ∀ row, Returns (inFrame (start + 1) stop row (walk env p fuel (start + 1) stop (start + 1) row)) O :=
      fun row => returns_inFrame p fuel (start + 1) stop row
    refine (returns_runLoop (O := O) hbody).weaken fun signal s hs => ?_
    obtain hnext | ⟨t, rfl, (hout | hloop) | ⟨t', heq, ht⟩⟩ := hs
    · exact .inl hnext
    · cases hout
    · cases hloop
    · cases heq
      exact .inr ⟨t, rfl, ht⟩
  · obtain ⟨goal, nest, hnested⟩ := nested_history env w input world
    exact ⟨always_contained env w input world, (consumed_of_confined hnested.always).1⟩

def leftInside : Workflow where
  steps := [
    { kind := .loopStart { mode := .count 2 } },
    { kind := .loopStart { mode := .count 3 } },
    { kind := .breakLoop },
    { kind := .loopEnd none },
    { kind := .loopEnd none }]

example :
    (history ⟨.inert, {}, {}, 10, ⟨0, 0⟩⟩ leftInside ⟨⟨"", []⟩, []⟩ { host := () }).reverse.filterMap
      (fun e => match e.moment with
        | .visited i => some i
        | _          => none) = [0, 1, 2, 1, 2] := by
  decide +kernel

end FormReplay
