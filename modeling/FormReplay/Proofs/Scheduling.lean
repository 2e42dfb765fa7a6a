import FormReplay.Proofs.Engine.Course
import FormReplay.Proofs.Engine.Smooth
/-!
# The schedule of loops

What a loop does around the executions of its body, for any body at all.  A loop over places opens each turn with a
checkpoint and a report, at the row of its place, and begins a primary row at the first turn there
(`places_visited_in_turn`).  A loop with a condition asks it once before each turn, and no more once its turns are used
up (`condition_asked_before_each_turn`).  Both follow a course of turns, so that only a granted repeat stays at a place.
-/
namespace FormReplay

variable {σ : Type} {env : Env σ}

/-! ## Loops over places -/

/-- The rows that a loop over places executes its body against, one for each place: the row around it, so many times, or
that merged with each of the items. -/
def Program.placeRows (p : Program) (row : DataRow) : LoopMode → List DataRow
  | .count times      => List.replicate times.toNat row
  | .data source most =>
    (limited most (p.loopRows source row).items).map (row.mergeItem (p.loopRows source row).source)
  | .whileHolds ..    => []

def Program.overPrimary (p : Program) (row : DataRow) : LoopMode → Bool
  | .data source _ => (p.loopRows source row).isPrimary
  | _              => false

def enterPlace (env : Env σ) (p : Program) (row : DataRow) (place : Nat) (first : Bool) (merged : DataRow) :
    LoopMode → Engine σ Unit
  | .data source _ => enterRow env p (p.loopRows source row).isPrimary first place merged
  | _              => pure ()

def openPlace (env : Env σ) (p : Program) (start : Nat) (spec : LoopSpec) (row : DataRow) (place : Nat) (first : Bool)
    (merged : DataRow) : Engine σ Unit := do
  checkpoint env
  enterPlace env p row place first merged spec.mode
  report env (.loopIteration start place spec.id)

/-- What a loop leaves behind it: the row around a data loop is the current one again. -/
def Session.behindLoop (mode : LoopMode) (row : DataRow) (s : Session σ) : Session σ :=
  match mode with
  | .data .. => s.onContext fun c => { c with row := row }
  | _        => s

def openingEvents (p : Program) (start : Nat) (spec : LoopSpec) (row : DataRow) (place : Nat) (first : Bool) :
    List ProgressEvent :=
  .loopIteration start place spec.id ::
    if p.overPrimary row spec.mode && first then [.rowStarted (p.rowOffset + place)] else []

def turnEvents (p : Program) (start : Nat) (spec : LoopSpec) (row : DataRow) : List (Turn σ) → List ProgressEvent
  | []           => []
  | t :: earlier =>
    openingEvents p start spec row t.place (turnsAt t.place earlier == 0) ++ turnEvents p start spec row earlier

structure Opens (env : Env σ) (p : Program) (start : Nat) (spec : LoopSpec) (row : DataRow) (place : Nat) (first : Bool)
    (merged : DataRow) (s opened : Session σ) : Prop where
  atRow   : (p.placeRows row spec.mode)[place]? = some merged
  opens   : openPlace env p start spec row place first merged s = .ok () opened
  events  : opened.events = openingEvents p start spec row place first ++ s.events
  current : ∀ source most, spec.mode = .data source most → opened.context.row = merged

def AtPlace (env : Env σ) (p : Program) (start : Nat) (spec : LoopSpec) (row : DataRow) (body : DataRow → Engine σ Signal)
    (place repeats : Nat) (s : Session σ) (signal : Signal) (s' : Session σ) : Prop :=
  ∃ merged opened, Opens env p start spec row place (repeats == 0) merged s opened ∧ body merged opened = .ok signal s'

/-- A turn of a loop over places fails: as it is opened, or in its body. -/
def FailsAtPlace (env : Env σ) (p : Program) (start : Nat) (spec : LoopSpec) (row : DataRow)
    (body : DataRow → Engine σ Signal) (place repeats : Nat) (s : Session σ) (e : Halt) (s' : Session σ) : Prop :=
  ∃ merged, (p.placeRows row spec.mode)[place]? = some merged ∧
    (openPlace env p start spec row place (repeats == 0) merged s = .error e s' ∨
      ∃ opened, Opens env p start spec row place (repeats == 0) merged s opened ∧ body merged opened = .error e s')

theorem unmoved_checkpoint (s₀ : Session σ) :
    Ensures (Unmoved s₀) (checkpoint env) (fun _ => Unmoved s₀) fun _ => Unmoved s₀ := by
  have hrests : Does env (Rests .pausePoll) (checkpoint env) := does_checkpoint fun _ => id
  refine hrests.ensures (fun e he => (keptBy_unmoved s₀).keeps ?_ ?_) fun _ => id
  · cases he <;> trivial
  · rintro f rfl
    cases he

section Places

variable {p : Program} {start : Nat} {spec : LoopSpec} {row : DataRow} {body : DataRow → Engine σ Signal}

theorem entered_of_enterPlace {place : Nat} {first : Bool} {merged : DataRow} {s entered : Session σ} {mode : LoopMode}
    (h : enterPlace env p row place first merged mode s = .ok () entered) :
    entered.events = (if p.overPrimary row mode && first then [.rowStarted (p.rowOffset + place)] else []) ++ s.events ∧
      ∀ source most, mode = .data source most → entered.context.row = merged := by
  cases mode with
  | count times => cases h; exact ⟨rfl, nofun⟩
  | whileHolds condition most => cases h; exact ⟨rfl, nofun⟩
  | data source most =>
    have h : enterRow env p (p.loopRows source row).isPrimary first place merged s = .ok () entered := h
    rw [enterRow] at h
    by_cases hbegins : ((p.loopRows source row).isPrimary && first) = true
    · rw [if_pos hbegins] at h
      cases h
      let begun := s.began (p.rowOffset + place) merged
      have hcontext : (begun.told env (.rowStarted (p.rowOffset + place))).context = begun.context := (begun.told_learned _).2
      rw [Program.overPrimary, if_pos hbegins]
      exact ⟨begun.events_told env _, fun _ _ _ => congrArg Context.row hcontext⟩
    · rw [if_neg hbegins] at h
      cases h
      rw [Program.overPrimary, if_neg hbegins]
      exact ⟨rfl, fun _ _ _ => rfl⟩

theorem opens_of_openPlace {place : Nat} {first : Bool} {merged : DataRow} {s opened : Session σ}
    (hrow : (p.placeRows row spec.mode)[place]? = some merged)
    (h : openPlace env p start spec row place first merged s = .ok () opened) :
    Opens env p start spec row place first merged s opened := by
  obtain ⟨_, ready, hcheck, hrest⟩ := Engine.bind_eq_ok_iff.1 h
  obtain ⟨_, entered, henter, hreport⟩ := Engine.bind_eq_ok_iff.1 hrest
  have hready : Unmoved s ready := (unmoved_checkpoint s).ok ⟨rfl, rfl, rfl⟩ hcheck
  obtain ⟨hevents, hcurrent⟩ := entered_of_enterPlace henter
  cases hreport
  refine ⟨hrow, h, ?_, fun source most hmode => ?_⟩
  · rw [← hready.events, openingEvents, List.cons_append, ← hevents]
    exact entered.events_told env _
  · exact (congrArg Context.row (entered.told_learned _).2).trans (hcurrent source most hmode)

theorem runLoop_places (hmode : ∀ condition most, spec.mode ≠ .whileHolds condition most) :
    ∃ turn : Nat → Bool → Engine σ Signal,
      (∀ place first merged, (p.placeRows row spec.mode)[place]? = some merged →
        turn place first = (do openPlace env p start spec row place first merged; body merged)) ∧
      ∀ s, runLoop env p start spec row body s =
        match overPositions turn env.config.repeatLimit 0 (p.placeRows row spec.mode).length s with
        | .ok signal s' => .ok signal (s'.behindLoop spec.mode row)
        | .error e s'   => .error e s' := by
  obtain ⟨id, mode⟩ := spec
  cases mode with
  | whileHolds condition most => exact absurd rfl (hmode condition most)
  | count times =>
    refine ⟨fun i _ => do checkpoint env; report env (.loopIteration start i id); body row, ?_, fun s => ?_⟩
    · intro place first merged hmerged
      obtain ⟨-, rfl⟩ : place < times.toNat ∧ row = merged := by
        rw [Program.placeRows, List.getElem?_replicate] at hmerged
        split at hmerged
        · exact ⟨‹_›, Option.some.inj hmerged⟩
        · cases hmerged
      simp only [openPlace, enterPlace, bind_assoc, pure_bind]
    · rw [Program.placeRows, List.length_replicate]
      simp only [runLoop, Session.behindLoop]
      split <;> assumption
  | data source most =>
    let rows := p.loopRows source row
    let items := limited most rows.items
    refine ⟨fun i first => do
      checkpoint env
      let merged := row.mergeItem rows.source (items.toArray.getD i .empty)
      enterRow env p rows.isPrimary first i merged
      report env (.loopIteration start i id)
      body merged, ?_, fun s => ?_⟩
    · intro place first merged hmerged
      rw [Program.placeRows, List.getElem?_map, Option.map_eq_some_iff] at hmerged
      obtain ⟨item, hitem, rfl⟩ := hmerged
      have hget : items.toArray.getD place .empty = item := by
        rw [Array.getD_eq_getD_getElem?, List.getElem?_toArray, hitem, Option.getD_some]
      simp only [openPlace, enterPlace, bind_assoc, hget]
      rfl
    · rw [Program.placeRows, List.length_map]
      simp only [runLoop, Engine.bind_apply, Session.behindLoop, List.size_toArray, rows, items]
      generalize overPositions _ env.config.repeatLimit 0 _ s = result
      cases result <;> rfl

theorem atPlace_of_atPosition {turn : Nat → Bool → Engine σ Signal}
    (hturn : ∀ place first merged, (p.placeRows row spec.mode)[place]? = some merged →
      turn place first = (do openPlace env p start spec row place first merged; body merged))
    {place repeats : Nat} {s s' : Session σ} {signal : Signal}
    (h : AtPosition turn (p.placeRows row spec.mode).length place repeats s signal s') :
    AtPlace env p start spec row body place repeats s signal s' := by
  obtain ⟨hplace, hbody⟩ := h
  have hrow := List.getElem?_eq_getElem hplace
  rw [hturn place _ _ hrow] at hbody
  obtain ⟨_, opened, hopen, hbody⟩ := Engine.bind_eq_ok_iff.1 hbody
  exact ⟨_, opened, opens_of_openPlace hrow hopen, hbody⟩

theorem failsAtPlace_of_error {turn : Nat → Bool → Engine σ Signal}
    (hturn : ∀ place first merged, (p.placeRows row spec.mode)[place]? = some merged →
      turn place first = (do openPlace env p start spec row place first merged; body merged))
    {place repeats : Nat} {s s' : Session σ} {e : Halt} (hplace : place < (p.placeRows row spec.mode).length)
    (h : turn place (repeats == 0) s = .error e s') : FailsAtPlace env p start spec row body place repeats s e s' := by
  have hrow := List.getElem?_eq_getElem hplace
  rw [hturn place _ _ hrow] at h
  refine ⟨_, hrow, (Engine.bind_eq_error_iff.1 h).imp_right ?_⟩
  rintro ⟨_, opened, hopen, hbody⟩
  exact ⟨opened, opens_of_openPlace hrow hopen, hbody⟩

theorem count_openingEvents (here place : Nat) (first : Bool) :
    (openingEvents p start spec row here first).count (.rowStarted (p.rowOffset + place)) =
      if p.overPrimary row spec.mode ∧ first ∧ here = place then 1 else 0 := by
  have hiteration : ¬(.loopIteration start here spec.id == ProgressEvent.rowStarted (p.rowOffset + place)) = true :=
    fun h => nomatch eq_of_beq h
  rw [openingEvents, List.count_cons, if_neg hiteration]
  cases p.overPrimary row spec.mode <;> cases first <;> simp [List.count_singleton]

theorem count_turnEvents (turns : List (Turn σ)) (place : Nat) :
    (turnEvents p start spec row turns).count (.rowStarted (p.rowOffset + place)) =
      if p.overPrimary row spec.mode then min 1 (turnsAt place turns) else 0 := by
  induction turns with
  | nil => simp [turnEvents, turnsAt]
  | cons t earlier ih =>
    rw [turnEvents, List.count_append, count_openingEvents, ih, turnsAt_cons]
    by_cases hplace : t.place = place
    · subst hplace
      by_cases hprimary : p.overPrimary row spec.mode = true
      · simp only [hprimary, beq_iff_eq, and_true, true_and, if_true]
        split <;> omega
      · simp [hprimary]
    · simp only [hplace, and_false, if_false, Nat.zero_add, Nat.add_zero]

/-- **The schedule of a loop over places**, whatever its body does.  The turns follow a course, each opened against the
row of its place: they begin at the first place and never go back, at no place more often than the limit on repeats allows,
and begin a primary row once, at the first turn there.  The loop ends with the turn that leaves it, by a break or a goto,
or once every place was come to; or the next turn fails. -/
theorem places_visited_in_turn (env : Env σ) (p : Program) (start : Nat) (spec : LoopSpec) (row : DataRow)
    (body : DataRow → Engine σ Signal) (s : Session σ)
    (hmode : ∀ condition most, spec.mode ≠ .whileHolds condition most) :
    let limit := env.config.repeatLimit
    let count := (p.placeRows row spec.mode).length
    ∃ turns, Course (AtPlace env p start spec row body) limit s turns ∧
      (turns.Pairwise fun newer older => older.place ≤ newer.place) ∧
      (∀ place, turnsAt place turns ≤ limit + 1) ∧
      (∀ place, (turnEvents p start spec row turns).count (.rowStarted (p.rowOffset + place)) =
        if p.overPrimary row spec.mode then min 1 (turnsAt place turns) else 0) ∧
      match runLoop env p start spec row body s with
      | .ok signal s' =>
        s' = (sessionAfter s turns).behindLoop spec.mode row ∧
          (LeftBy turns signal ∨
            signal = .next ∧ GoesOn turns ∧ nextPlace limit turns = count ∧ ∀ place < count, 1 ≤ turnsAt place turns)
      | .error e s' =>
        GoesOn turns ∧ nextPlace limit turns < count ∧
          FailsAtPlace env p start spec row body (nextPlace limit turns) (turnsAt (nextPlace limit turns) turns)
            (sessionAfter s turns) e s' := by
  intro limit count
  obtain ⟨turn, hturn, hrun⟩ := @runLoop_places σ env p start spec row body hmode
  obtain ⟨turns, hcourse, hpassed⟩ := course_overPositions turn limit count s
  refine ⟨turns, hcourse.mono fun t _ repeats => atPlace_of_atPosition hturn, hcourse.nondecreasing,
    fun place => (hcourse.turnsAt_bounds place).2.1, count_turnEvents turns, ?_⟩
  rw [hrun]
  cases hresult : overPositions turn limit 0 count s with
  | ok signal s' =>
    rw [hresult] at hpassed
    obtain ⟨rfl, hend⟩ := hpassed
    refine ⟨rfl, hend.imp_right ?_⟩
    rintro ⟨hgo, hnext, rfl⟩
    exact ⟨rfl, hgo, hnext, fun place hplace => (hcourse.turnsAt_bounds place).1 (hnext ▸ hplace)⟩
  | error e s' =>
    rw [hresult] at hpassed
    obtain ⟨hplace, hgo, hfails⟩ := hpassed
    exact ⟨hgo, hplace, failsAtPlace_of_error hturn hplace hfails⟩

/-- Over two rows, with one repeat granted, a body that always asks for one is executed at each row once or twice. -/
theorem both_rows_visited :
    let env : Env Unit := ⟨Host.inert, { repeatLimit := 1 }, {}, 1, ⟨0, 0⟩⟩
    let p : Program := ⟨{}, {}, ⟨⟨"orders", [.empty, .empty]⟩, []⟩, 0, false⟩
    let spec : LoopSpec := ⟨none, .data none none⟩
    (∀ condition most, spec.mode ≠ .whileHolds condition most) ∧
      ∃ turns, Course (AtPlace env p 0 spec .empty fun _ => pure .repeatLoop) 1 { world := { host := () } } turns ∧
        ∀ place < 2, 1 ≤ turnsAt place turns ∧ turnsAt place turns ≤ 2 := by
  intro env p spec
  have hmode : ∀ condition most, spec.mode ≠ .whileHolds condition most := nofun
  obtain ⟨turns, hcourse, -, hmost, -, hend⟩ :=
    places_visited_in_turn env p 0 spec .empty (fun _ => pure .repeatLoop) { world := { host := () } } hmode
  obtain ⟨-, hleft | ⟨-, -, -, hall⟩⟩ := hend
  · cases hcourse with
    | nil => exact hleft.elim
    | turn before goesOn performs =>
      obtain ⟨merged, opened, -, hbody⟩ := performs
      cases hbody
      obtain ⟨hbreak, -⟩ | ⟨_, hgoto, -⟩ := hleft
      · cases hbreak
      · cases hgoto
  · exact ⟨hmode, turns, hcourse, fun place hplace => ⟨hall place hplace, hmost place⟩⟩

end Places

/-! ## Loops with a condition -/

/-- The condition of the loop at a step is asked once the run may proceed, and is answered. -/
def Asks (env : Env σ) (start : Nat) (condition : Condition) (row : DataRow) (s : Session σ) (answer : Bool)
    (s' : Session σ) : Prop :=
  ∃ ready, checkpoint env s = .ok () ready ∧
    evaluate env row condition (ready.onContext fun c => { c with stepIndex := start }) = .ok answer s'

def FailsToAsk (env : Env σ) (start : Nat) (condition : Condition) (row : DataRow) (s : Session σ) (e : Halt)
    (s' : Session σ) : Prop :=
  checkpoint env s = .error e s' ∨ ∃ ready, checkpoint env s = .ok () ready ∧
    evaluate env row condition (ready.onContext fun c => { c with stepIndex := start }) = .error e s'

/-- A turn of a loop with a condition: it is found to hold, and with a report the body is executed. -/
def OnceAsked (env : Env σ) (start : Nat) (id : Option String) (condition : Condition) (row : DataRow)
    (body : DataRow → Engine σ Signal) (place _repeats : Nat) (s : Session σ) (signal : Signal) (s' : Session σ) : Prop :=
  ∃ tested, Asks env start condition row s true tested ∧
    body row (tested.told env (.loopIteration start place id)) = .ok signal s'

section Conditions

variable {start : Nat} {condition : Condition} {row : DataRow}

theorem asks_iff {s s' : Session σ} {answer : Bool} :
    (do checkpoint env; modifyContext (fun c => { c with stepIndex := start }); evaluate env row condition) s
      = .ok answer s' ↔ Asks env start condition row s answer s' := by
  rw [Engine.bind_eq_ok_iff]
  exact ⟨fun ⟨_, ready, hcheck, hasked⟩ => ⟨ready, hcheck, hasked⟩, fun ⟨ready, hcheck, hasked⟩ => ⟨(), ready, hcheck, hasked⟩⟩

theorem failsToAsk_iff {s s' : Session σ} {e : Halt} :
    (do checkpoint env; modifyContext (fun c => { c with stepIndex := start }); evaluate env row condition) s
      = .error e s' ↔ FailsToAsk env start condition row s e s' := by
  rw [Engine.bind_eq_error_iff]
  exact or_congr_right
    ⟨fun ⟨_, ready, hcheck, hasked⟩ => ⟨ready, hcheck, hasked⟩, fun ⟨ready, hcheck, hasked⟩ => ⟨(), ready, hcheck, hasked⟩⟩

/-- **A loop with a condition**, whatever its body does.  Once before each turn the condition is asked and found to hold,
and the turn reports how many of the earlier ones were not repeated.  The loop ends with the turn that leaves it, by a
break or a goto, when the turns are used up, repeats among them, or when the condition is found not to hold; or the next
turn fails. -/
theorem condition_asked_before_each_turn (env : Env σ) (p : Program) (start : Nat) (id : Option String)
    (condition : Condition) (most : Option UInt64) (row : DataRow) (body : DataRow → Engine σ Signal) (s : Session σ) :
    let limit := env.config.repeatLimit
    let cap := (most.map UInt64.toNat).getD env.config.loopLimit
    ∃ turns, Course (OnceAsked env start id condition row body) limit s turns ∧ turns.length ≤ cap ∧
      (∀ later t earlier, turns = later ++ t :: earlier → t.place = advances limit earlier) ∧
      match runLoop env p start ⟨id, .whileHolds condition most⟩ row body s with
      | .ok signal s' =>
        LeftBy turns signal ∧ s' = sessionAfter s turns ∨
        GoesOn turns ∧ signal = .next ∧ (turns.length = cap ∧ s' = sessionAfter s turns ∨
          turns.length < cap ∧ Asks env start condition row (sessionAfter s turns) false s')
      | .error e s' =>
        GoesOn turns ∧ turns.length < cap ∧ (FailsToAsk env start condition row (sessionAfter s turns) e s' ∨
          ∃ tested, Asks env start condition row (sessionAfter s turns) true tested ∧
            body row (tested.told env (.loopIteration start (advances limit turns) id)) = .error e s') := by
  intro limit cap
  let holds : Engine σ Bool := do
    checkpoint env
    modifyContext fun c => { c with stepIndex := start }
    evaluate env row condition
  obtain ⟨turns, hcourse, hmost, hheld⟩ := course_whileHolds holds
    (fun i => do report env (.loopIteration start i id); body row) limit cap s
  have hturns : Course (OnceAsked env start id condition row body) limit s turns :=
    hcourse.mono fun t _ _ ⟨tested, hholds, hbody⟩ => ⟨tested, asks_iff.1 hholds, hbody⟩
  refine ⟨turns, hturns, hmost, fun later t earlier hsplit => ?_, ?_⟩
  · subst hsplit
    cases hturns.split with
    | turn before _ _ => exact before.nextPlace_eq_advances
  · have hrun : runLoop env p start ⟨id, .whileHolds condition most⟩ row body s =
        whileHolds holds (fun i => do report env (.loopIteration start i id); body row) limit 0 0 cap s := rfl
    rw [hrun]
    revert hheld
    cases whileHolds holds (fun i => do report env (.loopIteration start i id); body row) limit 0 0 cap s with
    | ok signal s' =>
      exact Or.imp_right fun ⟨hgo, hnext, hend⟩ =>
        ⟨hgo, hnext, hend.imp_right fun ⟨hfewer, hholds⟩ => ⟨hfewer, asks_iff.1 hholds⟩⟩
    | error e s' =>
      rintro ⟨hgo, hfewer, hfails⟩
      rw [← hcourse.nextPlace_eq_advances]
      exact ⟨hgo, hfewer, hfails.imp failsToAsk_iff.1 fun ⟨tested, hholds, hbody⟩ => ⟨tested, asks_iff.1 hholds, hbody⟩⟩

end Conditions

end FormReplay
