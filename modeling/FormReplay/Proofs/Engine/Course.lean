import FormReplay.Proofs.Engine.Loop
/-!
# The course of a loop

A loop executes its body turn by turn, each turn at a place: a position, or the number of iterations gone through.  A
turn that asks for a repeat is followed by one at the same place, as long as the place was repeated fewer times than
the limit says; after any other turn the loop goes on to the next place, is left by a break or a goto, or ends.
`Course` says so of the turns alone, whatever a turn does.  Both kinds of loop of the engine follow such a course from
its beginning to its end, or up to the turn that fails (`course_overPositions`, `course_whileHolds`).
-/
namespace FormReplay

variable {σ : Type}

/-- One execution of the body of a loop. -/
structure Turn (σ : Type) where
  place  : Nat
  /-- Where the one before ended. -/
  start  : Session σ
  signal : Signal
  ended  : Session σ

/-! Lists of turns have the newest first. -/

def turnsAt (place : Nat) (turns : List (Turn σ)) : Nat := turns.countP (·.place == place)

/-- A turn after the earlier ones asks for a repeat, and the place was repeated fewer times than the limit says. -/
def Turn.IsRepeated (limit : Nat) (t : Turn σ) (earlier : List (Turn σ)) : Prop :=
  t.signal = .repeatLoop ∧ turnsAt t.place earlier < limit

instance (limit : Nat) (t : Turn σ) (earlier : List (Turn σ)) : Decidable (t.IsRepeated limit earlier) :=
  inferInstanceAs (Decidable (_ ∧ _))

def nextPlace (limit : Nat) : List (Turn σ) → Nat
  | []           => 0
  | t :: earlier => if t.IsRepeated limit earlier then t.place else t.place + 1

def sessionAfter (s : Session σ) : List (Turn σ) → Session σ
  | []     => s
  | t :: _ => t.ended

/-- The last turn does not end the loop. -/
def GoesOn : List (Turn σ) → Prop
  | []     => True
  | t :: _ => t.signal.verdict = .advance

/-- The last turn ends the loop: with a break, which is consumed, or with a goto. -/
def LeftBy : List (Turn σ) → Signal → Prop
  | [], _          => False
  | t :: _, signal => t.signal = .breakLoop ∧ signal = .next ∨ ∃ target, t.signal = .goto target ∧ signal = .goto target

/-- The turns of a loop from a session on.  `Performs` says what a turn does, at a place that was repeated so many times
before. -/
inductive Course (Performs : (place repeats : Nat) → Session σ → Signal → Session σ → Prop) (limit : Nat) (s : Session σ) :
    List (Turn σ) → Prop
  | nil : Course Performs limit s []
  | turn {earlier : List (Turn σ)} {signal : Signal} {ended : Session σ} (before : Course Performs limit s earlier)
      (goesOn : GoesOn earlier)
      (performs : Performs (nextPlace limit earlier) (turnsAt (nextPlace limit earlier) earlier) (sessionAfter s earlier)
        signal ended) :
      Course Performs limit s (⟨nextPlace limit earlier, sessionAfter s earlier, signal, ended⟩ :: earlier)

theorem turnsAt_cons (place : Nat) (t : Turn σ) (earlier : List (Turn σ)) :
    turnsAt place (t :: earlier) = turnsAt place earlier + if t.place = place then 1 else 0 := by
  simp only [turnsAt, List.countP_cons, beq_iff_eq]

theorem nextPlace_cons (limit : Nat) (t : Turn σ) (earlier : List (Turn σ)) :
    nextPlace limit (t :: earlier) = if t.IsRepeated limit earlier then t.place else t.place + 1 := rfl

theorem Signal.verdict_eq_leave_iff {signal : Signal} : signal.verdict = .leave ↔ signal = .breakLoop := by
  cases signal <;> simp [verdict]

theorem Signal.verdict_eq_bubble_iff {signal : Signal} {target : Nat} :
    signal.verdict = .bubble target ↔ signal = .goto target := by
  cases signal <;> simp [verdict]

def advances (limit : Nat) : List (Turn σ) → Nat
  | []           => 0
  | t :: earlier => advances limit earlier + if t.IsRepeated limit earlier then 0 else 1

namespace Course

variable {Performs : (place repeats : Nat) → Session σ → Signal → Session σ → Prop} {limit : Nat} {s : Session σ}
  {turns : List (Turn σ)}

theorem split {later earlier : List (Turn σ)} {t : Turn σ} (h : Course Performs limit s (later ++ t :: earlier)) :
    Course Performs limit s (t :: earlier) := by
  induction later with
  | nil => exact h
  | cons u later ih => cases h with | turn before _ _ => exact ih before

/-- **The count of the turns at each place**: every place before the next was come to and none behind it, none more often
than the limit allows, and the next one may be come to again. -/
theorem turnsAt_bounds (h : Course Performs limit s turns) (place : Nat) :
    (place < nextPlace limit turns → 1 ≤ turnsAt place turns) ∧ turnsAt place turns ≤ limit + 1 ∧
    (nextPlace limit turns = place → turnsAt place turns ≤ limit) ∧
    (nextPlace limit turns < place → turnsAt place turns = 0) := by
  induction h with
  | nil => exact ⟨nofun, Nat.zero_le _, fun _ => Nat.zero_le _, fun _ => rfl⟩
  | @turn earlier signal ended before _ _ ih =>
    obtain ⟨hbefore, hmost, hnext, hbehind⟩ := ih
    rw [nextPlace_cons, turnsAt_cons]
    dsimp only
    split
    · rename_i hrepeated
      have hleft : turnsAt (nextPlace limit earlier) earlier < limit := hrepeated.2
      split
      · rename_i hplace
        subst hplace
        refine ⟨?_, ?_, ?_, ?_⟩ <;> omega
      · exact ⟨hbefore, by omega, fun hplace => absurd hplace ‹_›, hbehind⟩
    · split
      · rename_i hplace
        have := hnext hplace
        refine ⟨?_, ?_, ?_, ?_⟩ <;> omega
      · refine ⟨fun hlt => hbefore (by omega), by omega, fun hplace => ?_, fun hlt => hbehind (by omega)⟩
        rw [hbehind (by omega)]
        exact Nat.zero_le _

theorem place_le (h : Course Performs limit s turns) : ∀ t ∈ turns, t.place ≤ nextPlace limit turns := by
  refine fun t ht => Nat.le_of_not_lt fun hlt => ?_
  have hnone := (h.turnsAt_bounds t.place).2.2.2 hlt
  have hsome : 0 < turnsAt t.place turns := List.countP_pos_iff.2 ⟨t, ht, beq_self_eq_true _⟩
  omega

theorem turnsAt_next {t : Turn σ} {earlier : List (Turn σ)} (h : Course Performs limit s (t :: earlier))
    (hlast : ¬t.IsRepeated limit earlier) : turnsAt (nextPlace limit (t :: earlier)) (t :: earlier) = 0 := by
  have hplaces : ∀ u ∈ t :: earlier, u.place ≠ t.place + 1 := by
    cases h with
    | turn before _ _ =>
      refine List.forall_mem_cons.2 ⟨by dsimp only; omega, fun u hu => ?_⟩
      have := before.place_le u hu
      dsimp only
      omega
  rw [nextPlace_cons, if_neg hlast]
  exact List.countP_eq_zero.2 fun u hu hplace => hplaces u hu (eq_of_beq hplace)

theorem nondecreasing (h : Course Performs limit s turns) : turns.Pairwise fun newer older => older.place ≤ newer.place := by
  induction h with
  | nil => exact .nil
  | turn before _ _ ih => exact List.pairwise_cons.2 ⟨before.place_le, ih⟩

theorem nextPlace_eq_advances (h : Course Performs limit s turns) : nextPlace limit turns = advances limit turns := by
  induction h with
  | nil => rfl
  | turn _ _ _ ih =>
    rw [nextPlace_cons, advances, ← ih]
    split <;> rfl

theorem mono {Performs' : (place repeats : Nat) → Session σ → Signal → Session σ → Prop} (h : Course Performs limit s turns)
    (himp : ∀ t ∈ turns, ∀ repeats, Performs t.place repeats t.start t.signal t.ended →
      Performs' t.place repeats t.start t.signal t.ended) : Course Performs' limit s turns := by
  induction h with
  | nil => exact .nil
  | turn _ goesOn performs ih =>
    exact .turn (ih fun t ht => himp t (.tail _ ht)) goesOn (himp _ (.head _) _ performs)

end Course

/-! ## Positions -/

section Positions

variable {body : Nat → Bool → Engine σ Signal} {limit count : Nat} {s : Session σ}

def AtPosition (body : Nat → Bool → Engine σ Signal) (count place repeats : Nat) (s : Session σ) (signal : Signal)
    (s' : Session σ) : Prop :=
  place < count ∧ body place (repeats == 0) s = .ok signal s'

def FailsAt (body : Nat → Bool → Engine σ Signal) (limit : Nat) (s : Session σ) (turns : List (Turn σ)) (e : Halt)
    (s' : Session σ) : Prop :=
  GoesOn turns ∧ body (nextPlace limit turns) (turnsAt (nextPlace limit turns) turns == 0) (sessionAfter s turns) = .error e s'

/-- What the turns at one position come to: the verdict on the last of them, or the failure of one more. -/
def SettledBy (body : Nat → Bool → Engine σ Signal) (limit : Nat) (s : Session σ) (place : Nat) (turns : List (Turn σ)) :
    EStateM.Result Halt (Session σ) Verdict → Prop
  | .ok v s'    => ∃ t earlier, turns = t :: earlier ∧ t.place = place ∧ t.signal.verdict = v ∧ t.ended = s' ∧
      ¬t.IsRepeated limit earlier
  | .error e s' => nextPlace limit turns = place ∧ FailsAt body limit s turns e s'

/-- What the turns at all positions come to: the last one leaves the loop or is at the last position, or one more fails. -/
def PassedBy (body : Nat → Bool → Engine σ Signal) (limit : Nat) (s : Session σ) (count : Nat) (turns : List (Turn σ)) :
    EStateM.Result Halt (Session σ) Signal → Prop
  | .ok signal s' => s' = sessionAfter s turns ∧
      (LeftBy turns signal ∨ GoesOn turns ∧ nextPlace limit turns = count ∧ signal = .next)
  | .error e s'   => nextPlace limit turns < count ∧ FailsAt body limit s turns e s'

theorem settlePosition_eq (body : Bool → Engine σ Signal) (first : Bool) (left : Nat) (s : Session σ) :
    settlePosition body first left s = match body first s with
      | .ok signal s' =>
        if signal = .repeatLoop ∧ 0 < left then settlePosition body false (left - 1) s' else .ok signal.verdict s'
      | .error e s' => .error e s' := by
  cases left with
  | zero =>
    simp only [settlePosition, Engine.bind_apply, Nat.lt_irrefl, and_false, if_false]
    cases body first s <;> rfl
  | succ left =>
    rw [settlePosition, Engine.bind_apply]
    cases body first s with
    | error e s' => rfl
    | ok signal s' => cases signal <;> rfl

theorem overPositions_succ (position n : Nat) (s : Session σ) :
    overPositions body limit position (n + 1) s = match settlePosition (body position) true limit s with
      | .ok .advance s'         => overPositions body limit (position + 1) n s'
      | .ok .leave s'           => .ok .next s'
      | .ok (.bubble target) s' => .ok (.goto target) s'
      | .error e s'             => .error e s' := by
  rw [overPositions, Engine.bind_apply]
  cases settlePosition (body position) true limit s with
  | error e s' => rfl
  | ok v s' => cases v <;> rfl

theorem course_settlePosition {earlier : List (Turn σ)} (h : Course (AtPosition body count) limit s earlier)
    (hgo : GoesOn earlier) {left : Nat} (hleft : turnsAt (nextPlace limit earlier) earlier + left = limit)
    (hcount : nextPlace limit earlier < count) :
    ∃ turns, Course (AtPosition body count) limit s turns ∧ SettledBy body limit s (nextPlace limit earlier) turns
      (settlePosition (body (nextPlace limit earlier)) (turnsAt (nextPlace limit earlier) earlier == 0) left
        (sessionAfter s earlier)) := by
  generalize hplace : nextPlace limit earlier = place at hleft hcount ⊢
  -- A granted repeat uses up one of those left and adds a turn that stays at the place.
  induction left using Nat.strongRecOn generalizing earlier with
  | ind left ih =>
    rw [settlePosition_eq]
    cases hbody : body place (turnsAt place earlier == 0) (sessionAfter s earlier) with
    | error e s' => exact ⟨earlier, h, hplace, hgo, by rw [hplace]; exact hbody⟩
    | ok signal s' =>
      have hturn : Course (AtPosition body count) limit s (⟨place, sessionAfter s earlier, signal, s'⟩ :: earlier) := by
        have hperforms : AtPosition body count (nextPlace limit earlier) (turnsAt (nextPlace limit earlier) earlier)
            (sessionAfter s earlier) signal s' := by rw [hplace]; exact ⟨hcount, hbody⟩
        have hturn := h.turn hgo hperforms
        rwa [hplace] at hturn
      dsimp only
      split
      · rename_i hrepeat
        obtain ⟨rfl, hpos⟩ := hrepeat
        have hat := turnsAt_cons place ⟨place, sessionAfter s earlier, .repeatLoop, s'⟩ earlier
        rw [if_pos rfl] at hat
        have hnext : nextPlace limit (⟨place, sessionAfter s earlier, .repeatLoop, s'⟩ :: earlier) = place :=
          if_pos ⟨rfl, show turnsAt place earlier < limit by omega⟩
        have hagain := ih (left - 1) (by omega) hturn rfl hnext (by omega)
        rw [hat] at hagain
        exact hagain
      · rename_i hlast
        refine ⟨_, hturn, _, _, rfl, rfl, rfl, rfl, fun hrepeated => hlast ⟨hrepeated.1, ?_⟩⟩
        have hfewer : turnsAt place earlier < limit := hrepeated.2
        omega

/-- **The turns at all positions** from one on, after those before. -/
theorem course_overPositions_from {earlier : List (Turn σ)} (h : Course (AtPosition body count) limit s earlier)
    (hgo : GoesOn earlier) (hfresh : turnsAt (nextPlace limit earlier) earlier = 0) {n : Nat}
    (hcount : nextPlace limit earlier + n = count) :
    ∃ turns, Course (AtPosition body count) limit s turns ∧
      PassedBy body limit s count turns (overPositions body limit (nextPlace limit earlier) n (sessionAfter s earlier)) := by
  induction n generalizing earlier with
  | zero => exact ⟨earlier, h, rfl, .inr ⟨hgo, hcount, rfl⟩⟩
  | succ n ih =>
    -- Nothing was at the position yet, so all its repeats are left.
    have hleft : turnsAt (nextPlace limit earlier) earlier + limit = limit := by rw [hfresh, Nat.zero_add]
    obtain ⟨turns, hturns, hsettled⟩ := course_settlePosition h hgo hleft (by omega)
    rw [hfresh, beq_self_eq_true] at hsettled
    rw [overPositions_succ]
    cases hresult : settlePosition (body (nextPlace limit earlier)) true limit (sessionAfter s earlier) with
    | error e s' =>
      rw [hresult] at hsettled
      exact ⟨turns, hturns, by have := hsettled.1; omega, hsettled.2⟩
    | ok v s' =>
      rw [hresult] at hsettled
      obtain ⟨t, before, rfl, hplace, hverdict, rfl, hlast⟩ := hsettled
      have hnext : nextPlace limit (t :: before) = nextPlace limit earlier + 1 := by
        rw [nextPlace_cons, if_neg hlast, hplace]
      cases v with
      | advance =>
        have hrest := ih hturns hverdict (hturns.turnsAt_next hlast) (by omega)
        rwa [hnext] at hrest
      | leave =>
        refine ⟨_, hturns, rfl, .inl (.inl ⟨Signal.verdict_eq_leave_iff.1 hverdict, rfl⟩)⟩
      | bubble target =>
        exact ⟨_, hturns, rfl, .inl (.inr ⟨target, Signal.verdict_eq_bubble_iff.1 hverdict, rfl⟩)⟩

/-- **A loop over positions follows a course.** -/
theorem course_overPositions (body : Nat → Bool → Engine σ Signal) (limit count : Nat) (s : Session σ) :
    ∃ turns, Course (AtPosition body count) limit s turns ∧
      PassedBy body limit s count turns (overPositions body limit 0 count s) :=
  course_overPositions_from (s := s) .nil trivial rfl (Nat.zero_add count)

end Positions

/-! ## While a condition holds -/

section Conditions

variable {holds : Engine σ Bool} {body : Nat → Engine σ Signal} {limit most : Nat} {s : Session σ}

def OnceTested (holds : Engine σ Bool) (body : Nat → Engine σ Signal) (place : Nat) (_repeats : Nat) (s : Session σ)
    (signal : Signal) (s' : Session σ) : Prop :=
  ∃ tested, holds s = .ok true tested ∧ body place tested = .ok signal s'

/-- What the turns of a loop with a condition come to: the last one leaves the loop or is the last that is allowed, or the
condition does not hold then, or one more fails. -/
def HeldBy (holds : Engine σ Bool) (body : Nat → Engine σ Signal) (limit most : Nat) (s : Session σ) (turns : List (Turn σ)) :
    EStateM.Result Halt (Session σ) Signal → Prop
  | .ok signal s' =>
    LeftBy turns signal ∧ s' = sessionAfter s turns ∨
    GoesOn turns ∧ signal = .next ∧ (turns.length = most ∧ s' = sessionAfter s turns ∨
      turns.length < most ∧ holds (sessionAfter s turns) = .ok false s')
  | .error e s' => GoesOn turns ∧ turns.length < most ∧ (holds (sessionAfter s turns) = .error e s' ∨
      ∃ tested, holds (sessionAfter s turns) = .ok true tested ∧ body (nextPlace limit turns) tested = .error e s')

theorem whileHolds_succ (iteration repeats n : Nat) (s : Session σ) :
    whileHolds holds body limit iteration repeats (n + 1) s = match holds s with
      | .error e s' => .error e s'
      | .ok false s' => .ok .next s'
      | .ok true tested => match body iteration tested with
        | .error e s' => .error e s'
        | .ok signal s' => match signal.verdict with
          | .leave         => .ok .next s'
          | .bubble target => .ok (.goto target) s'
          | .advance       =>
            if signal = .repeatLoop ∧ repeats < limit then whileHolds holds body limit iteration (repeats + 1) n s'
            else whileHolds holds body limit (iteration + 1) 0 n s' := by
  rw [whileHolds, Engine.bind_apply]
  cases holds s with
  | error e s' => rfl
  | ok go tested =>
    cases go with
    | false => rfl
    | true =>
      simp only [Bool.not_true, Bool.false_eq_true, if_false, Engine.bind_apply]
      cases body iteration tested with
      | error e s' => rfl
      | ok signal s' =>
        cases signal with
        | repeatLoop =>
          simp only [Signal.verdict, true_and]
          split <;> rfl
        | _ => rfl

theorem course_whileHolds_from {earlier : List (Turn σ)} (h : Course (OnceTested holds body) limit s earlier)
    (hgo : GoesOn earlier) {n : Nat} (hmost : earlier.length + n = most) :
    ∃ turns, Course (OnceTested holds body) limit s turns ∧ turns.length ≤ most ∧
      HeldBy holds body limit most s turns (whileHolds holds body limit (nextPlace limit earlier)
        (turnsAt (nextPlace limit earlier) earlier) n (sessionAfter s earlier)) := by
  induction n generalizing earlier with
  | zero => exact ⟨earlier, h, by omega, .inr ⟨hgo, rfl, .inl ⟨hmost, rfl⟩⟩⟩
  | succ n ih =>
    rw [whileHolds_succ]
    cases hholds : holds (sessionAfter s earlier) with
    | error e s' => exact ⟨earlier, h, by omega, hgo, by omega, .inl hholds⟩
    | ok go tested =>
      cases go with
      | false => exact ⟨earlier, h, by omega, .inr ⟨hgo, rfl, .inr ⟨by omega, hholds⟩⟩⟩
      | true =>
        dsimp only
        cases hbody : body (nextPlace limit earlier) tested with
        | error e s' => exact ⟨earlier, h, by omega, hgo, by omega, .inr ⟨tested, hholds, hbody⟩⟩
        | ok signal s' =>
          have hturn := h.turn hgo ⟨tested, hholds, hbody⟩
          dsimp only
          cases hverdict : signal.verdict with
          | leave =>
            refine ⟨_, hturn, ?_, .inl ⟨.inl ⟨Signal.verdict_eq_leave_iff.1 hverdict, rfl⟩, rfl⟩⟩
            rw [List.length_cons]
            omega
          | bubble target =>
            refine ⟨_, hturn, ?_, .inl ⟨.inr ⟨target, Signal.verdict_eq_bubble_iff.1 hverdict, rfl⟩, rfl⟩⟩
            rw [List.length_cons]
            omega
          | advance =>
            have hrest := ih hturn hverdict (by rw [List.length_cons]; omega)
            dsimp only
            split
            · rename_i hrepeated
              have hrepeated : Turn.IsRepeated limit ⟨nextPlace limit earlier, sessionAfter s earlier, signal, s'⟩ earlier :=
                hrepeated
              rwa [nextPlace_cons, if_pos hrepeated, turnsAt_cons, if_pos rfl] at hrest
            · rename_i hlast
              have hlast : ¬Turn.IsRepeated limit ⟨nextPlace limit earlier, sessionAfter s earlier, signal, s'⟩ earlier :=
                hlast
              rwa [hturn.turnsAt_next hlast, nextPlace_cons, if_neg hlast] at hrest

/-- **A loop with a condition follows a course.** -/
theorem course_whileHolds (holds : Engine σ Bool) (body : Nat → Engine σ Signal) (limit most : Nat) (s : Session σ) :
    ∃ turns, Course (OnceTested holds body) limit s turns ∧ turns.length ≤ most ∧
      HeldBy holds body limit most s turns (whileHolds holds body limit 0 0 most s) :=
  course_whileHolds_from .nil trivial (Nat.zero_add most)

end Conditions

end FormReplay
