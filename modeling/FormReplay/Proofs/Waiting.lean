import FormReplay.Proofs.Engine.Alike
import FormReplay.Proofs.Termination
import Mathlib.Logic.Function.Iterate
/-!
# Waits for elements

A wait looks at its element, and again after each poll interval, until the element is as wanted or a look at or after
the deadline has not found it so.  With nothing to disturb it, its looks are the iterates of one round
(`pollElement_atLook`), so they stand at multiples of the interval, and the last of them is the first that is not before
the deadline (`waits_until_deadline`).
-/
namespace FormReplay

variable {σ : Type} {env : Env σ} {w : WaitSpec}

/-! ## Looks -/

/-- The session at the look that follows one: the element was asked for, and the poll interval has passed. -/
def Session.nextLook (env : Env σ) (target : String) (s : Session σ) : Session σ :=
  (s.answered env (.inspect target)).rested env .waitPoll env.config.waitPoll

/-- The session at a look of a wait that none before has ended.  The first look has number zero. -/
def Session.atLook (env : Env σ) (target : String) (n : Nat) (s : Session σ) : Session σ := (nextLook env target)^[n] s

/-- Nothing stops, pauses or holds the run, and the element is found in this state. -/
def Session.Sees (env : Env σ) (target : String) (state : ElementState) (s : Session σ) : Prop :=
  s.Clear ∧ (env.host.answer (.inspect target) s.world.host).answer = .ok state

/-- The number of the last look: as many poll intervals as the timeout has, the last of which may be cut. -/
def WaitSpec.lastLook (c : Config) (w : WaitSpec) : Nat := (w.limit c + c.waitPoll - 1) / c.waitPoll

section LastLook

variable {c : Config} (hpoll : 1 ≤ c.waitPoll)
include hpoll

theorem WaitSpec.limit_le_lastLook (w : WaitSpec) : w.limit c ≤ w.lastLook c * c.waitPoll := by
  have hrest : (w.limit c + c.waitPoll - 1) % c.waitPoll < c.waitPoll := Nat.mod_lt _ hpoll
  have hsum : w.lastLook c * c.waitPoll + (w.limit c + c.waitPoll - 1) % c.waitPoll = w.limit c + c.waitPoll - 1 :=
    Nat.div_add_mod' _ _
  omega

theorem WaitSpec.lt_limit_of_lt_lastLook {i : Nat} (hi : i < w.lastLook c) : i * c.waitPoll < w.limit c := by
  have hsum : w.lastLook c * c.waitPoll ≤ w.limit c + c.waitPoll - 1 := Nat.div_mul_le_self _ _
  have hnext : (i + 1) * c.waitPoll ≤ w.lastLook c * c.waitPoll := Nat.mul_le_mul_right _ hi
  rw [Nat.succ_mul] at hnext
  omega

end LastLook

/-! ## What looks leave in the trace -/

def Entry.inspection? (e : Entry) : Option (Nat × String) :=
  match e.moment with
  | .asked (.inspect target) _ => some (e.time, target)
  | _                          => none

def Session.inspections (s : Session σ) : List (Nat × String) := s.trace.filterMap Entry.inspection?

def inspectionsEvery (start interval : Nat) (target : String) (n : Nat) : List (Nat × String) :=
  ((List.range n).map fun i => (start + i * interval, target)).reverse

theorem inspectionsEvery_succ (start interval : Nat) (target : String) (n : Nat) :
    inspectionsEvery start interval target (n + 1) =
      (start + n * interval, target) :: inspectionsEvery start interval target n := by
  simp [inspectionsEvery, List.range_succ]

theorem Session.accept_inspections {α : Type} (s : Session σ) (r : Reply σ α) :
    (s.accept r).inspections = s.inspections := by
  obtain ⟨acts, htrace, honly⟩ := s.accept_trace r
  rw [inspections, htrace]
  refine honly.append_eq (f := List.filterMap Entry.inspection?) (fun e past act hact => ?_) s.trace
  exact List.filterMap_cons_none (by rw [Entry.inspection?, hact])

theorem inspections_answered (target : String) (s : Session σ) :
    (s.answered env (.inspect target)).inspections = (s.world.clock, target) :: s.inspections :=
  Session.accept_inspections _ _

theorem inspections_rested (reason : SleepReason) (ms : Nat) (s : Session σ) :
    (s.rested env reason ms).inspections = s.inspections :=
  Session.accept_inspections _ _

theorem clock_answered (target : String) (s : Session σ) :
    (s.answered env (.inspect target)).world.clock = s.world.clock :=
  Session.accept_clock _ _

theorem atLook_succ (target : String) (n : Nat) (s : Session σ) :
    s.atLook env target (n + 1) = (s.atLook env target n).nextLook env target :=
  Function.iterate_succ_apply' _ _ _

theorem clock_atLook (target : String) (n : Nat) (s : Session σ) :
    (s.atLook env target n).world.clock = s.world.clock + n * env.config.waitPoll := by
  induction n with
  | zero => rw [Nat.zero_mul]; rfl
  | succ n ih =>
    have hrested : ((s.atLook env target n).nextLook env target).world.clock =
        ((s.atLook env target n).answered env (.inspect target)).world.clock + env.config.waitPoll :=
      Session.accept_clock _ _
    rw [atLook_succ, hrested, clock_answered, ih, Nat.succ_mul, Nat.add_assoc]

theorem inspections_atLook (target : String) (n : Nat) (s : Session σ) : (s.atLook env target n).inspections =
    inspectionsEvery s.world.clock env.config.waitPoll target n ++ s.inspections := by
  induction n with
  | zero => rfl
  | succ n ih =>
    rw [atLook_succ, Session.nextLook, inspections_rested, inspections_answered, clock_atLook, ih, inspectionsEvery_succ,
      List.cons_append]

theorem inspections_ended (target : String) (n : Nat) (s : Session σ) :
    ((s.atLook env target n).answered env (.inspect target)).inspections =
      inspectionsEvery s.world.clock env.config.waitPoll target (n + 1) ++ s.inspections := by
  rw [inspections_answered, clock_atLook, inspections_atLook, inspectionsEvery_succ, List.cons_append]

theorem clock_ended (target : String) (n : Nat) (s : Session σ) :
    ((s.atLook env target n).answered env (.inspect target)).world.clock = s.world.clock + n * env.config.waitPoll := by
  rw [clock_answered, clock_atLook]

/-! ## Rounds -/

section Rounds

variable (hfuel : 0 < env.fuel) {s : Session σ} {timeout deadline : Nat}
include hfuel

/-- **One round of a wait**: the look ends it, or the poll interval passes and there is another. -/
theorem pollElement_succ {state : ElementState} (hsees : s.Sees env w.target state) (k : Nat) :
    pollElement env w timeout deadline (k + 1) s =
      if state.satisfies w.state then .ok () (s.answered env (.inspect w.target))
      else if deadline ≤ s.world.clock then
        .error (.error (.step (.timedOut timeout w.target w.state))) (s.answered env (.inspect w.target))
      else pollElement env w timeout deadline k (s.nextLook env w.target) := by
  obtain ⟨hclear, hanswer⟩ := hsees
  have hask : ask env (.inspect w.target) s = .ok state (s.answered env (.inspect w.target)) := by
    show ofExcept (env.host.answer (.inspect w.target) s.world.host).answer (s.answered env (.inspect w.target)) = _
    rw [hanswer]
    rfl
  rw [pollElement, Engine.bind_apply, checkpoint_eq hclear hfuel]
  dsimp only
  rw [Engine.bind_apply, hask]
  dsimp only
  have hclock : (s.answered env (.inspect w.target)).world.clock = s.world.clock := clock_answered w.target s
  by_cases hwanted : state.satisfies w.state = true
  · rw [if_pos hwanted, if_pos hwanted]
    rfl
  · rw [if_neg hwanted, if_neg hwanted, ← hclock, Engine.bind_apply, Engine.get_apply]
    dsimp only
    by_cases hlate : deadline ≤ (s.answered env (.inspect w.target)).world.clock
    · rw [if_pos hlate, if_pos hlate]
      rfl
    · rw [if_neg hlate, if_neg hlate]
      rfl

/-- **A wait comes to a look** if none before finds the element as wanted, and all of them are before the deadline. -/
theorem pollElement_atLook {n : Nat} (hsees : ∀ i < n, ∃ state, (s.atLook env w.target i).Sees env w.target state ∧
      state.satisfies w.state = false) (hearly : ∀ i < n, (s.atLook env w.target i).world.clock < deadline) (k : Nat) :
    pollElement env w timeout deadline (k + n) s = pollElement env w timeout deadline k (s.atLook env w.target n) := by
  induction n generalizing k with
  | zero => rfl
  | succ n ih =>
    obtain ⟨state, hlook, hother⟩ := hsees n (Nat.lt_succ_self n)
    have hbefore := ih (fun i hi => hsees i (Nat.lt_succ_of_lt hi)) (fun i hi => hearly i (Nat.lt_succ_of_lt hi)) (k + 1)
    rw [Nat.add_right_comm] at hbefore
    rw [← Nat.add_assoc, hbefore, pollElement_succ hfuel hlook, hother, if_neg Bool.false_ne_true,
      if_neg (Nat.not_le.2 (hearly n (Nat.lt_succ_self n))), atLook_succ]

end Rounds

/-- **A wait polls to its deadline.**  Let nothing stop or pause the run at a look or keep it from finding the state that
the element has at the instant.  Then the looks stand at the poll interval from the start on, and as many as the timeout
has intervals follow the first.  The wait ends with the first look that finds the element as wanted.  If none does, it
fails with the last of them, which is not before the deadline, and may be tried again. -/
theorem waits_until_deadline (hpoll : 1 ≤ env.config.waitPoll) (hfuel : w.lastLook env.config < env.fuel) (s : Session σ)
    (evolution : Nat → ElementState)
    (hsees : ∀ i ≤ w.lastLook env.config,
      (∀ j < i, (evolution (s.world.clock + j * env.config.waitPoll)).satisfies w.state = false) →
      (s.atLook env w.target i).Sees env w.target (evolution (s.world.clock + i * env.config.waitPoll))) :
    let start := s.world.clock
    let poll := env.config.waitPoll
    let wanted := fun i => (evolution (start + i * poll)).satisfies w.state
    (∀ i ≤ w.lastLook env.config, wanted i = true → (∀ j < i, wanted j = false) →
      ∃ s', waitFor env w s = .ok () s' ∧ s'.world.clock = start + i * poll ∧
        s'.inspections = inspectionsEvery start poll w.target (i + 1) ++ s.inspections) ∧
    ((∀ i ≤ w.lastLook env.config, wanted i = false) →
      ∃ e s', waitFor env w s = .error (.error e) s' ∧ e = .step (.timedOut (w.limit env.config) w.target w.state) ∧
        e.isRetryable = true ∧ s'.world.clock = start + w.lastLook env.config * poll ∧
        start + w.limit env.config ≤ s'.world.clock ∧
        s'.inspections = inspectionsEvery start poll w.target (w.lastLook env.config + 1) ++ s.inspections) := by
  intro start poll wanted
  have hsome : 0 < env.fuel := Nat.zero_lt_of_lt hfuel
  -- The wait comes to each look before which the element is never as wanted.
  have hcomes : ∀ i ≤ w.lastLook env.config, (∀ j < i, wanted j = false) →
      waitFor env w s = pollElement env w (w.limit env.config) (start + w.limit env.config) (env.fuel - i - 1 + 1)
        (s.atLook env w.target i) := by
    intro i hi hothers
    have hlooks : ∀ j < i, ∃ state, (s.atLook env w.target j).Sees env w.target state ∧ state.satisfies w.state = false :=
      fun j hj => ⟨_, hsees j (by omega) fun k hk => hothers k (by omega), hothers j hj⟩
    have hearly : ∀ j < i, (s.atLook env w.target j).world.clock < start + w.limit env.config := fun j hj => by
      rw [clock_atLook]
      exact Nat.add_lt_add_left (WaitSpec.lt_limit_of_lt_lastLook hpoll (by omega)) _
    rw [← pollElement_atLook hsome hlooks hearly, show env.fuel - i - 1 + 1 + i = env.fuel by omega]
    rfl
  refine ⟨fun i hi hwanted hothers => ?_, fun hnever => ?_⟩
  · refine ⟨_, ?_, clock_ended w.target i s, inspections_ended w.target i s⟩
    rw [hcomes i hi hothers, pollElement_succ hsome (hsees i hi hothers), if_pos hwanted]
  · have hothers : ∀ j < w.lastLook env.config, wanted j = false := fun j hj => hnever j (Nat.le_of_lt hj)
    have hlast := hnever _ (Nat.le_refl _)
    have hlate : start + w.limit env.config ≤ start + w.lastLook env.config * poll :=
      Nat.add_le_add_left (w.limit_le_lastLook hpoll) _
    refine ⟨_, _, ?_, rfl, rfl, clock_ended w.target _ s, ?_, inspections_ended w.target _ s⟩
    · rw [hcomes _ (Nat.le_refl _) hothers, pollElement_succ hsome (hsees _ (Nat.le_refl _) hothers),
        if_neg (Bool.eq_false_iff.1 hlast), if_pos (by rw [clock_atLook]; exact hlate)]
    · rw [clock_ended]
      exact hlate

/-- A surface on which every element appears at one instant.  It remembers the instant at which its clock stands. -/
def appearingAt (instant : Nat) : Host Nat where
  answer q now :=
    match q with
    | .inspect _ => ⟨.ok (if instant ≤ now then .shown "" else .missing), now, []⟩
    | q          => ⟨(Host.inert.answer q ()).answer, now, []⟩
  observe _ now := ⟨(), now, []⟩
  elapse _ after _ := ⟨(), after, []⟩
  hasClipboard := false

/-- A wait of 250 milliseconds looks for the fourth time after 300, so an element that appears after 260 is found. -/
theorem found_after_deadline :
    let env : Env Nat := ⟨appearingAt 260, {}, {}, 4, ⟨0, 0⟩⟩
    let w : WaitSpec := ⟨"save", .visible, some 250⟩
    let s : Session Nat := { world := { host := 0 } }
    (w.lastLook env.config = 3 ∧ 1 ≤ env.config.waitPoll) ∧
      ∃ s', waitFor env w s = .ok () s' ∧ s'.world.clock = 300 ∧
        s'.inspections = [(300, "save"), (200, "save"), (100, "save"), (0, "save")] := by
  intro env w s
  let evolution : Nat → ElementState := fun now => if 260 ≤ now then .shown "" else .missing
  have hlast : w.lastLook env.config = 3 := by decide
  have hsees : ∀ i ≤ w.lastLook env.config,
      (∀ j < i, (evolution (s.world.clock + j * env.config.waitPoll)).satisfies w.state = false) →
      (s.atLook env w.target i).Sees env w.target (evolution (s.world.clock + i * env.config.waitPoll)) := by
    intro i hi _
    obtain rfl | rfl | rfl | rfl : i = 0 ∨ i = 1 ∨ i = 2 ∨ i = 3 := by omega
    all_goals exact ⟨rfl, rfl⟩
  have hothers : ∀ j < 3, (evolution (s.world.clock + j * env.config.waitPoll)).satisfies w.state = false := by decide
  obtain ⟨s', hfound, hclock, hlooks⟩ :=
    (waits_until_deadline (by decide) (by decide) s evolution hsees).1 3 (by decide) rfl hothers
  exact ⟨⟨hlast, by decide⟩, s', hfound, hclock, hlooks⟩

end FormReplay
