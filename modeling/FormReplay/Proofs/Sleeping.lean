import FormReplay.Proofs.Engine.Trace
import Mathlib.Order.Bounds.Basic
/-!
# Sleeps that a stop ends

A sleep is cut into naps, so that a stop is seen at the end of the nap in which it is requested and not only at the end
of the sleep.  It looks at the stop flag first, and then naps for the poll interval or for what is left, whichever is
less, as long as anything is left (`sleepFor_eq`).  Every nap takes time, so the sleep ends when it is due, or at the
first of its wake-ups that is not before the request (`sleeps_until_stopped`).
-/
namespace FormReplay

variable {σ α : Type} {env : Env σ}

theorem Session.stopped_accept (s : Session σ) (r : Reply σ α) :
    (s.accept r).world.control.stopped = true ↔ s.world.control.stopped = true ∨ .stop ∈ r.acts := by
  obtain ⟨answer, host, acts⟩ := r
  suffices h : ∀ (acts : List HostAct) (s : Session σ), (acts.foldl obey s).world.control.stopped = true ↔
      s.world.control.stopped = true ∨ .stop ∈ acts from
    h acts { s with world.host := host }
  intro acts
  induction acts with
  | nil => exact fun s => (or_iff_left List.not_mem_nil).symm
  | cons act acts ih =>
    intro s
    rw [List.foldl_cons, ih, List.mem_cons, ← or_assoc]
    refine or_congr_left ?_
    cases act with
    | stop => exact ⟨fun _ => .inr rfl, fun _ => rfl⟩
    | _    => exact (or_iff_left nofun).symm

/-! ## One nap after another -/

/-- **A sleep looks at the stop flag, naps and goes on with what is left**, until nothing is. -/
theorem sleepFor_eq (env : Env σ) (reason : SleepReason) (ms poll : Nat) :
    sleepFor env reason ms poll = (do
      checkStop
      if ms ≠ 0 then
        pass env reason (min ms (max poll 1))
        sleepFor env reason (ms - min ms (max poll 1)) poll) := by
  unfold sleepFor
  dsimp only
  have hnap : 0 < max poll 1 := Nat.lt_of_lt_of_le Nat.one_pos (Nat.le_max_right poll 1)
  generalize max poll 1 = nap at hnap ⊢
  by_cases hfull : nap ≤ ms
  · obtain ⟨left, rfl⟩ : ∃ left, ms = left + nap := ⟨ms - nap, by omega⟩
    rw [if_pos (by omega : left + nap ≠ 0), Nat.min_eq_right hfull, Nat.add_sub_cancel, Nat.add_mod_right,
      Nat.add_div_right _ hnap]
    rfl
  · -- The last nap is shorter, and nothing is left after it.
    rw [Nat.min_eq_left (by omega), Nat.sub_self, Nat.mod_eq_of_lt (by omega), Nat.div_eq_of_lt (by omega), Nat.zero_mod,
      Nat.zero_div]
    simp only [sleepNaps, ne_eq, not_true_eq_false, if_false, bind_pure_unit]

theorem sleepFor_of_stopped {s : Session σ} (hstopped : s.world.control.stopped = true) (reason : SleepReason)
    (ms poll : Nat) : sleepFor env reason ms poll s = .error (.error .stopped) s := by
  have hstop : checkStop s = .error (.error .stopped) s := by
    show (if s.world.control.stopped then fail .stopped else pure () : Engine σ Unit) s = _
    rw [hstopped]
    rfl
  rw [sleepFor_eq, Engine.bind_apply, hstop]

theorem sleepFor_of_not_stopped {s : Session σ} (hgo : s.world.control.stopped = false) (reason : SleepReason)
    (ms poll : Nat) : sleepFor env reason ms poll s =
      if ms = 0 then .ok () s
      else sleepFor env reason (ms - min ms (max poll 1)) poll (s.rested env reason (min ms (max poll 1))) := by
  have hstop : checkStop s = .ok () s := by
    show (if s.world.control.stopped then fail .stopped else pure () : Engine σ Unit) s = _
    rw [hgo]
    rfl
  rw [sleepFor_eq, Engine.bind_apply, hstop]
  dsimp only
  by_cases hzero : ms = 0
  · rw [if_neg (not_not_intro hzero), if_pos hzero]
    rfl
  · rw [if_pos hzero, if_neg hzero]
    rfl

/-! ## Schedules of stops -/

/-- While time passes the host stops the run at the instants that it requests, and at no others.  The instants may hang
on its state, but those ahead stay as they are while it waits for them. -/
structure Host.StopsAt (h : Host σ) (requests : σ → Nat → Prop) : Prop where
  acts (before after : Nat) (s : σ) : .stop ∈ (h.elapse before after s).acts ↔ ∃ r, before < r ∧ r ≤ after ∧ requests s r
  ahead (before after : Nat) (s : σ) (r : Nat) : after < r → (requests (h.elapse before after s).host r ↔ requests s r)

/-- The instants at which a sleep wakes up: every nap after its start, and when it is due. -/
def WakesAt (start ms nap t : Nat) : Prop := (∃ j, t = start + j * nap) ∨ t = start + ms

theorem WakesAt.nap_le {start ms nap t : Nat} (h : WakesAt start ms nap t) (ht : start < t) : start + min ms nap ≤ t := by
  obtain ⟨j, rfl⟩ | rfl := h
  · have hj : 0 < j := Nat.pos_of_ne_zero fun hzero => by
      rw [hzero, Nat.zero_mul] at ht
      omega
    have hmul := Nat.le_mul_of_pos_left nap hj
    omega
  · omega

theorem wakesAt_later {start ms nap t : Nat} (hfull : nap ≤ ms) (ht : start < t) :
    WakesAt (start + nap) (ms - nap) nap t ↔ WakesAt start ms nap t := by
  refine or_congr ⟨?_, ?_⟩ (by omega)
  · rintro ⟨j, rfl⟩
    exact ⟨j + 1, by rw [Nat.succ_mul]; omega⟩
  · rintro ⟨j, rfl⟩
    obtain ⟨j, rfl⟩ : ∃ k, j = k + 1 := Nat.exists_eq_succ_of_ne_zero fun hzero => by
      rw [hzero, Nat.zero_mul] at ht
      omega
    exact ⟨j, by rw [Nat.succ_mul]; omega⟩

section Schedule

variable {requests : σ → Nat → Prop} (hstops : env.host.StopsAt requests) {s : Session σ}
include hstops

theorem stopped_rested (reason : SleepReason) (ms : Nat) : (s.rested env reason ms).world.control.stopped = true ↔
    s.world.control.stopped = true ∨
      ∃ r, s.world.clock < r ∧ r ≤ s.world.clock + ms ∧ requests s.world.host r := by
  unfold Session.rested
  rw [Session.stopped_accept, hstops.acts]
  rfl

theorem still_rested (reason : SleepReason) {ms : Nat} (hgo : s.world.control.stopped = false)
    (hnone : ∀ r, s.world.clock < r → r ≤ s.world.clock + ms → ¬requests s.world.host r) :
    (s.rested env reason ms).world.control.stopped = false := by
  refine Bool.eq_false_iff.2 fun hstopped => ?_
  obtain hbefore | ⟨r, hlater, hsoon, hrequest⟩ := (stopped_rested hstops reason ms).1 hstopped
  · rw [hgo] at hbefore
    cases hbefore
  · exact hnone r hlater hsoon hrequest

theorem requests_rested (reason : SleepReason) {ms r : Nat} (hr : s.world.clock + ms < r) :
    requests (s.rested env reason ms).world.host r ↔ requests s.world.host r := by
  unfold Session.rested
  rw [Session.accept_host]
  exact hstops.ahead _ _ _ r hr

theorem sleepFor_undisturbed (reason : SleepReason) (ms poll : Nat) (hgo : s.world.control.stopped = false)
    (hnone : ∀ r, s.world.clock < r → r ≤ s.world.clock + ms → ¬requests s.world.host r) :
    ∃ s', sleepFor env reason ms poll s = .ok () s' ∧ s'.world.clock = s.world.clock + ms := by
  induction ms using Nat.strongRecOn generalizing s with
  | ind ms ih =>
    rw [sleepFor_of_not_stopped hgo]
    split
    · rename_i hzero
      exact ⟨s, rfl, by rw [hzero]; rfl⟩
    generalize hnap : min ms (max poll 1) = nap
    have hbounds : 0 < nap ∧ nap ≤ ms := by omega
    have hclock : (s.rested env reason nap).world.clock = s.world.clock + nap := Session.accept_clock _ _
    have hstill : (s.rested env reason nap).world.control.stopped = false :=
      still_rested hstops reason hgo fun r hlater hsoon => hnone r hlater (by omega)
    obtain ⟨s', hslept, hend⟩ := ih (ms - nap) (by omega) hstill fun r hlater hsoon hrequest =>
      hnone r (by omega) (by omega) ((requests_rested hstops reason (by omega)).1 hrequest)
    exact ⟨s', hslept, by omega⟩

theorem sleepFor_stopped (reason : SleepReason) (ms poll : Nat) (hgo : s.world.control.stopped = false) {r : Nat}
    (hfirst : IsLeast {r | s.world.clock < r ∧ requests s.world.host r} r) (hdue : r ≤ s.world.clock + ms) :
    ∃ s', sleepFor env reason ms poll s = .error (.error .stopped) s' ∧
      IsLeast {t | r ≤ t ∧ WakesAt s.world.clock ms (max poll 1) t} s'.world.clock := by
  induction ms using Nat.strongRecOn generalizing s with
  | ind ms ih =>
    obtain ⟨⟨hlater, hrequest⟩, hleast⟩ := hfirst
    rw [sleepFor_of_not_stopped hgo, if_neg (by omega : ms ≠ 0)]
    generalize hnap : min ms (max poll 1) = nap
    have hclock : (s.rested env reason nap).world.clock = s.world.clock + nap := Session.accept_clock _ _
    by_cases hsoon : r ≤ s.world.clock + nap
    · -- The stop is requested within this nap, so it is seen at its end.
      have hstopped := (stopped_rested hstops reason nap).2 (.inr ⟨r, hlater, hsoon, hrequest⟩)
      refine ⟨_, sleepFor_of_stopped hstopped reason _ _, ⟨hclock ▸ hsoon, hclock ▸ ?_⟩, fun t ht => ?_⟩
      · obtain hfull | hshort := Nat.le_total (max poll 1) ms
        · exact .inl ⟨1, by omega⟩
        · exact .inr (by omega)
      · have hle := ht.2.nap_le (Nat.lt_of_lt_of_le hlater ht.1)
        omega
    · obtain ⟨rfl, hfull⟩ : nap = max poll 1 ∧ max poll 1 ≤ ms := by omega
      have hstill : (s.rested env reason (max poll 1)).world.control.stopped = false := by
        refine still_rested hstops reason hgo fun r' hlater' hsoon' hrequest' => ?_
        have hle := hleast ⟨hlater', hrequest'⟩
        omega
      have hahead : IsLeast {r | (s.rested env reason (max poll 1)).world.clock < r ∧
          requests (s.rested env reason (max poll 1)).world.host r} r := by
        refine ⟨⟨by omega, (requests_rested hstops reason (by omega)).2 hrequest⟩, fun r' hr' => ?_⟩
        obtain ⟨hlater', hrequest'⟩ := hr'
        exact hleast ⟨by omega, (requests_rested hstops reason (by omega)).1 hrequest'⟩
      obtain ⟨s', hslept, hend⟩ := ih (ms - max poll 1) (by omega) hstill hahead (by omega)
      have hsame : {t | r ≤ t ∧ WakesAt (s.world.clock + max poll 1) (ms - max poll 1) (max poll 1) t} =
          {t | r ≤ t ∧ WakesAt s.world.clock ms (max poll 1) t} :=
        Set.ext fun t => and_congr_right fun hrt => wakesAt_later hfull (Nat.lt_of_lt_of_le hlater hrt)
      rw [hclock, hsame] at hend
      exact ⟨s', hslept, hend⟩

end Schedule

/-- **A sleep is exact, and a stop ends it.**  It fails at once where a stop is in force, and it is over when it is due if
none is requested until then.  If one is, it fails at the first instant not before the first request among its naps and
the end.  Whether the run is paused, and what the host pauses and resumes meanwhile, makes no difference. -/
theorem sleeps_until_stopped {requests : σ → Nat → Prop} (hstops : env.host.StopsAt requests) (reason : SleepReason)
    (ms poll : Nat) (s : Session σ) :
    let start := s.world.clock
    let requested := requests s.world.host
    (s.world.control.stopped = true → sleepFor env reason ms poll s = .error (.error .stopped) s) ∧
      (s.world.control.stopped = false → (∀ r, start < r → r ≤ start + ms → ¬requested r) →
        ∃ s', sleepFor env reason ms poll s = .ok () s' ∧ s'.world.clock = start + ms) ∧
      ∀ r, s.world.control.stopped = false → IsLeast {r | start < r ∧ requested r} r → r ≤ start + ms →
        ∃ s', sleepFor env reason ms poll s = .error (.error .stopped) s' ∧
          IsLeast {t | r ≤ t ∧ WakesAt start ms (max poll 1) t} s'.world.clock :=
  ⟨fun hstopped => sleepFor_of_stopped hstopped reason ms poll,
    fun hgo hnone => sleepFor_undisturbed hstops reason ms poll hgo hnone,
    fun _ hgo hfirst hdue => sleepFor_stopped hstops reason ms poll hgo hfirst hdue⟩

/-- The host of a surface without elements that pauses the run all the time, and stops it at one instant. -/
def stoppingAt (instant : Nat) : Host Unit :=
  { Host.inert with
    elapse := fun before after s => ⟨(), s, .pause :: if before < instant ∧ instant ≤ after then [.stop] else []⟩ }

/-- A stop after 250 of 1000 milliseconds is seen after 300, if the flag is looked at every 100. -/
theorem stop_seen_after_nap :
    let env : Env Unit := ⟨stoppingAt 250, {}, {}, 1, ⟨0, 0⟩⟩
    let s : Session Unit := { world := { host := (), control := { paused := true } } }
    (env.host.StopsAt (fun _ r => r = 250) ∧ s.world.control.stopped = false) ∧
      ∃ s', sleepFor env .retryDelay 1000 100 s = .error (.error .stopped) s' ∧ s'.world.clock = 300 := by
  intro env s
  have hstops : env.host.StopsAt (fun _ r => r = 250) := by
    refine ⟨fun before after s => ?_, fun _ _ _ _ _ => Iff.rfl⟩
    show HostAct.stop ∈ HostAct.pause :: (if before < 250 ∧ 250 ≤ after then [HostAct.stop] else []) ↔ _
    by_cases hwithin : before < 250 ∧ 250 ≤ after <;> simp [hwithin]
  have hfirst : IsLeast {r | 0 < r ∧ r = 250} 250 := ⟨⟨by decide, rfl⟩, fun _ hr => Nat.le_of_eq hr.2.symm⟩
  obtain ⟨s', hslept, hend⟩ := (sleeps_until_stopped hstops .retryDelay 1000 100 s).2.2 250 rfl hfirst (by decide)
  have hthird : IsLeast {t | 250 ≤ t ∧ WakesAt 0 1000 100 t} 300 := by
    refine ⟨⟨by decide, .inl ⟨3, rfl⟩⟩, ?_⟩
    rintro t ⟨hrt, ⟨j, rfl⟩ | rfl⟩ <;> omega
  exact ⟨⟨hstops, rfl⟩, s', hslept, hend.unique hthird⟩

end FormReplay
