import FormReplay.Proofs.Engine.Decision
/-!
# Holding a run

While a decision is awaited the engine holds its run, apart from the pause that a host may have set.  A run is held
exactly while a request is under way, from the moment that it is told until a decision was taken, the request was
refused or the run was stopped.  And it is paused exactly as the host's last pause or resume left it.
-/
namespace FormReplay

variable {σ : Type} {env : Env σ}

/-! ## The discipline -/

/-- The request that is under way.  Requests are put, decisions polled for and acts done by the host while it is; any
other moment comes after it. -/
def awaited? : List Entry → Option RequestId
  | [] => none
  | e :: past =>
    match e.moment with
    | .progress (.decisionRequested r) => some r.id
    | .asked (.request _) _ | .slept .decisionPoll _ | .acted _ => awaited? past
    | _ => none

def lastPaused : List Entry → Bool
  | [] => false
  | e :: past =>
    match e.moment with
    | .acted .pause  => true
    | .acted .resume => false
    | _ => lastPaused past

def ownMoment? : List Entry → Option Moment
  | [] => none
  | e :: past =>
    match e.moment with
    | .acted _ => ownMoment? past
    | m        => some m

def Moment.IsRequested : Moment → Prop
  | .progress (.decisionRequested _) => True
  | _ => False

/-- The moment is of a wait for a decision once it was requested, or an act of the host. -/
def Moment.IsWaiting : Moment → Prop
  | .asked (.request _) _ | .slept .decisionPoll _ | .acted _ => True
  | _ => False

/-- After this moment the engine polls: a request was put and not refused, or a poll found nothing. -/
def Moment.IsPolling : Moment → Prop
  | .asked (.request _) (.ok _) | .slept .decisionPoll _ => True
  | _ => False

/-- A request is put when it was told.  It is polled for once it was put, and no longer after a refusal or a stop. -/
def Moment.InOrder (stopped : Bool) (own? : Option Moment) : Moment → Prop
  | .asked (.request r) _  => own? = some (.progress (.decisionRequested r))
  | .slept .decisionPoll _ => stopped = false ∧ ∃ m ∈ own?, m.IsPolling
  | _ => True

/-- What holds at every entry.  The run is held if and only if a decision is pending, which is that of the request
under way, and it is paused as the host left it. -/
structure Disciplined (e : Entry) (past : List Entry) : Prop where
  hold : e.control.awaiting = e.context.pending.isSome
  pending : e.context.pending = awaited? (e :: past)
  order : e.moment.InOrder e.control.stopped (ownMoment? past)
  paused : e.control.paused = lastPaused past
  stopped : ∀ x ∈ past, x.moment = .acted .stop → e.control.stopped = true

/-! ### Reading the past -/

theorem Moment.IsPolling.isWaiting {m : Moment} (h : m.IsPolling) : m.IsWaiting := by
  unfold Moment.IsPolling at h
  split at h <;> trivial

theorem Moment.InOrder.of_not_isWaiting {stopped : Bool} {own? : Option Moment} {m : Moment} (h : ¬m.IsWaiting) :
    m.InOrder stopped own? := by
  unfold Moment.InOrder
  split <;> first | trivial | exact absurd trivial h

theorem awaited?_waiting {e : Entry} (past : List Entry) (h : e.moment.IsWaiting) :
    awaited? (e :: past) = awaited? past := by
  unfold Moment.IsWaiting at h
  split at h <;> rename_i hm
  · rw [awaited?, hm]
  · rw [awaited?, hm]
  · rw [awaited?, hm]
  · exact h.elim

theorem awaited?_eq_none {e : Entry} (past : List Entry) (hwaiting : ¬e.moment.IsWaiting)
    (hrequested : ¬e.moment.IsRequested) : awaited? (e :: past) = none := by
  rw [awaited?]
  split <;> rename_i hm
  · exact absurd trivial (hm ▸ hrequested : ¬(Moment.progress (.decisionRequested _)).IsRequested)
  all_goals first | rfl | (rw [hm] at hwaiting; exact absurd trivial hwaiting)

theorem lastPaused_own {e : Entry} (past : List Entry) (h : ¬e.moment.IsAct) :
    lastPaused (e :: past) = lastPaused past := by
  rw [lastPaused]
  split <;> rename_i hm
  · rw [hm] at h
    exact absurd trivial h
  · rw [hm] at h
    exact absurd trivial h
  · rfl

theorem ownMoment?_own {e : Entry} (past : List Entry) (h : ¬e.moment.IsAct) :
    ownMoment? (e :: past) = some e.moment := by
  rw [ownMoment?]
  split <;> rename_i hm
  · rw [hm] at h
    exact absurd trivial h
  · rfl

/-! ## What a run keeps -/

structure Keeping (id : Option RequestId) (s : Session σ) : Prop where
  always : Always Disciplined s.trace
  pending : s.context.pending = id
  hold : s.world.control.awaiting = id.isSome
  paused : s.world.control.paused = lastPaused s.trace
  stopped : ∀ x ∈ s.trace, x.moment = .acted .stop → s.world.control.stopped = true

structure Standing (id : Option RequestId) (m : Moment) (s : Session σ) : Prop extends Keeping id s where
  awaited : awaited? s.trace = id
  own : ownMoment? s.trace = some m

def LeftKeeping : Halt → Session σ → Prop
  | .error _, s   => Keeping none s
  | .outOfFuel, s => Always Disciplined s.trace

namespace Keeping

variable {id : Option RequestId} {s : Session σ} (h : Keeping id s)
include h

theorem record {m : Moment} (hm : ¬m.IsAct) (hawaited : awaited? (s.record m).trace = id)
    (horder : m.InOrder s.world.control.stopped (ownMoment? s.trace)) : Standing id m (s.record m) where
  always := by
    refine ⟨?_, h.always⟩
    exact ⟨h.hold.trans (congrArg _ h.pending.symm), h.pending.trans hawaited.symm, horder, h.paused, h.stopped⟩
  pending := h.pending
  hold := h.hold
  paused := h.paused.trans (lastPaused_own s.trace hm).symm
  stopped := by
    refine List.forall_mem_cons.2 ⟨fun hstop => ?_, h.stopped⟩
    have hstop : m = .acted .stop := hstop
    exact absurd (hstop ▸ trivial) hm
  awaited := hawaited
  own := ownMoment?_own s.trace hm

theorem released : Keeping none s.released := ⟨h.always, rfl, rfl, h.paused, h.stopped⟩

end Keeping

theorem Standing.obey {id : Option RequestId} {m : Moment} {s : Session σ} (h : Standing id m s) (act : HostAct) :
    Standing id m (s.obey act) := by
  have halways : Always Disciplined (s.record (.acted act)).trace := by
    refine ⟨?_, h.always⟩
    exact ⟨h.hold.trans (congrArg _ h.pending.symm), h.pending.trans h.awaited.symm, trivial, h.paused, h.stopped⟩
  have hstopped : act ≠ .stop → ∀ x ∈ (s.record (.acted act)).trace, x.moment = .acted .stop →
      s.world.control.stopped = true := fun hact =>
    List.forall_mem_cons.2 ⟨fun hstop => by cases hstop; exact absurd rfl hact, h.stopped⟩
  cases act with
  | stop   => exact ⟨⟨halways, h.pending, h.hold, h.paused, fun _ _ _ => rfl⟩, h.awaited, h.own⟩
  | pause  => exact ⟨⟨halways, h.pending, h.hold, rfl, hstopped nofun⟩, h.awaited, h.own⟩
  | resume => exact ⟨⟨halways, h.pending, h.hold, rfl, hstopped nofun⟩, h.awaited, h.own⟩
  | post d => exact ⟨⟨halways, h.pending, h.hold, h.paused, hstopped nofun⟩, h.awaited, h.own⟩

theorem standing_acts (id : Option RequestId) (m : Moment) : KeptByActs (Standing (σ := σ) id m) where
  record _ _ hm := hm.elim
  obey _ act _ hs := hs.obey act
  host _ _ hs := ⟨⟨hs.always, hs.pending, hs.hold, hs.paused, hs.stopped⟩, hs.awaited, hs.own⟩
  clock _ _ _ hs := ⟨⟨hs.always, hs.pending, hs.hold, hs.paused, hs.stopped⟩, hs.awaited, hs.own⟩

def Moment.IsBeside (m : Moment) : Prop := ¬m.IsWaiting ∧ ¬m.IsRequested

theorem Moment.IsOrdinary.isBeside {m : Moment} (h : m.IsOrdinary) : m.IsBeside := by
  constructor <;> intro hm
  · unfold Moment.IsWaiting at hm
    split at hm <;> first | exact h | exact hm
  · unfold Moment.IsRequested at hm
    split at hm <;> first | exact h | exact hm

theorem renews_keeping : Renews Moment.IsBeside (Keeping (σ := σ) none) fun s => ∃ m, Standing none m s where
  record s m hm hs := by
    have hact : ¬m.IsAct := fun hact => by
      obtain ⟨act, rfl⟩ := hact.exists
      exact hm.1 trivial
    exact ⟨m, hs.record hact (awaited?_eq_none s.trace hm.1 hm.2) (.of_not_isWaiting hm.1)⟩
  acts := {
    record := fun _ _ hm => hm.elim
    obey := fun s act _ ⟨m, hs⟩ => ⟨m, hs.obey act⟩
    host := fun s h ⟨m, hs⟩ => ⟨m, (standing_acts none m).host s h hs⟩
    clock := fun s t ht ⟨m, hs⟩ => ⟨m, (standing_acts none m).clock s t ht hs⟩ }
  le _ := fun ⟨_, hs⟩ => hs.toKeeping

theorem Keeping.sameDesk {id : Option RequestId} {s s' : Session σ} (hsame : s.SameDesk s') (h : Keeping id s) :
    Keeping id s' where
  always := hsame.trace ▸ h.always
  pending := hsame.pending.trans h.pending
  hold := hsame.world ▸ h.hold
  paused := by rw [hsame.world, hsame.trace]; exact h.paused
  stopped := by rw [hsame.world, hsame.trace]; exact h.stopped

theorem Keeping.stop {id : Option RequestId} {s : Session σ} (h : Keeping id s) : Keeping id (s.onControl .stop) :=
  ⟨h.always, h.pending, h.hold, h.paused, fun _ _ _ => rfl⟩

theorem LeftKeeping.ofKeeping (e : Halt) (s : Session σ) (h : Keeping none s) : LeftKeeping e s := by
  cases e with
  | error e   => exact h
  | outOfFuel => exact h.always

theorem keeping_ordinary {e : Operation σ} (he : e.Ordinary) : e.Keeps env (Keeping none) fun _ => Keeping none :=
  renews_keeping.keeps (he.1.mono fun _ => Moment.IsOrdinary.isBeside) fun f hf _ s hs => hs.sameDesk (he.2 f hf s)

/-! ### Decisions -/

theorem standing_put (env : Env σ) {r : DecisionRequest} {s : Session σ}
    (hs : Standing (some r.id) (.progress (.decisionRequested r)) s) :
    Standing (some r.id) (.asked (.request r) (env.host.answer (.request r) s.world.host).answer)
      (s.answered env (.request r)) :=
  (standing_acts _ _).afterAsk env.host.within_all (hs.record id hs.awaited hs.own)

/-- The run is held from the request on, and released however the wait ends. -/
theorem awaitRule_keeping (event : Option Event) (options : List String) :
    AwaitRule env event options (Keeping none)
      (fun r => Standing (some r.id) (.progress (.decisionRequested r)))
      (fun r s => ∃ m, m.IsPolling ∧ Standing (some r.id) m s) (fun _ _ => Keeping none) LeftKeeping where
  begins s hs := by
    let r := s.request event options
    have hheld : Keeping (some r.id) (s.held r.id) := ⟨hs.always, rfl, rfl, hs.paused, hs.stopped⟩
    exact (standing_acts _ _).afterReport env.host.within_all (hheld.record id rfl trivial)
  put r s hs hok := by
    have hput := standing_put env hs
    rw [hok] at hput
    exact ⟨.asked (.request r) (.ok ()), trivial, hput⟩
  refused r s e hs _ := (standing_put env hs).released
  stopped r s := fun ⟨m, _, hs⟩ _ => hs.released
  taken r s d rest := fun ⟨m, _, hs⟩ _ _ => ⟨hs.always, rfl, rfl, hs.paused, hs.stopped⟩
  missed r s rest := fun ⟨m, hm, hs⟩ hgo _ => by
    have hkeeping : Keeping (some r.id) (s.withInbox rest) := ⟨hs.always, hs.pending, hs.hold, hs.paused, hs.stopped⟩
    refine ⟨.slept .decisionPoll env.config.decisionPoll, trivial, ?_⟩
    exact (standing_acts _ _).afterSleep env.host.within_all (hkeeping.record id hs.awaited ⟨hgo, m, hs.own, hm⟩)
  outOfFuel r s := fun ⟨m, _, hs⟩ => hs.always

theorem keeping_recovers (e : Halt) (s : Session σ) (h : Keeping none s) : Recovers (Keeping none) LeftKeeping e s :=
  ⟨.ofKeeping e s h, fun _ _ _ => h⟩

theorem keeping_await (event : Option Event) (options : List String) :
    Ensures (Keeping none) (awaitDecision env event options) (fun _ => Keeping none)
      (Recovers (Keeping none) LeftKeeping) :=
  (awaitRule_keeping event options).awaitDecision.imp (fun _ => id) (fun _ _ ⟨_, _, hs⟩ => hs) fun e s hs => by
    cases e with
    | error e   => exact keeping_recovers _ s hs
    | outOfFuel => exact ⟨hs, nofun⟩

theorem keeping_finish (outcome : Outcome) :
    Ensures (Keeping none) (finishOutcome env outcome) (fun _ => Keeping none) (Recovers (Keeping none) LeftKeeping) := by
  refine ensures_finishOutcome (fun e he => ?_) (keeping_recovers _) fun s hs => keeping_recovers _ _ hs.stop
  exact (keeping_ordinary (he.ordinary nofun)).weaken keeping_recovers he.ne_observe

/-- What a decision does has nothing to do with the hold, for it is over then. -/
theorem applyRule_keeping (event : Event) (d : Decision) :
    ApplyRule env event d (Keeping none) (Keeping none) (Keeping none) (Recovers (Keeping none) LeftKeeping) where
  carry e he := by
    refine (keeping_ordinary he.ordinary).weaken keeping_recovers he.ne_observe
  applied s hs := renews_keeping.le _ (renews_keeping.told ⟨id, id⟩ hs)
  learn _ := ensures_learn_told (fun _ => id) (fun _ s hs => renews_keeping.le _ (renews_keeping.told ⟨id, id⟩ hs))
    fun serial h s hs => ⟨hs.always, hs.pending, hs.hold, hs.paused, hs.stopped⟩
  skip _ _ := id
  finish := keeping_finish d.outcome
  outOfFuel := keeping_recovers _

theorem decisionRule_keeping : DecisionRule env (Keeping none) LeftKeeping where
  keeps _ := keeping_ordinary
  ends := LeftKeeping.ofKeeping
  halt _ hs := hs.stop
  decide event := .bind (keeping_await _ _) fun d => (applyRule_keeping event d).applyDecision
  confirm := by
    rw [confirmStep_eq]
    refine .bind (keeping_await _ _) fun d => ensures_applyConfirmation (fun s hs => ?_) (keeping_finish d.outcome)
    exact renews_keeping.le _ (renews_keeping.told ⟨id, id⟩ hs)

/-! ## Runs -/

theorem keeping_execution (env : Env σ) (w : Workflow) (input : RunInput) :
    Ensures (Keeping none) (execution env w input) (fun _ => Keeping none) LeftKeeping :=
  ensures_execution (fun _ => decisionRule_keeping.executeProgram w.within_analyze) fun _ _ => id

theorem keeping_run (env : Env σ) (w : Workflow) (input : RunInput) (world : World σ) :
    Always Disciplined (history env w input world) ∧
    ∀ f, run env w input world = some f →
      f.world.control.awaiting = false ∧ f.world.control.paused = lastPaused (history env w input world) := by
  have hsession : Keeping none (world.session w.handlers) :=
    ⟨trivial, rfl, rfl, rfl, fun _ hx => absurd hx List.not_mem_nil⟩
  have hstart : Keeping none (started env w world) := renews_keeping.le _ (renews_keeping.told ⟨id, id⟩ hsession)
  obtain ⟨r, s, hok, herror, hrun, hhistory⟩ | ⟨s, hs, hrun, hhistory⟩ :=
    run_ensures (keeping_execution env w input) world hstart
  · have hs : Keeping none s := by
      cases r with
      | ok a    => exact hok a rfl
      | error e => exact herror e rfl
    have hended : Keeping none (s.ended env r) := renews_keeping.le _ (renews_keeping.told ⟨id, id⟩ hs)
    rw [hhistory, hrun]
    exact ⟨hended.always, fun f hf => by cases hf; exact ⟨hended.hold, hended.paused⟩⟩
  · rw [hhistory, hrun]
    exact ⟨hs, fun f hf => by cases hf⟩

theorem lastPaused_of_pause {later past : List Entry} {e : Entry} (hpause : e.moment = .acted .pause)
    (hresume : ∀ x ∈ later, x.moment ≠ .acted .resume) : lastPaused (later ++ e :: past) = true := by
  induction later with
  | nil => rw [List.nil_append, lastPaused, hpause]
  | cons x later ih =>
    rw [List.cons_append, lastPaused]
    split
    · rfl
    · exact absurd ‹_› (hresume x (.head _))
    · exact ih fun y hy => hresume y (.tail _ hy)

def Ending (trace : List Entry) : Prop :=
  ∃ m ∈ ownMoment? trace, ¬m.IsRequested ∧ (m.IsPolling → ∃ x ∈ trace, x.moment = .acted .stop)

theorem Disciplined.not_isWaiting {e : Entry} {past : List Entry} (h : Disciplined e past) (hending : Ending past)
    (hown : ¬e.moment.IsAct) : ¬e.moment.IsWaiting := by
  obtain ⟨m, hm, hrequested, hstop⟩ := hending
  obtain ⟨-, -, horder, -, hstopped⟩ := h
  intro hwaiting
  unfold Moment.IsWaiting at hwaiting
  split at hwaiting
  · rename_i r answer he
    rw [he] at horder
    cases hm.symm.trans horder
    exact hrequested trivial
  · rename_i ms he
    rw [he] at horder
    obtain ⟨hgo, m', hm', hpolling⟩ := horder
    cases hm.symm.trans hm'
    obtain ⟨x, hx, hact⟩ := hstop hpolling
    rw [hstopped x hx hact] at hgo
    cases hgo
  · rename_i act he
    rw [he] at hown
    exact hown trivial
  · exact hwaiting

theorem Disciplined.ends {e : Entry} {past : List Entry} (h : Disciplined e past) (hending : Ending past)
    (hrequested : ¬e.moment.IsRequested) :
    Ending (e :: past) ∧ (¬e.moment.IsAct → e.context.pending = none ∧ e.control.awaiting = false) := by
  by_cases hact : e.moment.IsAct
  · obtain ⟨m, hm, hunrequested, hstop⟩ := hending
    refine ⟨⟨m, ?_, hunrequested, fun hpolling => ?_⟩, absurd hact⟩
    · obtain ⟨act, he⟩ := hact.exists
      rw [ownMoment?, he]
      exact hm
    · obtain ⟨x, hx, hstopped⟩ := hstop hpolling
      exact ⟨x, .tail _ hx, hstopped⟩
  · have hwaiting : ¬e.moment.IsWaiting := h.not_isWaiting hending hact
    have hnone : e.context.pending = none := h.pending.trans (awaited?_eq_none past hwaiting hrequested)
    have hpolling : ¬e.moment.IsPolling := fun hpolling => hwaiting hpolling.isWaiting
    refine ⟨⟨e.moment, ownMoment?_own past hact, hrequested, fun h => absurd h hpolling⟩, fun _ => ?_⟩
    exact ⟨hnone, h.hold.trans (congrArg _ hnone)⟩

theorem ending_after {later past : List Entry} (h : Always Disciplined (later ++ past)) (hending : Ending past)
    (hrequested : ∀ x ∈ later, ¬x.moment.IsRequested) :
    Ending (later ++ past) ∧
    ∀ x ∈ later, ¬x.moment.IsAct → x.context.pending = none ∧ x.control.awaiting = false := by
  induction later with
  | nil => exact ⟨hending, fun _ hx => absurd hx List.not_mem_nil⟩
  | cons x later ih =>
    obtain ⟨hending, hclear⟩ := ih h.2 fun y hy => hrequested y (.tail _ hy)
    obtain ⟨hending, hx⟩ := h.1.ends hending (hrequested x (.head _))
    exact ⟨hending, List.forall_mem_cons.2 ⟨hx, hclear⟩⟩

theorem awaited?_while {held past : List Entry} (h : ∀ x ∈ held, x.moment.IsWaiting) :
    awaited? (held ++ past) = awaited? past := by
  induction held with
  | nil => rfl
  | cons x held ih => exact (awaited?_waiting _ (h x (.head _))).trans (ih fun y hy => h y (.tail _ hy))

/-- **The hold is kept exactly as long as a request is under way**, in every run and whatever its host does.  At every
entry the run is held if and only if a decision is pending, which is that of the request under way; both are clear once
a request was refused, or the run was stopped while the engine polled, until the next request.  A pause of the host
stays in force until its own resume, decisions or not; no act of the host releases the hold; and a run that ends is not
held, and paused only if the host left it so. -/
theorem hold_discipline (env : Env σ) (w : Workflow) (input : RunInput) (world : World σ) :
    Always Disciplined (history env w input world) ∧
    (∀ later e past, history env w input world = later ++ e :: past →
      (∃ r err, e.moment = .asked (.request r) (.error err)) ∨
        e.moment = .acted .stop ∧ (∃ m ∈ ownMoment? past, m.IsPolling) →
      (∀ x ∈ later, ¬x.moment.IsRequested) →
      ∀ x ∈ later, ¬x.moment.IsAct → x.context.pending = none ∧ x.control.awaiting = false) ∧
    (∀ later e past, history env w input world = later ++ e :: past → e.moment = .acted .pause →
      (∀ x ∈ later, x.moment ≠ .acted .resume) → ∀ x ∈ later, x.control.paused = true) ∧
    (∀ newer held e past act, history env w input world = newer ++ (held ++ e :: past) → e.moment = .acted act →
      e.control.awaiting = true → (∀ x ∈ held, x.moment.IsWaiting) → ∀ x ∈ held, x.control.awaiting = true) ∧
    ∀ f, run env w input world = some f →
      f.world.control.awaiting = false ∧ f.world.control.paused = lastPaused (history env w input world) := by
  obtain ⟨halways, hend⟩ := keeping_run env w input world
  refine ⟨halways, fun later e past hsplit hover hrequested => ?_, fun later e past hsplit hpause hresume x hx => ?_,
    fun newer held e past act hsplit hact hheld hwaiting x hx => ?_, hend⟩
  · rw [hsplit] at halways
    refine (ending_after halways ?_ hrequested).2
    obtain ⟨r, err, he⟩ | ⟨hstop, m, hm, hpolling⟩ := hover
    · exact ⟨e.moment, ownMoment?_own past (by rw [he]; exact id), by rw [he]; exact id, by rw [he]; exact False.elim⟩
    · refine ⟨m, ?_, fun hm' => ?_, fun _ => ⟨e, .head _, hstop⟩⟩
      · rw [ownMoment?, hstop]
        exact hm
      · unfold Moment.IsRequested at hm'
        split at hm' <;> first | exact hpolling | exact hm'
  · obtain ⟨newer, older, rfl⟩ := List.append_of_mem hx
    rw [hsplit, List.append_assoc] at halways
    have hpaused : x.control.paused = lastPaused (older ++ e :: past) := halways.split.paused
    exact hpaused.trans (lastPaused_of_pause hpause fun y hy => hresume y (List.mem_append_right _ (.tail _ hy)))
  · obtain ⟨later, older, rfl⟩ := List.append_of_mem hx
    have hsplit' : history env w input world = (newer ++ later ++ x :: older) ++ e :: past := by
      rw [hsplit, List.append_assoc, List.append_assoc, List.append_assoc]
    rw [hsplit', List.append_assoc] at halways
    have hx' : Disciplined x (older ++ e :: past) := halways.split
    have he : Disciplined e past := by
      rw [← List.append_assoc] at halways
      exact halways.split
    have hwaits : awaited? (x :: older ++ e :: past) = awaited? (e :: past) :=
      awaited?_while fun y hy => hwaiting y (List.mem_append_right _ hy)
    rw [hx'.hold, hx'.pending, ← List.cons_append, hwaits, ← he.pending, ← he.hold]
    exact hheld

end FormReplay
