import FormReplay.Proofs.Engine.Decision
/-!
# Decisions that fail

A decision on an event is taken, carried out, told of and learned from, and then its outcome is translated.  The wait for
it may fail, whatever it does to the surface may, and the translation may, for a stop or while the surface settles; the
rest does not.  All that a decision leaves behind is written between the last act on the surface and the translation.  So
a decision that fails before leaves nothing, and a pass finds its event as unresolved as it was.
-/
namespace FormReplay

variable {σ : Type} {env : Env σ}

/-! ## What a decision leaves -/

/-- A decision was applied, or a handler was learned. -/
def Moment.IsVerdict : Moment → Prop
  | .progress (.decisionApplied ..) | .progress (.handlerLearned ..) => True
  | _                                                                => False

/-- Between two sessions no decision was applied, and nothing was learned or acknowledged. -/
structure Session.Untouched (s s' : Session σ) : Prop where
  handlers : s'.handlers = s.handlers
  learned : s'.learned = s.learned
  acknowledged : s'.context.acknowledged = s.context.acknowledged
  untold : GrownBy (fun m => ¬m.IsVerdict) s.trace s'.trace

structure Session.LeftNoTrace (s s' : Session σ) : Prop extends s.Untouched s' where
  released : s'.world.control.awaiting = false
  pending : s'.context.pending = none

section Keeping

variable {s₀ : Session σ}

theorem withstands_untouched : Withstands (fun _ => True) (fun m => ¬m.IsVerdict) (Session.Untouched s₀) where
  record _ _ hm hs := ⟨hs.handlers, hs.learned, hs.acknowledged, hs.untold.cons hm⟩
  obey s act _ hs := by
    have hrecord : s₀.Untouched (s.record (.acted act)) := ⟨hs.handlers, hs.learned, hs.acknowledged, hs.untold.cons id⟩
    cases act <;> exact ⟨hrecord.handlers, hrecord.learned, hrecord.acknowledged, hrecord.untold⟩
  host _ _ hs := ⟨hs.handlers, hs.learned, hs.acknowledged, hs.untold⟩
  clock _ _ _ hs := ⟨hs.handlers, hs.learned, hs.acknowledged, hs.untold⟩

/-- A host may stop, pause and resume the run, but not hold it. -/
theorem withstands_leftNoTrace : Withstands (fun _ => True) (fun m => ¬m.IsVerdict) (Session.LeftNoTrace s₀) where
  record s m hm hs := ⟨withstands_untouched.record s m hm hs.toUntouched, hs.released, hs.pending⟩
  obey s act hact hs := by
    have hobey := withstands_untouched.obey s act hact hs.toUntouched
    cases act <;> exact ⟨hobey, hs.released, hs.pending⟩
  host s h hs := ⟨withstands_untouched.host s h hs.toUntouched, hs.released, hs.pending⟩
  clock s t ht hs := ⟨withstands_untouched.clock s t ht hs.toUntouched, hs.released, hs.pending⟩

/-! ### The wait -/

/-- **The hold is over however the wait ends**, and nothing else came of it. -/
theorem leftNoTrace_awaitDecision (event : Option Event) (options : List String) :
    Ensures (· = s₀) (awaitDecision env event options) (fun _ => s₀.LeftNoTrace) fun halt s =>
      ∀ e, halt = .error e → s₀.LeftNoTrace s := by
  have hreleased : ∀ {s : Session σ}, s₀.Untouched s → s₀.LeftNoTrace s.released := fun hs =>
    ⟨⟨hs.handlers, hs.learned, hs.acknowledged, hs.untold⟩, rfl, rfl⟩
  have hanswered : ∀ (r : DecisionRequest) s, s₀.Untouched s → s₀.Untouched (s.answered env (.request r)) :=
    fun r s hs => withstands_untouched.answered env.host.within_all (fun _ => id) hs
  have hawait : AwaitRule env event options (· = s₀) (fun _ => s₀.Untouched) (fun _ => s₀.Untouched)
      (fun _ _ => s₀.LeftNoTrace) fun halt s => ∀ e, halt = .error e → s₀.LeftNoTrace s := {
    begins := fun s hs => by
      subst hs
      exact withstands_untouched.told env.host.within_all id ⟨rfl, rfl, rfl, .refl _ _⟩
    put := fun r s hs _ => hanswered r s hs
    refused := fun r s e hs _ _ _ => hreleased (hanswered r s hs)
    stopped := fun _ _ hs _ _ _ => hreleased hs
    taken := fun _ _ _ _ hs _ _ => ⟨⟨hs.handlers, hs.learned, hs.acknowledged, hs.untold⟩, rfl, rfl⟩
    missed := fun _ _ _ hs _ _ => withstands_untouched.rested env.host.within_all id
      ⟨hs.handlers, hs.learned, hs.acknowledged, hs.untold⟩
    outOfFuel := fun _ _ _ _ h => nomatch h }
  exact hawait.awaitDecision.weaken fun _ _ ⟨_, _, hs⟩ => hs

end Keeping

/-! ### The actions -/

section Actions

variable {I : Session σ → Prop} (hI : Withstands (fun _ => True) (fun m => ¬m.IsVerdict) I)
include hI

theorem Withstands.unfinished_ask (q : Query) : Ensures I (ask env q) (fun _ => I) fun _ => I := by
  have hkeeps : (Operation.ask q : Operation σ).Keeps env I fun _ => I := hI.keeps env.host.within_all (fun _ => id) nofun
  exact hkeeps

theorem Withstands.unfinished_pressFollowUp (event : Event) (follow : Option String) :
    Ensures I (pressFollowUp env event follow) (fun _ => I) fun _ => I := by
  cases follow with
  | none => exact .pure fun _ => id
  | some control =>
    have hsettle : Does env (Rests .settle) (sleep env .settle env.config.settleDelay) := does_sleep _ fun _ => id
    have hpress : ∀ on, Ensures I (do ask env (.press on control); pure [HandlerAction.press control]) (fun _ => I)
        fun _ => I := fun _ => .bind (hI.unfinished_ask _) fun _ => .pure fun _ => id
    refine .bind (hsettle.ensures (fun e he => hI.keeps env.host.within_all ?_ ?_) fun _ => id) fun _ => ?_
    · cases he with
      | sleep _ => exact id
      | stopped => trivial
    · cases he <;> nofun
    refine .bind (hI.unfinished_ask _) fun events => ?_
    dsimp only
    split
    · exact hpress _
    · split
      · exact hpress event
      · exact .pure fun _ => id

/-- **Whatever fails of a decision's actions, nothing is left of it.** -/
theorem Withstands.unfinished_carryOut (event : Event) (d : Decision) :
    Ensures I (carryOut env event d) (fun _ _ => True) fun _ => I := by
  unfold carryOut
  split
  · refine .bind (R := fun _ => I) ?_ fun _ => .bind (hI.unfinished_pressFollowUp event _) fun _ => .pure fun _ _ => trivial
    cases d.selectedOption with
    | none         => exact .pure fun _ => id
    | some control => exact .bind (hI.unfinished_ask _) fun _ => .pure fun _ => id
  · exact .bind (hI.unfinished_ask _) fun _ => .pure fun _ _ => trivial
  · -- To ignore an event is not to fail.
    exact .bind (R := fun _ _ => True) (.modifyContext fun _ _ => trivial) fun _ => .pure fun _ => id

end Actions

/-! ## Where a decision fails -/

def recordDecision (env : Env σ) (event : Event) (d : Decision) (actions : List HandlerAction) : Engine σ Unit := do
  if event.kind = .notice then acknowledge event.patternKey
  report env (.decisionApplied d.id (← get).context.stepIndex (some d.action) d.outcome)
  if d.saveRule then learn env event d actions

theorem concludeDecision_eq (env : Env σ) (event : Event) (d : Decision) (actions : List HandlerAction) :
    concludeDecision env event d actions = recordDecision env event d actions >>= fun _ => finishOutcome env d.outcome := by
  unfold concludeDecision recordDecision
  split <;> split <;> simp only [bind_assoc, pure_bind]

theorem recordDecision_succeeds (event : Event) (d : Decision) (actions : List HandlerAction) (s : Session σ) :
    ∃ s', recordDecision env event d actions s = .ok () s' := by
  have hlearn : Ensures (fun _ : Session σ => True) (learn env event d actions) (fun _ _ => True) fun _ _ => False :=
    ensures_learn_told (fun _ => id) (fun _ _ => id) (fun _ _ _ => id) actions
  have hrest : Ensures (fun _ : Session σ => True) (do
      report env (.decisionApplied d.id (← get).context.stepIndex (some d.action) d.outcome)
      if d.saveRule then learn env event d actions) (fun _ _ => True) fun _ _ => False := by
    refine .read fun _ _ => .bind (R := fun _ _ => True) (.report fun _ _ => trivial) fun _ => ?_
    split
    · exact hlearn
    · exact .pure fun _ => id
  have hrecord : Ensures (fun _ : Session σ => True) (recordDecision env event d actions) (fun _ _ => True)
      fun _ _ => False := by
    unfold recordDecision
    dsimp only
    split
    · exact .bind (R := fun _ _ => True) (.modifyContext fun _ => id) fun _ => hrest
    · exact hrest
  cases hx : recordDecision env event d actions s with
  | ok u s'    => exact ⟨s', rfl⟩
  | error e s' => exact (hrecord.error trivial hx).elim

/-- A decision on the event was carried out, told and learned from: its outcome comes next. -/
def Session.Concluded (env : Env σ) (event : Event) (d : Decision) (s s' : Session σ) : Prop :=
  ∃ actions s₁, carryOut env event d s = .ok actions s₁ ∧ recordDecision env event d actions s₁ = .ok () s'

/-- **A decision fails in its actions or in its outcome.** -/
theorem applyDecision_fails {event : Event} {d : Decision} {s s' : Session σ} {halt : Halt}
    (hfail : applyDecision env event d s = .error halt s') :
    carryOut env event d s = .error halt s' ∨
      ∃ s₁, s.Concluded env event d s₁ ∧ finishOutcome env d.outcome s₁ = .error halt s' := by
  rw [applyDecision_eq] at hfail
  rcases Engine.bind_eq_error_iff.1 hfail with hcarry | ⟨actions, s₁, hcarry, hconclude⟩
  · exact .inl hcarry
  · obtain ⟨s₂, hrecord⟩ : ∃ s₂, recordDecision env event d actions s₁ = .ok () s₂ :=
      recordDecision_succeeds event d actions s₁
    rw [concludeDecision_eq] at hconclude
    rcases Engine.bind_eq_error_iff.1 hconclude with hnone | ⟨_, _, hsome, hfinish⟩
    · cases hrecord.symm.trans hnone
    · cases hrecord.symm.trans hsome
      exact .inr ⟨s₂, ⟨actions, s₁, hcarry, hrecord⟩, hfinish⟩

/-! ## The next pass -/

/-- Of what the host shows in a session, the event is the first that has none of these keys. -/
def Session.Shows (env : Env σ) (acknowledged : List String) (event : Event) (s : Session σ) : Prop :=
  ∃ events, (env.host.answer .detect s.world.host).answer = .ok events ∧
    (events.find? fun x => !acknowledged.contains x.patternKey) = some event

def Session.raised (env : Env σ) (event : Event) (s : Session σ) : Session σ :=
  (s.answered env .detect).told env (.interruptionDetected s.context.stepIndex event)

def goOn (env : Env σ) (seen n : Nat) : Option Signal → Engine σ PassReport
  | some signal => return ⟨signal, seen + 1⟩
  | none        => passFrom env (seen + 1) n

theorem resolveEvent_unresolved {event : Event} {s : Session σ} (hunresolved : event.Unresolved s.handlers) :
    resolveEvent env event s = resolveUnhandled env event (s.told env (.interruptionDetected s.context.stepIndex event)) := by
  unfold resolveEvent
  show (report env _ >>= fun _ => _) s = _
  cases hfound : findHandler s.handlers event with
  | none   => rfl
  | some h =>
    dsimp only
    rw [if_neg (hunresolved.2 h hfound)]
    rfl

/-- **A pass takes up the first new event that it is shown**, as one that no handler resolves if none does. -/
theorem passFrom_unresolved {event : Event} {s : Session σ} (hgo : s.world.control.stopped = false)
    (hshows : s.Shows env s.context.acknowledged event) (hunresolved : event.Unresolved s.handlers) (seen n : Nat) :
    passFrom env seen (n + 1) s = (resolveUnhandled env event >>= goOn env seen n) (s.raised env event) := by
  obtain ⟨events, hanswer, hfound⟩ := hshows
  have hkept : KeptBy (fun _ => True) fun s' : Session σ => s'.context = s.context ∧ s'.handlers = s.handlers :=
    ⟨fun _ => trivial, fun _ _ _ => id, fun _ _ => id⟩
  obtain ⟨hcontext, hhandlers⟩ :
      (s.answered env .detect).context = s.context ∧ (s.answered env .detect).handlers = s.handlers :=
    hkept.answered s .detect (fun _ => trivial) ⟨rfl, rfl⟩
  have hstop : checkStop s = .ok () s := by
    show (if s.world.control.stopped then fail .stopped else pure () : Engine σ Unit) s = _
    rw [hgo]
    rfl
  have hdetect : ask env .detect s = .ok events (s.answered env .detect) := by
    show ofExcept (env.host.answer .detect s.world.host).answer (s.answered env .detect) = _
    rw [hanswer]
    rfl
  have hresolve : resolveEvent env event (s.answered env .detect) = resolveUnhandled env event (s.raised env event) := by
    rw [resolveEvent_unresolved (hhandlers ▸ hunresolved), hcontext]
    rfl
  unfold passFrom
  rw [Engine.bind_apply, hstop]
  dsimp only
  rw [Engine.bind_apply, hdetect]
  dsimp only
  rw [Engine.bind_apply, Engine.get_apply]
  dsimp only
  rw [hcontext, hfound]
  dsimp only
  rw [hunresolved.1, if_neg Bool.false_ne_true, Engine.bind_apply, Engine.bind_apply, hresolve]
  cases resolveUnhandled env event (s.raised env event) with
  | error e s' => rfl
  | ok r s'    => cases r <;> rfl

/-- **A failed decision leaves no trace.**  Wherever a decision on an event is applied and fails, it fails in the translation
of its outcome, or else nothing was told of it, learned or acknowledged.  If it was taken in answer to a request, then the
run is as it was before the request: it is not held and no decision is pending.  And so a pass that is shown the event as
before takes it up as unresolved again, whatever else happened meanwhile. -/
theorem failed_decisions_leave_no_trace (env : Env σ) (event : Event) (d : Decision) (s s' : Session σ) (halt : Halt)
    (hfail : applyDecision env event d s = .error halt s') :
    (∃ s₁, s.Concluded env event d s₁ ∧ finishOutcome env d.outcome s₁ = .error halt s') ∨
    s.Untouched s' ∧
    (∀ s₀ : Session σ, awaitDecision env (some event) (rankOptions event.controls) s₀ = .ok d s → s₀.LeftNoTrace s') ∧
    ∀ t : Session σ, t.handlers = s'.handlers → t.context.acknowledged = s'.context.acknowledged →
      t.world.control.stopped = false → event.Unresolved s.handlers → t.Shows env s.context.acknowledged event →
      ∀ seen n, passFrom env seen (n + 1) t = (resolveUnhandled env event >>= goOn env seen n) (t.raised env event) := by
  rcases applyDecision_fails hfail with hcarry | hfinish
  · have huntouched : s.Untouched s' :=
      (withstands_untouched.unfinished_carryOut event d).error ⟨rfl, rfl, rfl, .refl _ _⟩ hcarry
    refine .inr ⟨huntouched, fun s₀ hwait => ?_, fun t hhandlers hacknowledged hgo hunresolved hshows seen n => ?_⟩
    · have hawaited : s₀.LeftNoTrace s := (leftNoTrace_awaitDecision (some event) _).ok rfl hwait
      exact (withstands_leftNoTrace.unfinished_carryOut event d).error hawaited hcarry
    · refine passFrom_unresolved hgo ?_ ?_ seen n
      · rw [hacknowledged, huntouched.acknowledged]
        exact hshows
      · rw [hhandlers, huntouched.handlers]
        exact hunresolved
  · exact .inl hfinish

def askDelete : Event := .ofText .dialog "Delete record 7?" ["Yes", "Sure"]

/-- A surface that shows the dialog whatever is done, and on which "Sure" is pressed in vain. -/
def unsure : Host Unit where
  answer q _ :=
    match q with
    | .detect          => ⟨.ok [askDelete], (), []⟩
    | .press _ control => ⟨if control = "Sure" then .error (.step (.reported "gone")) else .ok (), (), []⟩
    | q                => ⟨(Host.inert.answer q ()).answer, (), []⟩
  observe _ _ := ⟨(), (), []⟩
  elapse _ _ _ := ⟨(), (), []⟩
  hasClipboard := false

def unsureEnv : Env Unit := ⟨unsure, {}, { learningMode := true }, 10, ⟨0, 0⟩⟩

def deleteForSure : Decision :=
  { id := .issued 1, selectedOption := some "Yes", followUpOption := some "Sure", saveRule := true }

def deciding : Session Unit := { world := { host := (), inbox := [deleteForSure] } }

/-- The option is pressed and the follow-up is not, and the next pass asks about the dialog again. -/
theorem follow_up_failed :
    ∃ s s', awaitDecision unsureEnv (some askDelete) (rankOptions askDelete.controls) deciding = .ok deleteForSure s ∧
      applyDecision unsureEnv askDelete deleteForSure s = .error (.error (.step (.reported "gone"))) s' ∧
      deciding.LeftNoTrace s' ∧
      ∀ n, passFrom unsureEnv 0 (n + 1) s' =
        (resolveUnhandled unsureEnv askDelete >>= goOn unsureEnv 0 n) (s'.raised unsureEnv askDelete) := by
  obtain ⟨s, s', hwait, hfail, hhandlers, hacknowledged, hgo⟩ : ∃ s s',
      awaitDecision unsureEnv (some askDelete) (rankOptions askDelete.controls) deciding = .ok deleteForSure s ∧
        applyDecision unsureEnv askDelete deleteForSure s = .error (.error (.step (.reported "gone"))) s' ∧
        s.handlers = [] ∧ s.context.acknowledged = [] ∧ s'.world.control.stopped = false :=
    ⟨_, _, rfl, rfl, rfl, rfl, rfl⟩
  obtain ⟨_, -, hfinish⟩ | ⟨-, htrace, hpass⟩ := failed_decisions_leave_no_trace unsureEnv askDelete deleteForSure s s' _ hfail
  · -- The outcome would be to go on, which does not fail.
    cases hfinish
  · have hunresolved : askDelete.Unresolved s.handlers := hhandlers ▸ ⟨by decide +kernel, nofun⟩
    have hshows : s'.Shows unsureEnv s.context.acknowledged askDelete := hacknowledged ▸ ⟨[askDelete], rfl, by decide +kernel⟩
    exact ⟨s, s', hwait, hfail, htrace deciding hwait, hpass s' rfl rfl hgo hunresolved hshows 0⟩

end FormReplay
