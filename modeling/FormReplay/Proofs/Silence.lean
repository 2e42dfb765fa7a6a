import FormReplay.Proofs.Engine.Decision
/-!
# Acknowledged means silent

A run keeps the pattern keys that are not raised again, and forgets none of them.  A pass takes up only an event whose
key is not among them.  Keys come in by four ways: a benign notice is acknowledged as soon as it is found, a notice that
no handler resolves once it was reported, a notice that was decided on and a dialog that is to be ignored before the
decision is reported.  So what was acknowledged is neither reported nor handled nor asked about again.
-/
namespace FormReplay

variable {σ : Type} {env : Env σ}

/-! ## What an entry takes up -/

/-- The event that was reported last, unless a decision was asked for since: what a handler is applied to. -/
def subject? : List Entry → Option Event
  | [] => none
  | e :: past =>
    match e.moment with
    | .progress (.interruptionDetected _ event) => some event
    | .progress (.decisionRequested _)          => none
    | _                                         => subject? past

def lastRequest? : List Entry → Option DecisionRequest
  | [] => none
  | e :: past =>
    match e.moment with
    | .progress (.decisionRequested r) => some r
    | _                                => lastRequest? past

/-- The event that is taken up: it is reported, a handler does something about it, or a decision on it is asked for. -/
def Moment.takesUp? (m : Moment) (past : List Entry) : Option Event :=
  match m with
  | .progress (.interruptionDetected _ event) => some event
  | .progress (.interruptionHandled ..) | .asked (.press ..) _ | .asked (.dismiss _) _ => subject? past
  | .progress (.decisionRequested r) | .asked (.request r) _ => r.event
  | _ => none

/-- The key of a notice that is reported and that is all, for no handler resolves it by itself, the run does not ask for
decisions on such, and does not stop at them either. -/
def Moment.passedOver? (options : RunOptions) (handlers : List Handler) : Moment → Option String
  | .progress (.interruptionDetected _ event) =>
    if event.kind = .notice ∧ options.learningMode = false ∧ options.runUntilInterception = false ∧
        ∀ h ∈ findHandler handlers event, h.mode ≠ .auto then
      some event.patternKey
    else none
  | _ => none

def Moment.Accounts (m : Moment) (acknowledged : List String) (past : List Entry) : Prop :=
  match m with
  -- A benign notice is never reported.
  | .progress (.interruptionDetected _ event) => event.isBenignNotice = false
  | .progress (.interruptionHandled ..) => (subject? past).isSome = true
  -- Unless a decision is under way, the surface is touched by a handler.
  | .asked (.press event _) _ | .asked (.dismiss event) _ => ∀ subject ∈ subject? past, event = subject
  -- A notice that was decided on, and a dialog to be ignored, is acknowledged by now.
  | .progress (.decisionApplied id _ (some action) _) =>
    ∃ r event, lastRequest? past = some r ∧ r.id = id ∧ r.event = some event ∧
      (event.kind = .notice ∨ action = .ignore → event.patternKey ∈ acknowledged)
  | _ => True

/-- An entry takes up nothing that is acknowledged, in a run with such options that began with such handlers. -/
structure Silenced (options : RunOptions) (handlers : List Handler) (e : Entry) (past : List Entry) : Prop where
  grows : ∀ x ∈ past, x.context.acknowledged <+: e.context.acknowledged
  silent : ∀ event ∈ e.moment.takesUp? past, event.patternKey ∉ e.context.acknowledged
  /-- A notice that was passed over is acknowledged by the next thing that happens, unless it is an act of the host. -/
  passedOver : e.moment.IsAct ∨
    ∀ x ∈ past, ∀ key ∈ x.moment.passedOver? options handlers, key ∈ e.context.acknowledged
  accounts : e.moment.Accounts e.context.acknowledged past

/-- After such an entry, nothing with the key is to be taken up. -/
inductive Hushes (options : RunOptions) (handlers : List Handler) (x : Entry) (past : List Entry) (key : String) : Prop
  | acknowledged : key ∈ x.context.acknowledged → Hushes options handlers x past key
  /-- It reports an unhandled notice, where such are passed over. -/
  | passedOver : x.moment.passedOver? options handlers = some key → Hushes options handlers x past key
  /-- A decision on a notice, or to ignore a dialog, was applied. -/
  | decided (id : RequestId) (step : Nat) (action : DecisionAction) (outcome : Outcome) (r : DecisionRequest) (event : Event) :
      x.moment = .progress (.decisionApplied id step (some action) outcome) → lastRequest? past = some r →
      r.event = some event → event.kind = .notice ∨ action = .ignore → event.patternKey = key →
      Hushes options handlers x past key

/-! ## What a run keeps -/

/-- What a run with such options, that began with such handlers, keeps; but that a notice is yet to be acknowledged that
was just reported and is due to be passed over. -/
structure Quiet (options : RunOptions) (handlers : List Handler) (due : Option String) (s : Session σ) : Prop where
  always : Always (Silenced options handlers) s.trace
  grows : ∀ x ∈ s.trace, x.context.acknowledged <+: s.context.acknowledged
  passedOver : ∀ x ∈ s.trace, ∀ key ∈ x.moment.passedOver? options handlers,
    key ∈ s.context.acknowledged ∨ due = some key
  handlers : options.learningMode = false → s.handlers = handlers

def Session.IsNew (event? : Option Event) (s : Session σ) : Prop :=
  ∀ event ∈ event?, event.patternKey ∉ s.context.acknowledged

def Moment.IsMute : Moment → Prop
  | .progress (.interruptionDetected ..) | .progress (.interruptionHandled ..) => False
  | .progress (.decisionRequested _) | .progress (.decisionApplied _ _ (some _) _) => False
  | .asked (.press ..) _ | .asked (.dismiss _) _ | .asked (.request _) _ => False
  | _ => True

theorem Moment.IsRoutine.isMute {m : Moment} (h : m.IsRoutine) : m.IsMute := by
  unfold Moment.IsMute
  split <;> first | exact h.elim | trivial

theorem Moment.IsMute.free {m : Moment} (h : m.IsMute) (options : RunOptions) (handlers : List Handler)
    (acknowledged : List String) (past : List Entry) :
    m.takesUp? past = none ∧ m.Accounts acknowledged past ∧ m.passedOver? options handlers = none := by
  cases m with
  | progress event =>
    cases event with
    | decisionApplied id step action outcome =>
      cases action with
      | none   => exact ⟨rfl, trivial, rfl⟩
      | some _ => exact h.elim
    | _ => first | exact h.elim | exact ⟨rfl, trivial, rfl⟩
  | asked q answer => cases q <;> first | exact h.elim | exact ⟨rfl, trivial, rfl⟩
  | _              => exact ⟨rfl, trivial, rfl⟩

section Keeping

variable {options : RunOptions} {handlers : List Handler} {due : Option String} {s : Session σ} {event : Event}
  {r : DecisionRequest}

namespace Quiet

theorem record (h : Quiet options handlers none s) (m : Moment) (hsilent : s.IsNew (m.takesUp? s.trace))
    (haccounts : m.Accounts s.context.acknowledged s.trace) :
    Quiet options handlers (m.passedOver? options handlers) (s.record m) := by
  have hacknowledged : ∀ x ∈ s.trace, ∀ key ∈ x.moment.passedOver? options handlers, key ∈ s.context.acknowledged :=
    fun x hx key hkey => (h.passedOver x hx key hkey).resolve_right nofun
  refine ⟨⟨⟨h.grows, hsilent, .inr hacknowledged, haccounts⟩, h.always⟩, fun x hx => ?_, fun x hx key hkey => ?_, h.handlers⟩
  · rcases List.mem_cons.1 hx with rfl | hx
    · exact List.prefix_rfl
    · exact h.grows x hx
  · rcases List.mem_cons.1 hx with rfl | hx
    · exact .inr hkey
    · exact .inl (hacknowledged x hx key hkey)

theorem acted (h : Quiet options handlers due s) (act : HostAct) : Quiet options handlers due (s.record (.acted act)) := by
  refine ⟨⟨⟨h.grows, nofun, .inl trivial, trivial⟩, h.always⟩, fun x hx => ?_, fun x hx key hkey => ?_, h.handlers⟩
  · rcases List.mem_cons.1 hx with rfl | hx
    · exact List.prefix_rfl
    · exact h.grows x hx
  · rcases List.mem_cons.1 hx with rfl | hx
    · cases hkey
    · exact h.passedOver x hx key hkey

theorem mute (h : Quiet options handlers none s) {m : Moment} (hm : m.IsMute) : Quiet options handlers none (s.record m) := by
  obtain ⟨htakes, haccounts, hpassed⟩ := hm.free options handlers s.context.acknowledged s.trace
  have hsilent : s.IsNew (m.takesUp? s.trace) := by
    rw [htakes]
    exact nofun
  exact hpassed ▸ h.record m hsilent haccounts

theorem touch (h : Quiet options handlers none s) (event : Event) (hnew : s.IsNew (subject? s.trace))
    (hown : ∀ subject ∈ subject? s.trace, event = subject) :
    (∀ control answer, Quiet options handlers none (s.record (.asked (.press event control) answer))) ∧
    ∀ answer, Quiet options handlers none (s.record (.asked (.dismiss event) answer)) :=
  ⟨fun control answer => h.record (.asked (.press event control) answer) hnew hown,
    fun answer => h.record (.asked (.dismiss event) answer) hnew hown⟩

theorem congr (h : Quiet options handlers due s) {s' : Session σ} (htrace : s'.trace = s.trace)
    (hhandlers : s'.handlers = s.handlers) (hgrows : s.context.acknowledged <+: s'.context.acknowledged)
    (hdue : ∀ key, due = some key → key ∈ s'.context.acknowledged) : Quiet options handlers none s' := by
  refine ⟨htrace ▸ h.always, fun x hx => ?_, fun x hx key hkey => .inl ?_, fun hoption => hhandlers.trans (h.handlers hoption)⟩
  · exact (h.grows x (htrace ▸ hx)).trans hgrows
  · exact (h.passedOver x (htrace ▸ hx) key hkey).elim (fun hmem => hgrows.subset hmem) (hdue key)

theorem same (h : Quiet options handlers none s) {s' : Session σ} (htrace : s'.trace = s.trace)
    (hhandlers : s'.handlers = s.handlers) (hsame : s'.context.acknowledged = s.context.acknowledged) :
    Quiet options handlers none s' :=
  h.congr htrace hhandlers (hsame ▸ List.prefix_rfl) nofun

theorem acknowledge (h : Quiet options handlers due s) {key : String} (hdue : ∀ other, due = some other → other = key) :
    Quiet options handlers none (s.onContext (.acknowledge key)) := by
  refine h.congr rfl rfl (Context.acknowledged_prefix key s.context) fun other hother => ?_
  exact hdue other hother ▸ Context.mem_acknowledge key s.context

end Quiet

theorem keptBy_quiet : KeptBy Moment.IsMute fun s : Session σ => Quiet options handlers none s :=
  ⟨fun _ => trivial, fun _ _ hm hs => hs.mute hm, fun _ _ hs => hs.same rfl rfl rfl⟩

theorem quiet_acts : KeptByActs fun s : Session σ => Quiet options handlers due s where
  record _ _ := False.elim
  obey s act _ hs := by
    have hacted := hs.acted act
    cases act <;> exact ⟨hacted.always, hacted.grows, hacted.passedOver, hacted.handlers⟩
  host _ _ hs := ⟨hs.always, hs.grows, hs.passedOver, hs.handlers⟩
  clock _ _ _ hs := ⟨hs.always, hs.grows, hs.passedOver, hs.handlers⟩

theorem keptBy_isNew (event? : Option Event) : KeptBy (fun _ => True) fun s : Session σ => s.IsNew event? :=
  ⟨fun _ => trivial, fun _ _ _ => id, fun _ _ => id⟩

theorem quiet_mute {e : Operation σ} (he : e.Adds Moment.IsMute)
    (hedit : ∀ f, e = .edit f → ∀ s, Quiet options handlers none s → Quiet options handlers none (f s)) :
    e.Keeps env (Quiet options handlers none) fun _ => Quiet options handlers none :=
  keptBy_quiet.keeps he fun f hf _ => hedit f hf

theorem quiet_routine {e : Operation σ} (he : e.Routine) :
    e.Keeps env (Quiet options handlers none) fun _ => Quiet options handlers none :=
  quiet_mute (he.1.mono fun _ => Moment.IsRoutine.isMute) fun f hf s hs =>
    hs.same (he.2 f hf s).1.trace (he.2 f hf s).1.handlers (he.2 f hf s).2

theorem ensures_finish_quiet (outcome : Outcome) :
    Ensures (Quiet options handlers none) (finishOutcome env outcome) (fun _ => Quiet options handlers none)
      fun _ => Quiet options handlers none :=
  ensures_finishOutcome (fun _ he => quiet_routine (he.routine nofun)) (fun _ => id) fun _ hs => hs.same rfl rfl rfl

/-! ### Handlers -/

structure Treating (options : RunOptions) (handlers : List Handler) (event : Event) (s : Session σ) : Prop
    extends Quiet options handlers none s where
  subject : subject? s.trace = some event
  isNew : s.IsNew (some event)

def Moment.Treats (event : Event) : Moment → Prop
  | .asked (.press other _) _ | .asked (.dismiss other) _ => other = event
  | m => m.IsMute

theorem keptBy_treating (event : Event) :
    KeptBy (Moment.Treats event) fun s : Session σ => Treating options handlers event s where
  acted _ := trivial
  world _ _ hs := ⟨hs.same rfl rfl rfl, hs.subject, hs.isNew⟩
  record s m hm hs := by
    have htouch := hs.touch event (hs.subject ▸ hs.isNew) fun subject hsubject =>
      Option.some.inj (hs.subject.symm.trans hsubject)
    unfold Moment.Treats at hm
    split at hm
    · exact ⟨hm ▸ htouch.1 _ _, hs.subject, hs.isNew⟩
    · exact ⟨hm ▸ htouch.2 _, hs.subject, hs.isNew⟩
    · refine ⟨hs.mute hm, ?_, hs.isNew⟩
      rw [← hs.subject]
      show subject? (_ :: _) = _
      rw [subject?]
      split <;> rename_i heq
      · cases heq
        exact hm.elim
      · cases heq
        exact hm.elim
      · rfl

theorem Treating.handled (env : Env σ) (hs : Treating options handlers event s) (step : Nat) (id : String) (outcome : Outcome) :
    Quiet options handlers none (s.told env (.interruptionHandled step id outcome)) := by
  have hsome : (subject? s.trace).isSome = true := by rw [hs.subject]; rfl
  have hnew : s.IsNew (subject? s.trace) := hs.subject ▸ hs.isNew
  have hrecord := hs.record (.progress (.interruptionHandled step id outcome)) hnew hsome
  exact quiet_acts.afterReport env.host.within_all hrecord

/-- **A handler touches only the event that it is applied to.** -/
theorem ensures_applyHandler_quiet (event : Event) (h : Handler) :
    Ensures (Treating options handlers event) (applyHandler env event h) (fun _ => Quiet options handlers none)
      fun _ => Quiet options handlers none := by
  let F : Operation σ → Prop := fun e => e.Keeps env (Treating options handlers event) fun _ => Treating options handlers event
  have hkeeps : ∀ e : Operation σ, e.Adds (Moment.Treats event) → (∀ f, e ≠ .edit f) → F e := fun e he hedit =>
    (keptBy_treating event).keeps he fun f hf => absurd hf (hedit f)
  have hactions : Does env F (h.actions.forM (applyAction env event)) := .forM fun action => by
    cases action with
    | press control => exact .ask (hkeeps _ (fun _ => rfl) nofun)
    | dismiss       => exact .ask (hkeeps _ (fun _ => rfl) nofun)
    | wait ms =>
      refine does_sleep _ fun e he => ?_
      cases he with
      | sleep ms => exact hkeeps _ trivial nofun
      | stopped  => exact hkeeps _ trivial nofun
  refine .bind ((hactions.ensures (fun _ => id) fun _ => id).imp (fun _ => id) (fun _ _ => id) fun _ _ hs => hs.toQuiet)
    fun _ => .read fun s₀ hs₀ => ?_
  refine .bind (R := fun _ => Quiet options handlers none) (.report fun s hs => ?_) fun _ => ensures_finish_quiet _
  subst hs
  exact hs₀.handled env _ _ _

/-! ### Decisions -/

structure Asking (options : RunOptions) (handlers : List Handler) (r : DecisionRequest) (s : Session σ) : Prop
    extends Quiet options handlers none s where
  asked : lastRequest? s.trace = some r
  alone : subject? s.trace = none

/-- Moments that neither take up an event nor ask for a decision, and touching the surface where no handler is
applied. -/
def Moment.IsUnasked : Moment → Prop
  | .asked (.press ..) _ | .asked (.dismiss _) _ => True
  | m => m.IsMute

theorem keptBy_asking (r : DecisionRequest) : KeptBy Moment.IsUnasked fun s : Session σ => Asking options handlers r s where
  acted _ := trivial
  world _ _ hs := ⟨hs.same rfl rfl rfl, hs.asked, hs.alone⟩
  record s m hm hs := by
    have hnone : ∀ subject, subject ∉ subject? s.trace := by
      rw [hs.alone]
      exact nofun
    have htouch : ∀ event, _ := fun event => hs.touch event (fun _ h => absurd h (hnone _)) fun _ h => absurd h (hnone _)
    unfold Moment.IsUnasked at hm
    split at hm
    · exact ⟨(htouch _).1 _ _, hs.asked, hs.alone⟩
    · exact ⟨(htouch _).2 _, hs.asked, hs.alone⟩
    · refine ⟨hs.mute hm, ?_, ?_⟩
      · rw [← hs.asked]
        show lastRequest? (_ :: _) = _
        rw [lastRequest?]
        split <;> rename_i heq
        · cases heq
          exact hm.elim
        · rfl
      · rw [← hs.alone]
        show subject? (_ :: _) = _
        rw [subject?]
        split <;> rename_i heq
        · cases heq
          exact hm.elim
        · cases heq
          exact hm.elim
        · rfl

theorem keptBy_asking_new (r : DecisionRequest) :
    KeptBy Moment.IsUnasked fun s : Session σ => Asking options handlers r s ∧ s.IsNew r.event :=
  ⟨fun _ => trivial, fun s m hm hs => ⟨(keptBy_asking r).record s m hm hs.1, hs.2⟩,
    fun s w hs => ⟨(keptBy_asking r).world s w hs.1, hs.2⟩⟩

theorem Asking.same (h : Asking options handlers r s) {s' : Session σ} (htrace : s'.trace = s.trace)
    (hhandlers : s'.handlers = s.handlers) (hgrows : s.context.acknowledged <+: s'.context.acknowledged) :
    Asking options handlers r s' :=
  ⟨h.congr htrace hhandlers hgrows nofun, htrace ▸ h.asked, htrace ▸ h.alone⟩

/-- **A decision is asked for on a new event only**, and the decision that comes is for that request. -/
theorem awaitRule_quiet (event? : Option Event) (offered : List String) :
    AwaitRule env event? offered (fun s => Quiet options handlers none s ∧ s.IsNew event?)
      (fun r s => Asking options handlers r s ∧ s.IsNew r.event) (fun r s => Asking options handlers r s ∧ s.IsNew r.event)
      (fun r d s => Asking options handlers r s ∧ d.id = r.id) (fun _ => Quiet options handlers none) where
  begins s hs := by
    have hheld : Quiet options handlers none (s.held (s.request event? offered).id) := hs.1.same rfl rfl rfl
    have hrecord := hheld.record (.progress (.decisionRequested (s.request event? offered))) hs.2 trivial
    exact (keptBy_asking_new _).accept _ _ ⟨⟨hrecord, rfl, rfl⟩, hs.2⟩
  put r s hs _ := by
    have hrecord := hs.1.record (.asked (.request r) (env.host.answer (.request r) s.world.host).answer) hs.2 trivial
    exact (keptBy_asking_new r).accept _ _ ⟨⟨hrecord, hs.1.asked, hs.1.alone⟩, hs.2⟩
  refused r s e hs _ := by
    have hrecord := hs.1.record (.asked (.request r) (env.host.answer (.request r) s.world.host).answer) hs.2 trivial
    exact ((keptBy_quiet).accept _ _ hrecord).same rfl rfl rfl
  stopped r s hs _ := hs.1.toQuiet.same rfl rfl rfl
  taken r s d rest hs _ htake := ⟨hs.1.same rfl rfl List.prefix_rfl, (takeDecision_eq_some_iff.1 htake).1⟩
  missed r s rest hs _ _ :=
    (keptBy_asking_new r).rested _ _ _ trivial ⟨hs.1.same rfl rfl List.prefix_rfl, hs.2⟩
  outOfFuel r s hs := hs.1.toQuiet

theorem Moment.IsLook.isUnasked {m : Moment} (h : m.IsLook) : m.IsUnasked := by
  unfold Moment.IsLook at h
  split at h <;> first | exact h.elim | trivial

theorem Carries.isUnasked {d : Decision} {e : Operation σ} (h : Carries event d e) : e.Adds Moment.IsUnasked := by
  cases h with
  | settle _ _ h => exact h.adds fun _ => Moment.IsLook.isUnasked
  | acknowledge  => trivial
  | select _ _ _ | detect _ _ | followUp _ _ _ _ | dismiss _ => exact fun _ => trivial

theorem asking_carries {d : Decision} {e : Operation σ} (he : Carries event d e) :
    e.Keeps env (Asking options handlers r) fun _ => Asking options handlers r := by
  refine (keptBy_asking r).keeps he.isUnasked fun f hf hblind s hs => ?_
  subst hf
  cases he with
  | settle _ _ h => cases h
  | acknowledge  => exact hs.same rfl rfl (Context.acknowledged_prefix event.patternKey s.context)

theorem ensures_carryOut_quiet (event : Event) (d : Decision) :
    Ensures (Asking options handlers r) (carryOut env event d)
      (fun _ s => Asking options handlers r s ∧ (d.action = .ignore → event.patternKey ∈ s.context.acknowledged))
      fun _ => Quiet options handlers none := by
  have hkeeps : Ensures (Asking options handlers r) (carryOut env event d) (fun _ => Asking options handlers r)
      fun _ => Quiet options handlers none :=
    ((does_carryOut (F := Carries event d) fun _ => id).ensures (fun _ => asking_carries) fun _ => id).imp (fun _ => id)
      (fun _ _ => id) fun _ _ hs => hs.toQuiet
  by_cases hignore : d.action = .ignore
  · unfold carryOut
    rw [hignore]
    refine .bind (R := fun _ s => Asking options handlers r s ∧ event.patternKey ∈ s.context.acknowledged)
      (.modifyContext fun s hs => ?_) fun _ => .pure fun s hs => ⟨hs.1, fun _ => hs.2⟩
    exact ⟨hs.same rfl rfl (Context.acknowledged_prefix event.patternKey s.context),
      Context.mem_acknowledge event.patternKey s.context⟩
  · exact hkeeps.weaken fun _ s hs => ⟨hs, fun h => absurd h hignore⟩

/-- **A notice that was decided on, and what is to be ignored, is acknowledged when the decision is reported.** -/
theorem ensures_conclude_quiet (hlearning : options.learningMode = true) {d : Decision} (hevent : r.event = some event)
    (hid : d.id = r.id) (actions : List HandlerAction) :
    Ensures (fun s => Asking options handlers r s ∧ (d.action = .ignore → event.patternKey ∈ s.context.acknowledged))
      (concludeDecision env event d actions) (fun _ => Quiet options handlers none) fun _ => Quiet options handlers none := by
  have hlearn : Ensures (Quiet options handlers none) (learn env event d actions) (fun _ => Quiet options handlers none)
      fun _ => Quiet options handlers none :=
    ensures_learn_told (fun _ => id) (fun _ s hs => keptBy_quiet.told s _ trivial hs)
      (fun _ _ s hs => ⟨hs.always, hs.grows, hs.passedOver, fun h => nomatch h.symm.trans hlearning⟩) actions
  have hrest : Ensures (fun s => Asking options handlers r s ∧
        (event.kind = .notice ∨ d.action = .ignore → event.patternKey ∈ s.context.acknowledged)) (do
      report env (.decisionApplied d.id (← get).context.stepIndex (some d.action) d.outcome)
      if d.saveRule then learn env event d actions
      finishOutcome env d.outcome) (fun _ => Quiet options handlers none) fun _ => Quiet options handlers none := by
    refine .read fun s₀ ⟨hs₀, hacknowledged⟩ => ?_
    refine .bind (R := fun _ => Quiet options handlers none) (.report fun s hs => ?_) fun _ => ?_
    · subst hs
      have hrecord := hs₀.record (.progress (.decisionApplied d.id s.context.stepIndex (some d.action) d.outcome)) nofun
        ⟨r, event, hs₀.asked, hid.symm, hevent, hacknowledged⟩
      exact keptBy_quiet.accept _ _ hrecord
    · cases d.saveRule with
      | true  => exact .bind hlearn fun _ => ensures_finish_quiet _
      | false => exact ensures_finish_quiet _
  unfold concludeDecision
  dsimp only
  split
  · refine .bind (R := fun _ s => Asking options handlers r s ∧ event.patternKey ∈ s.context.acknowledged)
      (.modifyContext fun s hs => ?_) fun _ => hrest.strengthen fun s hs => ⟨hs.1, fun _ => hs.2⟩
    exact ⟨hs.1.same rfl rfl (Context.acknowledged_prefix event.patternKey s.context),
      Context.mem_acknowledge event.patternKey s.context⟩
  · rename_i hkind
    exact hrest.strengthen fun s hs => ⟨hs.1, fun h => hs.2 (h.resolve_left hkind)⟩

theorem ensures_decideOn_quiet (hlearning : options.learningMode = true) (event : Event) :
    Ensures (fun s => Quiet options handlers none s ∧ s.IsNew (some event)) (decideOn env event)
      (fun _ => Quiet options handlers none) fun _ => Quiet options handlers none := by
  refine .bind ((awaitRule_quiet (some event) _).awaitDecision.imp (fun _ => id) (fun _ _ => id) fun e s hs => ?_) fun d => ?_
  · cases e <;> exact hs
  · rintro s ⟨r, hevent, hasking, hid⟩
    rw [applyDecision_eq]
    exact Ensures.bind (ensures_carryOut_quiet event d) (fun actions => ensures_conclude_quiet hlearning hevent hid actions)
      s hasking

end Keeping

/-! ## Passes -/

section Passes

variable {handlers : List Handler}

/-- **An event that no handler resolves by itself**: a notice is acknowledged at once, where decisions are not asked for
and the run does not stop. -/
theorem ensures_resolveUnhandled_quiet {event : Event} {due : Option String}
    (hdue : ∀ key, due = some key → key = event.patternKey ∧ event.kind = .notice ∧ env.options.learningMode = false ∧
      env.options.runUntilInterception = false) :
    Ensures (fun s => Quiet env.options handlers due s ∧ s.IsNew (some event)) (resolveUnhandled env event)
      (fun _ => Quiet env.options handlers none) fun _ => Quiet env.options handlers none := by
  have hnone : event.kind ≠ .notice ∨ env.options.learningMode = true ∨ env.options.runUntilInterception = true →
      due = none := by
    intro hnot
    cases due with
    | none => rfl
    | some key =>
      obtain ⟨-, hkind, hlearning, huntil⟩ := hdue key rfl
      rw [hlearning, huntil] at hnot
      rcases hnot with hnot | hnot | hnot
      · exact absurd hkind hnot
      · cases hnot
      · cases hnot
  have hcleared : Does env (fun e : Operation σ =>
      e.Keeps env (Quiet env.options handlers none) fun _ => Quiet env.options handlers none)
      (awaitCleared env event.patternKey env.fuel) :=
    does_awaitCleared _ _ (fun _ he => quiet_routine (he.routine nofun)) (fun _ he => quiet_routine (he.routine nofun))
      (quiet_mute (e := .ask .detect) (fun _ => trivial) nofun)
  unfold resolveUnhandled
  dsimp only
  split
  · rename_i huntil
    exact ensures_halting fun s hs => (hnone (.inr (.inr huntil)) ▸ hs.1).same rfl rfl rfl
  · split
    · rename_i hlearning
      rw [hnone (.inr (.inl hlearning))]
      exact ensures_decideOn_quiet hlearning event
    · split
      · rename_i hblocking
        have hkind : event.kind ≠ .notice := fun hkind => by
          rw [hkind] at hblocking
          cases hblocking
        rw [hnone (.inl hkind)]
        refine .bind (R := fun _ => Quiet env.options handlers none) (.modifyContext fun s hs => ?_) fun _ => ?_
        · exact hs.1.same rfl rfl (Context.acknowledged_stall event.patternKey s.context)
        · exact .bind (hcleared.ensures (fun _ => id) fun _ => id) fun _ => .pure fun _ => id
      · refine .bind (R := fun _ => Quiet env.options handlers none) (.modifyContext fun s hs => ?_) fun _ => .pure fun _ => id
        exact hs.1.acknowledge fun other hother => (hdue other hother).1

theorem subject?_detected (env : Env σ) (s : Session σ) (step : Nat) (event : Event) :
    subject? (s.told env (.interruptionDetected step event)).trace = some event := by
  have hacts : ∀ e past act, e.moment = .acted act → subject? (e :: past) = subject? past := fun e past act hact => by
    rw [subject?, hact]
  obtain ⟨acts, e, htrace, honly, he⟩ := s.told_trace env (.interruptionDetected step event)
  rw [htrace, honly.append_eq hacts, subject?, he]

/-- **An event is reported if it is new and not a benign notice**, and a handler is then applied to it and no other. -/
theorem ensures_resolveEvent_quiet {event : Event} (hbenign : event.isBenignNotice = false) :
    Ensures (fun s => Quiet env.options handlers none s ∧ s.IsNew (some event)) (resolveEvent env event)
      (fun _ => Quiet env.options handlers none) fun _ => Quiet env.options handlers none := by
  refine .read fun s₀ ⟨hs₀, hnew⟩ => ?_
  let detected : ProgressEvent := .interruptionDetected s₀.context.stepIndex event
  let due := (Moment.progress detected).passedOver? env.options handlers
  have htold : Quiet env.options handlers due (s₀.told env detected) :=
    quiet_acts.afterReport env.host.within_all (hs₀.record (.progress detected) hnew hbenign)
  have hnew' : (s₀.told env detected).IsNew (some event) := (keptBy_isNew _).told s₀ detected trivial hnew
  have hdue : ∀ key, due = some key → key = event.patternKey ∧ event.kind = .notice ∧ env.options.learningMode = false ∧
      env.options.runUntilInterception = false ∧ ∀ h ∈ findHandler handlers event, h.mode ≠ .auto := by
    intro key hkey
    obtain ⟨hcondition, hkey⟩ := Option.ite_none_right_eq_some.1 hkey
    exact ⟨(Option.some.inj hkey).symm, hcondition⟩
  have hunhandled : Ensures (fun s => Quiet env.options handlers due s ∧ s.IsNew (some event)) (resolveUnhandled env event)
      (fun _ => Quiet env.options handlers none) fun _ => Quiet env.options handlers none :=
    ensures_resolveUnhandled_quiet fun key hkey =>
      have h := hdue key hkey
      ⟨h.1, h.2.1, h.2.2.1, h.2.2.2.1⟩
  refine .bind (R := fun _ s => s = s₀.told env detected) (.report fun s hs => by rw [hs]) fun _ => ?_
  split
  · rename_i h hfound
    split
    · rename_i hauto
      have hnone : due = none := by
        cases hdue' : due with
        | none => rfl
        | some key =>
          obtain ⟨-, -, hlearning, -, hmode⟩ := hdue key hdue'
          rw [hs₀.handlers hlearning] at hfound
          exact absurd hauto (hmode h hfound)
      refine (ensures_applyHandler_quiet event h).strengthen fun s hs => ?_
      subst hs
      exact ⟨hnone ▸ htold, subject?_detected env s₀ _ event, hnew'⟩
    · exact hunhandled.strengthen fun s hs => hs ▸ ⟨htold, hnew'⟩
  · exact hunhandled.strengthen fun s hs => hs ▸ ⟨htold, hnew'⟩

/-- **A pass takes up only what is new.** -/
theorem lookRule_quiet : LookRule env (Quiet env.options handlers none) (fun _ => Quiet env.options handlers none)
    fun _ => Quiet env.options handlers none where
  stopped _ := id
  look := quiet_mute (e := .ask .detect) (fun _ => trivial) nofun
  nothing _ _ hs _ := hs
  benign _ _ _ hs _ _ := hs.acknowledge nofun
  resolve events event s₀ hs₀ hfound hbenign := by
    have hnew : s₀.IsNew (some event) := by
      rintro _ ⟨⟩
      have hcontains := List.find?_some (p := fun e : Event => !s₀.context.acknowledged.contains e.patternKey) hfound
      simpa using hcontains
    exact (ensures_resolveEvent_quiet hbenign).strengthen fun s hs => hs ▸ ⟨hs₀, hnew⟩

theorem passRule_quiet :
    PassRule env (Quiet env.options handlers none) fun _ => Quiet env.options handlers none where
  keeps _ := quiet_routine
  ends _ _ := id
  pass := (lookRule_quiet.passFrom 0 _).recovers
  confirm := by
    refine Ensures.recovers ?_
    rw [confirmStep_eq]
    refine .bind ((awaitRule_quiet none _).awaitDecision.imp (fun s hs => ⟨hs, nofun⟩) (fun _ _ => id) fun e s hs => ?_)
      fun d => ?_
    · cases e <;> exact hs
    · refine (ensures_applyConfirmation (C := Quiet env.options handlers none) (fun s hs => ?_)
        (ensures_finish_quiet d.outcome)).strengthen fun s ⟨_, _, hs, _⟩ => hs.toQuiet
      exact keptBy_quiet.told s _ trivial hs

end Passes

/-! ## Runs -/

theorem silenced_history (env : Env σ) (w : Workflow) (input : RunInput) (world : World σ) :
    Always (Silenced env.options w.handlers) (history env w input world) := by
  have htold : ∀ event, (Moment.progress event).IsMute → ∀ s : Session σ, Quiet env.options w.handlers none s →
      Quiet env.options w.handlers none (s.told env event) := fun event hevent s => keptBy_quiet.told s event hevent
  have hconduct : Ensures (Quiet env.options w.handlers none) (conduct env w input)
      (fun _ => Quiet env.options w.handlers none) fun _ => Quiet env.options w.handlers none :=
    ensures_conduct w input (htold _ trivial) (fun _ => id) (fun _ _ _ _ => htold _ trivial) fun _ =>
      passRule_quiet.executeProgram w.within_analyze
  have hstart : Quiet env.options w.handlers none (world.session w.handlers) :=
    ⟨trivial, fun _ hx => absurd hx List.not_mem_nil, fun _ hx => absurd hx List.not_mem_nil, fun _ => rfl⟩
  obtain ⟨s, hs, htrace⟩ := history_of_conduct (w := w) world hstart hconduct
  exact htrace ▸ hs.always

theorem Moment.IsAct.takesUp?_eq_none {m : Moment} (h : m.IsAct) (past : List Entry) : m.takesUp? past = none := by
  obtain ⟨act, rfl⟩ := h.exists
  rfl

/-- What hushes a key leads to its being acknowledged whenever an event is taken up later. -/
theorem Hushes.acknowledged_later {options : RunOptions} {handlers : List Handler} {e x : Entry}
    {between past : List Entry} {key : String} (h : Hushes options handlers x past key)
    (he : Silenced options handlers e (between ++ x :: past)) (hx : Silenced options handlers x past)
    (hown : ¬e.moment.IsAct) : key ∈ e.context.acknowledged := by
  have hmem : x ∈ between ++ x :: past := List.mem_append_right _ (.head _)
  cases h with
  | acknowledged hkey => exact (he.grows x hmem).subset hkey
  | passedOver hkey   => exact he.passedOver.resolve_left hown x hmem key hkey
  | decided id step action outcome r event happlied hasked hevent hkind hkey =>
    have haccounts := hx.accounts
    rw [happlied] at haccounts
    obtain ⟨r', event', hasked', -, hevent', hacknowledged⟩ := haccounts
    cases hasked.symm.trans hasked'
    cases hevent.symm.trans hevent'
    exact hkey ▸ (he.grows x hmem).subset (hacknowledged hkind)

/-- **Acknowledged means silent for the rest of the run.**  In every run, whatever its host does, the keys that are
acknowledged only grow, and no event whose key is among them is reported, has a handler applied to it, or is asked about;
a benign notice is never reported.  So once a key is acknowledged, a notice with it was reported that no handler resolves,
where neither decisions are asked for nor the run stops, or a decision was applied to a notice with it or to ignore a
dialog with it, no event with that key is taken up any more. -/
theorem acknowledged_stays_silent (env : Env σ) (w : Workflow) (input : RunInput) (world : World σ) :
    Always (Silenced env.options w.handlers) (history env w input world) ∧
    ∀ later e between x past, history env w input world = later ++ e :: (between ++ x :: past) →
      ∀ key, Hushes env.options w.handlers x past key →
        ∀ event ∈ e.moment.takesUp? (between ++ x :: past), event.patternKey ≠ key := by
  have halways := silenced_history env w input world
  refine ⟨halways, fun later e between x past hsplit key hhushes event hevent heq => ?_⟩
  rw [hsplit] at halways
  have he : Silenced env.options w.handlers e (between ++ x :: past) := halways.split
  have hx : Silenced env.options w.handlers x past := by
    have hsplit : later ++ e :: (between ++ x :: past) = (later ++ e :: between) ++ x :: past := by
      rw [List.append_assoc, List.cons_append]
    exact (hsplit ▸ halways).split
  have hown : ¬e.moment.IsAct := fun hact => by
    rw [hact.takesUp?_eq_none] at hevent
    cases hevent
  exact he.silent event hevent (heq ▸ hhushes.acknowledged_later he hx hown)

def reminding : Host Unit where
  answer q s :=
    match q with
    | .detect => ⟨.ok [⟨.notice, "Period closes today", "Period closes today", []⟩], s, []⟩
    | q       => Host.inert.answer q s
  observe := Host.inert.observe
  elapse := Host.inert.elapse
  hasClipboard := false

/-- Four passes find the notice, and the first reports it. -/
example :
    let step : Step := { kind := .action .click { target := some "#x" } }
    let trace := history ⟨reminding, {}, {}, 10, ⟨0, 0⟩⟩ { steps := [step, step] } ⟨⟨"", []⟩, []⟩ { host := () }
    (trace.filter fun e => e.moment matches .progress (.interruptionDetected ..)).length = 1 := by
  decide +kernel

end FormReplay
