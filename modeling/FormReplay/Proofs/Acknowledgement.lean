import FormReplay.Proofs.Engine.Decision
/-!
# Where acknowledged keys come from

A key is acknowledged for one of two reasons: an event with that key was reported, or a benign notice with that key was
the first new event that a pass found.  Whether a notice is benign is read off its text, and the key is made of its
template, in which parts of the text may have been replaced.  So a notice that is not benign may have the key of one that
is, and then nobody is told of it; it has no other way to be acknowledged unreported.
-/
namespace FormReplay

variable {σ : Type} {env : Env σ}

/-! ## Keys and benign notices -/

theorem EventKind.length_name (a b : EventKind) : a.name.toList.length = b.name.toList.length := by
  cases a <;> cases b <;> simp [EventKind.name]

theorem EventKind.eq_of_name_eq {a b : EventKind} (h : a.name.toList = b.name.toList) : a = b := by
  cases a <;> cases b <;> simp [EventKind.name] at h ⊢

namespace Event

theorem eq_of_patternKey_eq {a b : Event} (h : a.patternKey = b.patternKey) :
    a.kind = b.kind ∧ normalize a.template = normalize b.template := by
  have hlist := congrArg String.toList h
  unfold patternKey at hlist
  simp only [String.toList_append, List.append_assoc] at hlist
  obtain ⟨hkind, hrest⟩ := List.append_inj hlist (EventKind.length_name a.kind b.kind)
  exact ⟨EventKind.eq_of_name_eq hkind, String.toList_inj.1 (List.append_cancel_left hrest)⟩

/-- A benign notice has another text than an event that is not one, and yet its key. -/
structure Hides (twin event : Event) : Prop where
  benign : twin.isBenignNotice = true
  kind : twin.kind = event.kind
  text : twin.text ≠ event.text
  template : normalize twin.template = normalize event.template

theorem Hides.of_patternKey_eq {twin event : Event} (htwin : twin.isBenignNotice = true)
    (hevent : event.isBenignNotice = false) (hkey : twin.patternKey = event.patternKey) : twin.Hides event := by
  obtain ⟨hkind, htemplate⟩ := eq_of_patternKey_eq hkey
  refine ⟨htwin, hkind, fun htext => ?_, htemplate⟩
  have hsame : twin.isBenignNotice = event.isBenignNotice := by
    unfold isBenignNotice
    rw [hkind, htext]
  rw [hsame, hevent] at htwin
  cases htwin

end Event

/-! ## The two reasons -/

namespace Entry

def reported? (x : Entry) : Option Event :=
  match x.moment with
  | .progress (.interruptionDetected _ event) => some event
  | _                                         => none

/-- The event that a pass takes up after this look at the surface: the first one that is not acknowledged. -/
def firstNew? (x : Entry) : Option Event :=
  match x.moment with
  | .asked .detect (.ok events) => events.find? fun event => !x.context.acknowledged.contains event.patternKey
  | _                           => none

end Entry

inductive Reason (trace : List Entry) (key : String) : Prop
  | reported (x : Entry) (event : Event) : x ∈ trace → event ∈ x.reported? → event.patternKey = key → Reason trace key
  | benign (x : Entry) (event : Event) : x ∈ trace → event ∈ x.firstNew? → event.isBenignNotice = true →
      event.patternKey = key → Reason trace key

theorem Reason.cons {trace : List Entry} {key : String} (h : Reason trace key) (e : Entry) : Reason (e :: trace) key := by
  cases h with
  | reported x event hx hevent hkey       => exact .reported x event (.tail _ hx) hevent hkey
  | benign x event hx hevent hbenign hkey => exact .benign x event (.tail _ hx) hevent hbenign hkey

/-- Whatever is acknowledged at an entry has its reason before. -/
def Reasoned (e : Entry) (past : List Entry) : Prop := ∀ key ∈ e.context.acknowledged, Reason past key

/-! ## What a run keeps -/

/-- A property that hangs on the trace and on what is acknowledged only, and that stays as the trace grows. -/
structure Grounded (I : Session σ → Prop) : Prop where
  record (s : Session σ) (m : Moment) : I s → I (s.record m)
  same {s s' : Session σ} : I s → s'.trace = s.trace → s'.context.acknowledged = s.context.acknowledged → I s'

namespace Grounded

variable {I : Session σ → Prop} (h : Grounded I) {e : Operation σ}
include h

theorem keptBy : KeptBy (fun _ => True) I :=
  ⟨fun _ => trivial, fun s m _ => h.record s m, fun _ _ hs => h.same hs rfl rfl⟩

theorem adds (he : e.Adds fun _ => True) (hedit : ∀ f, e ≠ .edit f) : e.Keeps env I fun _ => I :=
  h.keptBy.keeps he fun f hf => absurd hf (hedit f)

theorem edit {f : Session σ → Session σ} (hf : ∀ s, (f s).context.acknowledged = s.context.acknowledged) :
    (Operation.edit f).Keeps env I fun _ => I :=
  fun hblind s hs => h.same hs (hblind.trace_eq s) (hf s)

theorem halt {α : Type} : (Operation.whole (FormReplay.halt : Engine σ α)).Keeps env I fun _ => I :=
  have hensures : Ensures I (FormReplay.halt : Engine σ α) (fun _ => I) fun _ => I :=
    ensures_halting fun _ hs => h.same hs rfl rfl
  hensures

theorem routine (he : e.Routine) : e.Keeps env I fun _ => I :=
  h.keptBy.keeps (he.1.mono fun _ _ => trivial) fun f hf _ s hs => h.same hs (he.2 f hf s).1.trace (he.2 f hf s).2

theorem rests {reason : SleepReason} (he : Rests reason e) : e.Keeps env I fun _ => I := by
  cases he <;> exact h.adds trivial nofun

theorem performs (he : Performs e) : e.Keeps env I fun _ => I := by
  cases he with
  | wait he | settle he   => exact h.rests he
  | halt                  => exact h.halt
  | press _ _ | dismiss _ => exact h.adds (fun _ => trivial) nofun
  | handled _ _ _         => exact h.adds trivial nofun

theorem decides (he : Decides e) : e.Keeps env I fun _ => I := by
  have hadds : e.Adds fun _ => True := he.minor.mono fun _ _ => trivial
  cases he with
  | issue | pending _ | hold | release => exact h.edit fun _ => rfl
  | observe | fail _                   => exact h.adds hadds nofun
  | wait he =>
    cases he with
    | inbox _ => exact h.edit fun _ => rfl
    | _       => exact h.adds hadds nofun

theorem applies {event : Event} {d : Decision} (hown : ∀ s, I s → I (s.onContext (.acknowledge event.patternKey)))
    (he : Applies event d e) : e.Keeps env I fun _ => I := by
  cases he with
  | applied _ | learned _ _ => exact h.adds trivial nofun
  | learn _ _ _             => exact h.edit fun _ => rfl
  | finish he               => exact h.rests he
  | halt                    => exact h.halt
  | carry he =>
    cases he with
    | acknowledge   => exact fun _ => hown
    | settle _ _ he => exact h.rests he
    | select _ _ _ | detect _ _ | followUp _ _ _ _ | dismiss _ => exact h.adds (fun _ => trivial) nofun

theorem awaitDecision (event? : Option Event) (options : List String) :
    Ensures I (FormReplay.awaitDecision env event? options) (fun _ => I) fun _ => I :=
  (does_awaitDecision event? options fun _ => h.decides).ensures (fun _ => id) fun _ => id

end Grounded

structure WithReason (s : Session σ) : Prop where
  always : Always Reasoned s.trace
  now    : ∀ key ∈ s.context.acknowledged, Reason s.trace key

structure MayAcknowledge (key : String) (s : Session σ) : Prop extends WithReason s where
  reason : Reason s.trace key

structure Shown (events : List Event) (s : Session σ) : Prop extends WithReason s where
  shown : ∃ x ∈ s.trace, x.moment = .asked .detect (.ok events) ∧ x.context.acknowledged = s.context.acknowledged

section Keeping

variable {s : Session σ} {key : String}

theorem grounded_withReason : Grounded fun s : Session σ => WithReason s where
  record _ _ hs := ⟨⟨hs.now, hs.always⟩, fun key hkey => (hs.now key hkey).cons _⟩
  same hs htrace hsame := ⟨htrace ▸ hs.always, fun key hkey => htrace ▸ hs.now key (hsame ▸ hkey)⟩

theorem grounded_mayAcknowledge : Grounded fun s : Session σ => MayAcknowledge key s where
  record s m hs := ⟨grounded_withReason.record s m hs.toWithReason, hs.reason.cons _⟩
  same hs htrace hsame := ⟨grounded_withReason.same hs.toWithReason htrace hsame, htrace ▸ hs.reason⟩

theorem grounded_shown (events : List Event) : Grounded fun s : Session σ => Shown events s where
  record s m hs :=
    let ⟨x, hx, hshown⟩ := hs.shown
    ⟨grounded_withReason.record s m hs.toWithReason, x, .tail _ hx, hshown⟩
  same hs htrace hsame := ⟨grounded_withReason.same hs.toWithReason htrace hsame, htrace ▸ hsame ▸ hs.shown⟩

theorem MayAcknowledge.acknowledge (h : MayAcknowledge key s) : MayAcknowledge key (s.onContext (.acknowledge key)) := by
  refine ⟨⟨h.always, fun other hother => ?_⟩, h.reason⟩
  rcases Context.mem_of_mem_acknowledge hother with hother | rfl
  · exact h.now other hother
  · exact h.reason

theorem ensures_applyHandler_reasoned (event : Event) (h : Handler) :
    Ensures (MayAcknowledge key) (applyHandler env event h) (fun _ => MayAcknowledge key) fun _ => MayAcknowledge key :=
  (does_applyHandler (fun _ => grounded_mayAcknowledge.performs) event h).ensures (fun _ => id) fun _ => id

theorem ensures_resolveUnhandled_reasoned (event : Event) :
    Ensures (MayAcknowledge event.patternKey) (resolveUnhandled env event) (fun _ => MayAcknowledge event.patternKey)
      fun _ => MayAcknowledge event.patternKey := by
  have hgrounded : Grounded fun s : Session σ => MayAcknowledge event.patternKey s := grounded_mayAcknowledge
  have hown : ∀ s : Session σ, MayAcknowledge event.patternKey s →
      MayAcknowledge event.patternKey (s.onContext (.acknowledge event.patternKey)) := fun _ hs => hs.acknowledge
  have hdecide : Does env (fun e => e.Keeps env (MayAcknowledge event.patternKey) fun _ => MayAcknowledge event.patternKey)
      (decideOn env event) :=
    .bind (does_awaitDecision _ _ fun _ => hgrounded.decides) fun d => does_applyDecision fun _ => hgrounded.applies hown
  have hcleared : Does env (fun e => e.Keeps env (MayAcknowledge event.patternKey) fun _ => MayAcknowledge event.patternKey)
      (awaitCleared env event.patternKey env.fuel) :=
    does_awaitCleared _ _ (fun _ => hgrounded.rests) (fun _ => hgrounded.rests) (hgrounded.adds (fun _ => trivial) nofun)
  have hstall : ∀ s : Session σ, (s.onContext (.stall event.patternKey)).context.acknowledged = s.context.acknowledged :=
    fun s => Context.acknowledged_stall event.patternKey s.context
  have hdoes := does_resolveUnhandled hgrounded.halt hdecide (hgrounded.edit hstall) hcleared fun _ => hown
  exact hdoes.ensures (fun _ => id) fun _ => id

end Keeping

/-! ## Passes -/

/-- **What is reported may be acknowledged.** -/
theorem ensures_resolveEvent_reasoned (event : Event) :
    Ensures WithReason (resolveEvent env event) (fun _ => WithReason) fun _ => WithReason := by
  have hto : ∀ s : Session σ, MayAcknowledge event.patternKey s → WithReason s := fun _ hs => hs.toWithReason
  refine .read fun s₀ hs₀ => .bind (R := fun _ => MayAcknowledge event.patternKey) (.report fun s hs => ?_) fun _ => ?_
  · subst hs
    have hrecord := grounded_withReason.record s (.progress (.interruptionDetected s.context.stepIndex event)) hs₀
    exact grounded_mayAcknowledge.keptBy.accept _ _ ⟨hrecord, .reported _ event (.head _) rfl rfl⟩
  · have hhandled : ∀ h, Ensures (MayAcknowledge event.patternKey) (applyHandler env event h) (fun _ => WithReason)
        fun _ => WithReason := fun h => (ensures_applyHandler_reasoned event h).imp (fun _ => id) (fun _ => hto) fun _ => hto
    have hunhandled : Ensures (MayAcknowledge event.patternKey) (resolveUnhandled env event) (fun _ => WithReason)
        fun _ => WithReason := (ensures_resolveUnhandled_reasoned event).imp (fun _ => id) (fun _ => hto) fun _ => hto
    split
    · split
      · exact hhandled _
      · exact hunhandled
    · exact hunhandled

theorem Shown.mayAcknowledge {events : List Event} {s : Session σ} (hs : Shown events s) {event : Event}
    (hfound : (events.find? fun event => !s.context.acknowledged.contains event.patternKey) = some event)
    (hbenign : event.isBenignNotice = true) : MayAcknowledge event.patternKey s := by
  obtain ⟨x, hx, hmoment, hsame⟩ := hs.shown
  have hfirst : x.firstNew? = some event := by
    unfold Entry.firstNew?
    rw [hmoment, hsame]
    exact hfound
  exact ⟨hs.toWithReason, .benign x event hx hfirst hbenign rfl⟩

theorem ensures_detect_shown : Ensures WithReason (ask env .detect) Shown fun _ => WithReason := by
  refine .ask (fun s events hs hanswer => ?_) fun s _ hs _ =>
    grounded_withReason.keptBy.answered s .detect (fun _ => trivial) hs
  have hrecord := grounded_withReason.record s (.asked .detect (env.host.answer .detect s.world.host).answer) hs
  exact (grounded_shown events).keptBy.accept _ _ ⟨hrecord, _, .head _, congrArg (Moment.asked .detect) hanswer, rfl⟩

/-- **A pass acknowledges by itself only the benign notices that it finds.** -/
theorem lookRule_reasoned : LookRule env (fun s : Session σ => WithReason s) Shown fun _ => WithReason where
  stopped _ := id
  look := ensures_detect_shown
  nothing _ _ hs _ := hs.toWithReason
  benign _ _ _ hs hfound hbenign := (hs.mayAcknowledge hfound hbenign).acknowledge.toWithReason
  resolve _ event _ hs _ _ := (ensures_resolveEvent_reasoned event).strengthen fun _ heq => heq ▸ hs.toWithReason

theorem passRule_withReason : PassRule env (fun s : Session σ => WithReason s) fun _ => WithReason where
  keeps _ := grounded_withReason.routine
  ends _ _ := id
  pass := (lookRule_reasoned.passFrom 0 _).recovers
  confirm := by
    refine Ensures.recovers ?_
    rw [confirmStep_eq]
    refine .bind (grounded_withReason.awaitDecision none _) fun d => ?_
    have hdoes : Does env (fun e => e.Keeps env WithReason fun _ => WithReason) (applyConfirmation env d) :=
      does_applyConfirmation (fun _ => grounded_withReason.adds trivial nofun) grounded_withReason.halt fun _ =>
        grounded_withReason.rests
    exact hdoes.ensures (fun _ => id) fun _ => id

/-! ## Runs -/

theorem reasoned_history (env : Env σ) (w : Workflow) (input : RunInput) (world : World σ) :
    Always Reasoned (history env w input world) := by
  have htold : ∀ event (s : Session σ), WithReason s → WithReason (s.told env event) := fun event s =>
    grounded_withReason.keptBy.told s event trivial
  have hconduct : Ensures WithReason (conduct env w input) (fun _ => WithReason) fun _ => WithReason :=
    ensures_conduct w input (htold _) (fun _ => id) (fun _ _ _ _ => htold _) fun _ =>
      passRule_withReason.executeProgram w.within_analyze
  have hstart : WithReason (world.session w.handlers) := ⟨trivial, fun _ hkey => absurd hkey List.not_mem_nil⟩
  obtain ⟨s, hs, htrace⟩ := history_of_conduct (w := w) world hstart hconduct
  exact htrace ▸ hs.always

/-- **Nothing is acknowledged without a reason.**  In every run, whatever its host shows, each key that is acknowledged
belongs to an event that was reported before, or to a benign notice that was the first new event when a pass looked.  So an
event that is not a benign notice has its key acknowledged and was not reported, nor was any event with its key, only if it
is a notice and a benign one with another text had the same template, case and spacing apart. -/
theorem acknowledged_for_a_reason (env : Env σ) (w : Workflow) (input : RunInput) (world : World σ) :
    Always Reasoned (history env w input world) ∧
    ∀ later e past, history env w input world = later ++ e :: past →
      ∀ event : Event, event.isBenignNotice = false → event.patternKey ∈ e.context.acknowledged →
        (∃ x ∈ past, ∃ same ∈ x.reported?, same.patternKey = event.patternKey) ∨
        ∃ x ∈ past, ∃ twin ∈ x.firstNew?, twin.Hides event := by
  have halways := reasoned_history env w input world
  refine ⟨halways, fun later e past hsplit event hevent hkey => ?_⟩
  rw [hsplit] at halways
  have he : Reasoned e past := halways.split
  cases he event.patternKey hkey with
  | reported x same hx hsame hkey       => exact .inl ⟨x, hx, same, hsame, hkey⟩
  | benign x twin hx htwin hbenign hkey => exact .inr ⟨x, hx, twin, htwin, .of_patternKey_eq hbenign hevent hkey⟩

/-- Two files are rejected, and the name of the first has a word of the benign notices in it. -/
def rejected : List Event :=
  [.ofText .notice "File \"loading.csv\" was rejected" [], .ofText .notice "File \"orders.csv\" was rejected" []]

/-- A surface on which the notices stay, and a run that is to stop at the first that is not benign. -/
def rejecting : Env Unit where
  host := {
    answer := fun q s =>
      match q with
      | .detect => ⟨.ok rejected, s, []⟩
      | q       => Host.inert.answer q s
    observe := Host.inert.observe
    elapse := Host.inert.elapse
    hasClipboard := false }
  options := { runUntilInterception := true }
  fuel := 10
  epoch := ⟨0, 0⟩

def rejectedHistory : List Entry :=
  history rejecting { steps := [{ kind := .action .click { target := some "#x" } }] } ⟨⟨"p", [.empty]⟩, []⟩ { host := () }

/-- The first notice is why the key of the second is acknowledged. -/
theorem loading_hides_orders :
    ∃ event ∈ rejected, event.isBenignNotice = false ∧ (∃ e ∈ rejectedHistory, event.patternKey ∈ e.context.acknowledged) ∧
      ∃ x ∈ rejectedHistory, ∃ twin ∈ x.firstNew?, twin.Hides event := by
  let event : Event := .ofText .notice "File \"orders.csv\" was rejected" []
  have hevent : event.isBenignNotice = false := by decide +kernel
  have hacknowledged : ∃ e ∈ rejectedHistory, event.patternKey ∈ e.context.acknowledged := by decide +kernel
  have hunreported : ∀ x ∈ rejectedHistory, x.reported? = none := by decide +kernel
  obtain ⟨e, he, hkey⟩ := hacknowledged
  obtain ⟨later, past, hsplit⟩ := List.append_of_mem he
  have hpast : ∀ x ∈ past, x ∈ rejectedHistory := fun x hx => hsplit ▸ List.mem_append_right _ (.tail _ hx)
  refine ⟨event, .tail _ (.head _), hevent, ⟨e, he, hkey⟩, ?_⟩
  rcases (acknowledged_for_a_reason rejecting _ _ _).2 later e past hsplit event hevent hkey with
    ⟨x, hx, same, hsame, -⟩ | ⟨x, hx, twin, htwin, hhides⟩
  · cases (hunreported x (hpast x hx)).symm.trans hsame
  · exact ⟨x, hpast x hx, twin, htwin, hhides⟩

/-- **A benign notice may hide one that is not.**  Once the first notice is acknowledged, nobody is told of the second one:
the run should stop at it, and it completes. -/
theorem benign_twin_hides :
    (∃ event ∈ rejected, event.isBenignNotice = false ∧ (∃ e ∈ rejectedHistory, event.patternKey ∈ e.context.acknowledged) ∧
      ∀ x ∈ rejectedHistory, ∀ same ∈ x.reported?, same.patternKey ≠ event.patternKey) ∧
    ∃ x ∈ rejectedHistory, (x.moment matches .progress (.runEnded (.completed _) ..)) = true := by
  decide +kernel

end FormReplay
