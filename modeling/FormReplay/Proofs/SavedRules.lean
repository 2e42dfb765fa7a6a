import FormReplay.Proofs.Learning
import FormReplay.Proofs.Selection
/-!
# Rules that take effect

A decision may be saved as a rule.  Where no handler applied to the event that was decided on, the rule is the handler
found for it from then on, unless a disabled handler that does the same keeps it out.  And it settles later events of
the same kind, template and controls without a question, unless a pattern finds more in their text.
-/
namespace FormReplay

variable {σ : Type} {env : Env σ}

/-! ## The rule of a decision -/

def Decision.actions (d : Decision) : List HandlerAction :=
  match d.action with
  | .press   => d.selectedOption.toList.map .press ++ d.followUpOption.toList.map .press
  | .dismiss => [.dismiss]
  | .ignore  => []

/-- The decision dismisses the event, or presses an option that the event offers. -/
def Decision.Resolves (d : Decision) (e : Event) : Prop :=
  d.action = .dismiss ∨ d.action = .press ∧ ∃ control, d.selectedOption = some control ∧ e.hasControl control = true

structure Handler.Repeats (h : Handler) (event : Event) (d : Decision) : Prop where
  trigger : h.trigger = ⟨event.kind, event.template, .exact, if d.action = .press then d.selectedOption.toList else []⟩
  actions : h.actions = d.actions
  outcome : h.outcome = d.outcome

theorem Handler.Repeats.isEquivalent {g h : Handler} {event : Event} {d : Decision} (hh : h.Repeats event d) :
    g.isEquivalent h = true ↔ g.Repeats event d := by
  simp only [Handler.isEquivalent, Bool.and_eq_true, beq_iff_eq, hh.trigger, hh.actions, hh.outcome]
  exact ⟨fun h => ⟨h.1.1, h.1.2, h.2⟩, fun h => ⟨⟨h.trigger, h.actions⟩, h.outcome⟩⟩

/-- Two events that no trigger tells apart but by a pattern. -/
structure Event.Alike (e e' : Event) : Prop where
  kind : e'.kind = e.kind
  template : e'.template = e.template
  controls : e'.controls = e.controls

theorem Event.Alike.fires {e e' : Event} (h : e.Alike e') {t : Trigger} (ht : t.matchMode ≠ .regex) :
    t.fires e' = t.fires e := by
  have hcontrol : e'.hasControl = e.hasControl := funext fun c => by unfold Event.hasControl; rw [h.controls]
  have htext : t.fitsText e' = t.fitsText e := by
    unfold Trigger.fitsText
    cases hmode : t.matchMode with
    | contains => rw [h.template]
    | exact    => rw [h.template]
    | regex    => exact absurd hmode ht
  unfold Trigger.fires
  rw [h.kind, htext, hcontrol]

/-- **The rule of a decision fires on its event**, and on every event like it. -/
theorem Handler.Repeats.fires {h : Handler} {event event' : Event} {d : Decision} (hh : h.Repeats event d)
    (hresolves : d.Resolves event) (halike : event.Alike event') : h.trigger.fires event' = true := by
  have hregex : h.trigger.matchMode ≠ .regex := by rw [hh.trigger]; nofun
  rw [halike.fires hregex, hh.trigger]
  have hcontrols : (if d.action = .press then d.selectedOption.toList else []).all event.hasControl = true := by
    rcases hresolves with hdismiss | ⟨hpress, control, hselected, hoffered⟩
    · rw [hdismiss]
      rfl
    · rw [if_pos hpress, hselected]
      simpa using hoffered
  simp only [Trigger.fires, Trigger.fitsText, beq_self_eq_true, Bool.true_and, hcontrols]

structure Handler.Saves (h : Handler) (event : Event) (d : Decision) : Prop extends h.Repeats event d where
  enabled : h.enabled = true
  auto : h.mode = .auto
  priority : h.priority = 0

theorem saves_handlerOf (event : Event) (d : Decision) (id : String) (at_ : Instant) :
    (handlerOf event d d.actions id at_).Saves event d := ⟨⟨rfl, rfl, rfl⟩, rfl, rfl, rfl⟩

section Saving

variable {handlers : List Handler} {h : Handler} {event event' : Event} {d : Decision}

theorem Handler.Saves.applies (hh : h.Saves event d) (hresolves : d.Resolves event) (halike : event.Alike event') :
    h.applies event' = true := by
  rw [Handler.applies, hh.enabled, hh.fires hresolves halike, Bool.and_self]

/-- **Where no handler applies, the rule saved is the handler found.** -/
theorem findHandler_saved (hnone : findHandler handlers event = none) (hh : h.Saves event d)
    (hresolves : d.Resolves event) : findHandler (handlers ++ [h]) event = some h := by
  refine findHandler_eq_some_iff.2 (leads_append_of_above (hh.applies hresolves ⟨rfl, rfl, rfl⟩) fun g hg happlies => ?_)
  rw [findHandler_eq_none_iff.1 hnone g hg] at happlies
  cases happlies

/-- A handler that repeats the decision and does not apply to its event is disabled. -/
theorem Handler.Repeats.enabled_eq_false {g : Handler} (hnone : findHandler handlers event = none) (hg : g.Repeats event d)
    (hmem : g ∈ handlers) (hresolves : d.Resolves event) : g.enabled = false := by
  have hnot : g.applies event = false := findHandler_eq_none_iff.1 hnone g hmem
  rwa [Handler.applies, hg.fires hresolves ⟨rfl, rfl, rfl⟩, Bool.and_true] at hnot

/-- **Later events like the one decided on find a handler that asks for nothing**, unless a pattern finds one that asks
in their text.  What else was learned meanwhile makes no difference. -/
theorem findHandler_later {more : List Handler} (hnone : findHandler handlers event = none) (hh : h.Saves event d)
    (hresolves : d.Resolves event) (halike : event.Alike event') (hmore : ∀ g ∈ more, g.mode = .auto)
    (hpattern : ∀ g ∈ handlers, g.trigger.matchMode = .regex → g.mode = .alwaysAsk → 0 ≤ g.priority →
      g.applies event' = false) :
    ∃ g, findHandler (handlers ++ [h] ++ more) event' = some g ∧ g.mode = .auto := by
  have hmem : h ∈ handlers ++ [h] ++ more := List.mem_append_left _ (List.mem_append_right _ (.head _))
  have happlies : h.applies event' = true := hh.applies hresolves halike
  obtain ⟨g, hg⟩ : ∃ g, findHandler (handlers ++ [h] ++ more) event' = some g := by
    refine Option.ne_none_iff_exists'.1 fun hnot => ?_
    rw [findHandler_eq_none_iff.1 hnot h hmem] at happlies
    cases happlies
  have hleads := findHandler_eq_some_iff.1 hg
  have hgapplies := hleads.applies
  have hgmem := hleads.mem
  refine ⟨g, hg, ?_⟩
  simp only [List.mem_append, List.mem_singleton] at hgmem
  rcases hgmem with (hold | rfl) | hnew
  · cases hmode : g.mode with
    | auto => rfl
    | alwaysAsk =>
      exfalso
      by_cases hregex : g.trigger.matchMode = .regex
      · rw [hpattern g hold hregex hmode (hh.priority ▸ hleads.highest h hmem happlies)] at hgapplies
        cases hgapplies
      · -- Without a pattern it applied to the event decided on as well.
        have hnot : g.applies event = false := findHandler_eq_none_iff.1 hnone g hold
        rw [Handler.applies, ← halike.fires hregex] at hnot
        rw [Handler.applies, hnot] at hgapplies
        cases hgapplies
  · exact hh.auto
  · exact hmore g hnew

/-! ### What the engine saves -/

theorem keeps_handlers {P : List Handler → Prop} {e : Operation σ} (he : e.Ordinary) :
    e.Keeps env (fun s => P s.handlers) fun _ s => P s.handlers := by
  have hkept : KeptBy (fun _ => True) fun s : Session σ => P s.handlers :=
    ⟨fun _ => trivial, fun _ _ _ => id, fun _ _ => id⟩
  exact hkept.keeps (he.1.mono fun _ _ => trivial) fun f hf _ s hs => (he.2 f hf s).handlers ▸ hs

theorem told_handlers (s : Session σ) (e : ProgressEvent) : (s.told env e).handlers = s.handlers :=
  (KeptBy.mk (M := fun _ => True) (fun _ => trivial) (fun _ _ _ => id) fun _ _ => id :
    KeptBy (fun _ => True) fun s' : Session σ => s'.handlers = s.handlers).told s e trivial rfl

theorem returns_carryOut (event : Event) (d : Decision) : Returns (carryOut env event d) (· = d.actions) := by
  have hfollow : ∀ control, Returns (pressFollowUp env event control) (· = control.toList.map .press) := by
    intro control
    cases control with
    | none => exact .pure rfl
    | some control =>
      refine .bind fun _ => .bind fun events => ?_
      dsimp only
      split
      · exact .bind fun _ => .pure rfl
      · split
        · exact .bind fun _ => .pure rfl
        · exact .pure rfl
  have hselect : ∀ control, Returns (pressSelected env event control) (· = control.toList.map .press) := by
    intro control
    cases control with
    | none         => exact .pure rfl
    | some control => exact .bind fun _ => .pure rfl
  unfold carryOut Decision.actions
  cases d.action with
  | press =>
    refine .bindOf (hselect _) fun first hfirst => .bindOf (hfollow _) fun second hsecond => .pure ?_
    rw [hfirst, hsecond]
  | dismiss => exact .bind fun _ => .pure rfl
  | ignore  => exact .bind fun _ => .pure rfl

def Saved (handlers : List Handler) (event : Event) (d : Decision) (s : Session σ) : Prop :=
  ∃ h : Handler, h.Saves event d ∧ s.handlers = handlers ++ [h]

/-- **Learning saves the rule**, for nothing at hand does the same. -/
theorem ensures_learn_saves {E : Halt → Session σ → Prop} (hnone : findHandler handlers event = none)
    (hresolves : d.Resolves event) (hdisabled : ∀ g ∈ handlers, g.enabled = false → ¬g.Repeats event d) :
    Ensures (fun s => s.handlers = handlers) (learn env event d d.actions) (fun _ => Saved handlers event d) E := by
  refine .read fun s₀ hs₀ => ?_
  dsimp only
  generalize hdef : handlerOf event d d.actions _ _ = h
  have hh : h.Saves event d := hdef ▸ saves_handlerOf event d _ _
  split
  · rename_i hany
    obtain ⟨g, hg, hequivalent⟩ := List.any_eq_true.1 hany
    rw [hs₀] at hg
    have hrepeats : g.Repeats event d := hh.toRepeats.isEquivalent.1 hequivalent
    exact absurd hrepeats (hdisabled g hg (hrepeats.enabled_eq_false hnone hg hresolves))
  · refine .bind (R := fun _ s => s.handlers = handlers) (.report fun s hs => ?_) fun _ => .modify fun s hs => ?_
    · rw [told_handlers, hs, hs₀]
    · exact ⟨h, hh, congrArg (· ++ [h]) hs⟩

theorem ensures_finish_saved (outcome : Outcome) :
    Ensures (Saved (σ := σ) handlers event d) (finishOutcome env outcome) (fun _ => Saved handlers event d)
      fun _ => Saved handlers event d :=
  ensures_finishOutcome (fun _ he => keeps_handlers (P := fun hs => ∃ h : Handler, h.Saves event d ∧ hs = handlers ++ [h])
    (he.ordinary nofun)) (fun _ => id) fun _ => id

theorem Session.after_bind {α β : Type} {x : Engine σ α} {f : α → Engine σ β} {s s₁ : Session σ} {a : α}
    (hx : x s = .ok a s₁) : s.after (x >>= f) = s₁.after (f a) := by
  unfold after
  simp only [bind, EStateM.bind, hx]

/-- **Applying a decision saves its rule**, once its actions were carried out. -/
theorem applyDecision_saves {s s₁ : Session σ} {actions : List HandlerAction} (hsave : d.saveRule = true)
    (hnone : findHandler s.handlers event = none) (hresolves : d.Resolves event)
    (hdisabled : ∀ g ∈ s.handlers, g.enabled = false → ¬g.Repeats event d)
    (hdone : carryOut env event d s = .ok actions s₁) :
    Saved s.handlers event d (s.after (applyDecision env event d)) := by
  have hcarry : Ensures (fun s' : Session σ => s'.handlers = s.handlers) (carryOut env event d)
      (fun _ s' => s'.handlers = s.handlers) fun _ s' => s'.handlers = s.handlers :=
    (does_carryOut (F := Carries event d) fun _ => id).ensures
      (fun _ he => keeps_handlers (P := (· = s.handlers)) he.ordinary) fun _ => id
  have hactions : actions = d.actions := (returns_carryOut event d).ok trivial hdone
  rw [applyDecision_eq, Session.after_bind hdone, hactions]
  refine Ensures.after (P := fun s' => s'.handlers = s.handlers) ?_ (hcarry.ok rfl hdone)
  refine ensures_concludeDecision (D := fun s' => s'.handlers = s.handlers) (fun _ hs => hs) (fun s' hs => ?_)
    (fun _ => ensures_learn_saves hnone hresolves hdisabled) (fun hskip => ?_) (ensures_finish_saved d.outcome)
  · exact (told_handlers s' _).trans hs
  · rw [hsave] at hskip
    cases hskip

/-! ### What is not asked -/

def Moment.asks : Moment → Bool
  | .progress (.decisionRequested _) | .asked (.request _) _ => true
  | _ => false

theorem Moment.IsOrdinary.asks_eq_false {m : Moment} (h : m.IsOrdinary) : m.asks = false := by
  unfold Moment.asks
  split <;> first | exact h.elim | rfl

theorem does_applyHandler_quietly (event : Event) (handler : Handler) :
    Does env (Operation.Adds fun m => m.asks = false) (applyHandler env event handler) := by
  refine (does_applyHandler (F := Performs) (fun _ => id) event handler).unfold (fun y hy => ?_) fun e he hwhole => ?_
  · cases hy with
    | halt                => exact does_halt trivial trivial
    | wait he | settle he => cases he
  · cases he with
    | press _ _ | dismiss _ => exact fun _ => rfl
    | handled _ _ _         => exact rfl
    | wait he | settle he   => exact (he.ordinary nofun).1.mono fun _ => Moment.IsOrdinary.asks_eq_false
    | halt                  => exact absurd rfl (hwhole _)

/-- An event that has an automatic handler is resolved without a question. -/
theorem resolveEvent_quiet {s : Session σ} {g : Handler} (hfound : findHandler s.handlers event = some g)
    (hauto : g.mode = .auto) : GrownBy (fun m => m.asks = false) s.trace (s.after (resolveEvent env event)).trace := by
  have hquiet : Does env (Operation.Adds fun m => m.asks = false)
      (do report env (.interruptionDetected s.context.stepIndex event); applyHandler env event g) :=
    .bind (.report rfl) fun _ => does_applyHandler_quietly event g
  have hresolve : resolveEvent env event s =
      (do report env (.interruptionDetected s.context.stepIndex event); applyHandler env event g) s := by
    unfold resolveEvent
    show (report env _ >>= fun _ => _) s = _
    rw [hfound]
    dsimp only
    rw [if_pos hauto]
  have hgrown := (hquiet.grows (fun _ => rfl) s.trace).after (GrownBy.refl _ s.trace)
  unfold Session.after at hgrown ⊢
  rwa [hresolve]

end Saving

/-- **Saving a rule takes effect.**  No handler applied to the event, the decision dismisses it or presses what it offers,
and no disabled handler does the same.  Then, once its actions were carried out, the handler found for the event is
enabled and automatic and does what the decision did.  And a later event like it is resolved by an automatic handler,
without a question, whatever else was learned meanwhile, unless a handler that asks finds its pattern there. -/
theorem saved_rule_takes_effect (env : Env σ) (event : Event) (d : Decision) (s s₁ : Session σ)
    (actions : List HandlerAction) (hsave : d.saveRule = true) (hnone : findHandler s.handlers event = none)
    (hresolves : d.Resolves event) (hdisabled : ∀ g ∈ s.handlers, g.enabled = false → ¬g.Repeats event d)
    (hdone : carryOut env event d s = .ok actions s₁) :
    let handlers := (s.after (applyDecision env event d)).handlers
    (∃ h, findHandler handlers event = some h ∧ h.enabled = true ∧ h.mode = .auto ∧ h.actions = d.actions ∧
      h.outcome = d.outcome) ∧
    ∀ event' more (s' : Session σ), event.Alike event' → s'.handlers = handlers ++ more → (∀ g ∈ more, g.mode = .auto) →
      (∀ g ∈ s.handlers, g.trigger.matchMode = .regex → g.mode = .alwaysAsk → 0 ≤ g.priority →
        g.applies event' = false) →
      (∃ g, findHandler s'.handlers event' = some g ∧ g.mode = .auto) ∧
        GrownBy (fun m => m.asks = false) s'.trace (s'.after (resolveEvent env event')).trace := by
  obtain ⟨h, hh, hhandlers⟩ := applyDecision_saves hsave hnone hresolves hdisabled hdone
  intro handlers
  have hsaved : handlers = s.handlers ++ [h] := hhandlers
  refine ⟨⟨h, ?_, hh.enabled, hh.auto, hh.actions, hh.outcome⟩, fun event' more s' halike hs' hmore hpattern => ?_⟩
  · rw [hsaved]
    exact findHandler_saved hnone hh hresolves
  · obtain ⟨g, hg, hauto⟩ := findHandler_later hnone hh hresolves halike hmore hpattern
    rw [← hsaved, ← hs'] at hg
    exact ⟨⟨g, hg, hauto⟩, resolveEvent_quiet hg hauto⟩

def lockedRecord (text : String) : Event := Event.ofText .dialog text ["OK"]

def pressOk : Decision := { id := .issued 1, selectedOption := some "OK", saveRule := true }

def learner : Env Unit := ⟨Host.inert, {}, { learningMode := true }, 10, ⟨0, 0⟩⟩

def Session.withOnly (h : Handler) : Session Unit := { world := { host := () }, handlers := [h] }

theorem lockedRecord_alike : (lockedRecord "Record 1 is locked").Alike (lockedRecord "Record 2 is locked") :=
  ⟨rfl, by decide +kernel, rfl⟩

theorem pressOk_resolves : pressOk.Resolves (lockedRecord "Record 1 is locked") := .inr ⟨rfl, "OK", rfl, by decide +kernel⟩

/-- A disabled handler that does the same keeps the rule out, and none is found.  And with a handler that asks where it
finds its pattern, the rule is saved, but a later dialog with the pattern in its text is asked about again. -/
theorem saved_rules_miss :
    let event := lockedRecord "Record 1 is locked"
    let later := lockedRecord "Record 2 is locked"
    let rule : Trigger := ⟨.dialog, "Record \x7bn\x7d is locked", .exact, ["OK"]⟩
    let off := Session.withOnly { id := "off", enabled := false, trigger := rule, actions := [.press "OK"] }
    let asks := Session.withOnly { id := "asks", mode := .alwaysAsk, trigger := ⟨.dialog, "2", .regex, []⟩ }
    let saved (s : Session Unit) := s.after (applyDecision learner event pressOk)
    pressOk.saveRule = true ∧ pressOk.Resolves event ∧ event.Alike later ∧
    (findHandler off.handlers event = none ∧ (∃ s₁, carryOut learner event pressOk off = .ok [.press "OK"] s₁) ∧
      findHandler (saved off).handlers event = none) ∧
    (findHandler asks.handlers event = none ∧ (∃ s₁, carryOut learner event pressOk asks = .ok [.press "OK"] s₁) ∧
      (findHandler (saved asks).handlers later).map (·.mode) = some .alwaysAsk ∧
      ((saved asks).after (resolveEvent learner later)).trace.any (·.moment.asks) = true) := by
  refine ⟨rfl, pressOk_resolves, lockedRecord_alike, ?_, ?_⟩
  · exact ⟨by decide +kernel, ⟨_, rfl⟩, by decide +kernel⟩
  · exact ⟨by decide +kernel, ⟨_, rfl⟩, by decide +kernel, by decide +kernel⟩

/-- A handler for other dialogs is no hindrance. -/
theorem locked_record_saved :
    let other : Handler := { id := "other", trigger := ⟨.dialog, "Saved", .contains, []⟩ }
    let s := Session.withOnly other
    let handlers := (s.after (applyDecision learner (lockedRecord "Record 1 is locked") pressOk)).handlers
    (∃ h, findHandler handlers (lockedRecord "Record 1 is locked") = some h ∧ h.enabled = true ∧ h.mode = .auto ∧
      h.actions = [.press "OK"] ∧ h.outcome = .nextStep) ∧
    ∃ g, findHandler handlers (lockedRecord "Record 2 is locked") = some g ∧ g.mode = .auto := by
  intro other s handlers
  obtain ⟨hfound, hlater⟩ := saved_rule_takes_effect learner (lockedRecord "Record 1 is locked") pressOk s
    (s.answered learner (.press (lockedRecord "Record 1 is locked") "OK")) [.press "OK"] rfl (by decide +kernel)
    pressOk_resolves (List.forall_mem_singleton.2 nofun) rfl
  obtain ⟨hresolved, -⟩ := hlater _ [] { s with handlers } lockedRecord_alike (List.append_nil _).symm
    (fun _ hg => absurd hg List.not_mem_nil) (List.forall_mem_singleton.2 nofun)
  exact ⟨hfound, hresolved⟩

end FormReplay
