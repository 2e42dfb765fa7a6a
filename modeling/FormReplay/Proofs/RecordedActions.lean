import FormReplay.Proofs.Replay
/-!
# What a learned rule records

A decision lists its actions beside carrying them out, and a rule that is learned from it stores the list.  The list is
what the surface received, in order, but for one case: a follow-up that no event offers, once the surface was looked at
again, is not pressed and is listed all the same.
-/
namespace FormReplay

variable {σ : Type} {env : Env σ}

/-! ## What the surface receives -/

def Moment.touch? : Moment → Option HandlerAction
  | .asked (.press _ control) _ => some (.press control)
  | .asked (.dismiss _) _       => some .dismiss
  | _                           => none

def received (trace : List Entry) : List HandlerAction := (trace.filterMap (·.moment.touch?)).reverse

/-- Since the first session the surface received these presses and dismissals, and these detections found something. -/
structure Session.Did (s₀ : Session σ) (got : List HandlerAction) (seen : List (List Event)) (s : Session σ) : Prop where
  received : received s.trace = received s₀.trace ++ got
  sightings : sightings s.trace = sightings s₀.trace ++ seen

def Moment.IsUntouching (m : Moment) : Prop := m.touch? = none ∧ m.sighting? = none

theorem Moment.IsLook.isUntouching {m : Moment} (h : m.IsLook) : m.IsUntouching := by
  unfold Moment.IsLook at h
  split at h <;> first | exact ⟨rfl, rfl⟩ | exact h.elim

section Keeping

variable {s₀ : Session σ} {got : List HandlerAction} {seen : List (List Event)}

theorem Session.did_refl (s : Session σ) : s.Did [] [] s := ⟨(List.append_nil _).symm, (List.append_nil _).symm⟩

theorem keptBy_did : KeptBy Moment.IsUntouching (s₀.Did got seen) where
  acted _ := ⟨rfl, rfl⟩
  record s m hm hs := by
    have hreceived : FormReplay.received (s.record m).trace = FormReplay.received s.trace :=
      congrArg List.reverse (List.filterMap_cons_none hm.1)
    have hsightings : FormReplay.sightings (s.record m).trace = FormReplay.sightings s.trace :=
      congrArg List.reverse (List.filterMap_cons_none hm.2)
    exact ⟨hreceived.trans hs.received, hsightings.trans hs.sightings⟩
  world _ _ hs := ⟨hs.received, hs.sightings⟩

theorem keptBy_did_handlers (P : List Handler → Prop) :
    KeptBy Moment.IsUntouching fun s => s₀.Did got seen s ∧ P s.handlers where
  acted _ := ⟨rfl, rfl⟩
  record s m hm hs := ⟨keptBy_did.record s m hm hs.1, hs.2⟩
  world s w hs := ⟨keptBy_did.world s w hs.1, hs.2⟩

theorem Rests.keeps_did {reason : SleepReason} {e : Operation σ} (h : Rests reason e) :
    e.Keeps env (s₀.Did got seen) fun _ => s₀.Did got seen := by
  refine keptBy_did.keeps (h.adds fun _ hm => hm.isUntouching) fun f hf => ?_
  subst hf
  cases h

namespace Session.Did

variable {s : Session σ}

theorem touched {q : Query} {touch : HandlerAction} (htouch : ∀ r, (Moment.asked q r).touch? = some touch)
    (hsighting : ∀ r, (Moment.asked q r).sighting? = none) (h : s₀.Did got seen s) :
    s₀.Did (got ++ [touch]) seen (s.answered env q) := by
  refine keptBy_did.accept _ _ ⟨?_, ?_⟩
  · have hreceived : ∀ r, FormReplay.received (s.record (.asked q r)).trace = FormReplay.received s.trace ++ [touch] := by
      intro r
      simp only [FormReplay.received, Session.record, List.filterMap_cons, htouch, List.reverse_cons]
    rw [hreceived, h.received, List.append_assoc]
  · have hsightings : ∀ r, FormReplay.sightings (s.record (.asked q r)).trace = FormReplay.sightings s.trace :=
      fun r => congrArg List.reverse (List.filterMap_cons_none (hsighting r))
    rw [hsightings, h.sightings]

theorem detected {events : List Event} (hanswer : (env.host.answer .detect s.world.host).answer = .ok events)
    (h : s₀.Did got seen s) : s₀.Did got (seen ++ [events]) (s.answered env .detect) := by
  refine keptBy_did.accept _ _ ⟨h.received, ?_⟩
  have hsightings : FormReplay.sightings (s.record (.asked .detect (.ok events))).trace =
      FormReplay.sightings s.trace ++ [events] := List.reverse_cons ..
  rw [hanswer, hsightings, h.sightings, List.append_assoc]

end Session.Did

/-! ## What a decision lists -/

theorem ensures_press_did (on : Event) (control : String) :
    Ensures (s₀.Did got seen) (ask env (.press on control)) (fun _ => s₀.Did (got ++ [.press control]) seen)
      fun _ _ => True :=
  .ask (fun _ _ hs _ => hs.touched (fun _ => rfl) fun _ => rfl) fun _ _ _ _ => trivial

theorem ensures_pressSelected_did (event : Event) (selected : Option String) :
    Ensures (s₀.Did got seen) (pressSelected env event selected) (fun first => s₀.Did (got ++ first) seen)
      fun _ _ => True := by
  cases selected with
  | none         => exact .pure fun s hs => (List.append_nil got).symm ▸ hs
  | some control => exact .bind (ensures_press_did event control) fun _ => .pure fun _ => id

/-- The follow-up of a decision on the event is offered neither by an event that was seen after its option was pressed,
nor by the event itself. -/
def Decision.Misses (event : Event) (d : Decision) (seen : List (List Event)) (control : String) : Prop :=
  d.action = .press ∧ d.followUpOption = some control ∧
    ∃ events, seen = [events] ∧ ∀ e ∈ event :: events, e.hasControl control = false

/-- The actions that a decision lists are what was received, and the follow-up that it misses. -/
def Decision.Lists (event : Event) (d : Decision) (seen : List (List Event)) (got actions : List HandlerAction) : Prop :=
  (∀ control, d.Misses event seen control → actions = got ++ [.press control]) ∧
    ((∀ control, ¬d.Misses event seen control) → actions = got)

theorem Decision.lists_of_none {event : Event} {d : Decision} (h : d.action = .press → d.followUpOption = none)
    (seen : List (List Event)) (got : List HandlerAction) : d.Lists event seen got got := by
  refine ⟨fun control ⟨haction, hfollow, _⟩ => ?_, fun _ => rfl⟩
  cases (h haction).symm.trans hfollow

end Keeping

section Listing

variable {s₀ : Session σ} {event : Event} {d : Decision}

/-- **The follow-up is pressed, or missed and listed.** -/
theorem ensures_pressFollowUp_did {control : String} (haction : d.action = .press)
    (hfollow : d.followUpOption = some control) (first : List HandlerAction) :
    Ensures (s₀.Did first []) (pressFollowUp env event (some control))
      (fun second s => ∃ got seen, s₀.Did got seen s ∧ d.Lists event seen got (first ++ second)) fun _ _ => True := by
  have hsettle : Does env (Rests .settle) (sleep env .settle env.config.settleDelay) := does_sleep _ fun _ => id
  refine .bind (hsettle.ensures (fun e he => he.keeps_did.weaken (fun _ _ _ => trivial) he.ne_observe)
    fun _ _ => trivial) fun _ => ?_
  refine .bind (R := fun events => s₀.Did first [events]) (.ask (fun s _ hs hanswer => hs.detected hanswer)
    fun _ _ _ _ => trivial) fun events => ?_
  have hpressed : ∀ on : Event, on ∈ event :: events → on.hasControl control = true →
      Ensures (s₀.Did first [events]) (do ask env (.press on control); pure [HandlerAction.press control])
        (fun second s => ∃ got seen, s₀.Did got seen s ∧ d.Lists event seen got (first ++ second)) fun _ _ => True := by
    refine fun on hon hoffers => .bind (ensures_press_did on control) fun _ => .pure fun s hs =>
      ⟨_, _, hs, ?_, fun _ => rfl⟩
    rintro control' ⟨-, hfollow', events', hevents, hnone⟩
    cases hfollow.symm.trans hfollow'
    cases hevents
    cases (hnone on hon).symm.trans hoffers
  dsimp only
  split
  · rename_i offering hfind
    have hoffers : offering.hasControl control = true := List.find?_some (p := fun e : Event => e.hasControl control) hfind
    exact hpressed offering (.tail _ (List.mem_of_find?_eq_some hfind)) hoffers
  · rename_i hnone
    split
    · rename_i hoffers
      exact hpressed event (.head _) hoffers
    · rename_i hoffers
      have hmissed : d.Misses event [events] control := by
        refine ⟨haction, hfollow, events, rfl, List.forall_mem_cons.2 ⟨?_, fun e he => ?_⟩⟩
        · exact Bool.eq_false_iff.2 hoffers
        · exact Bool.eq_false_iff.2 (List.find?_eq_none.1 hnone e he)
      refine .pure fun s hs => ⟨_, _, hs, fun control' ⟨_, hfollow', _⟩ => ?_, fun hno => absurd hmissed (hno control)⟩
      cases hfollow.symm.trans hfollow'
      rfl

/-- **What a decision lists once it was carried out.** -/
theorem ensures_carryOut_did (s₀ : Session σ) (event : Event) (d : Decision) :
    Ensures (· = s₀) (carryOut env event d)
      (fun actions s => ∃ got seen, s₀.Did got seen s ∧ d.Lists event seen got actions) fun _ _ => True := by
  have hnothing : ∀ s : Session σ, s = s₀ → s₀.Did [] [] s := fun s hs => hs ▸ s.did_refl
  unfold carryOut
  cases haction : d.action with
  | press =>
    refine .bind ((ensures_pressSelected_did event d.selectedOption).strengthen hnothing) fun first => ?_
    cases hfollow : d.followUpOption with
    | none =>
      refine .bind (R := fun second s => s₀.Did first [] s ∧ second = []) (.pure fun s hs => ⟨hs, rfl⟩) fun second =>
        .pure fun s ⟨hs, hsecond⟩ => ⟨first, [], hs, ?_⟩
      rw [hsecond, List.append_nil]
      exact Decision.lists_of_none (fun _ => hfollow) _ _
    | some control =>
      exact .bind (ensures_pressFollowUp_did haction hfollow first) fun second => .pure fun _ => id
  | dismiss =>
    refine .bind (R := fun _ => s₀.Did [.dismiss] []) (.ask (fun s _ hs _ => ?_) fun _ _ _ _ => trivial) fun _ =>
      .pure fun s hs => ⟨_, _, hs, Decision.lists_of_none (fun hpress => ?_) _ _⟩
    · exact (hnothing s hs).touched (fun _ => rfl) fun _ => rfl
    · cases haction.symm.trans hpress
  | ignore =>
    refine .bind (R := fun _ => s₀.Did [] []) (.modifyContext fun s hs => ?_) fun _ =>
      .pure fun s hs => ⟨_, _, hs, Decision.lists_of_none (fun hpress => ?_) _ _⟩
    · exact ⟨(hnothing s hs).received, (hnothing s hs).sightings⟩
    · cases haction.symm.trans hpress

/-! ## What a rule stores -/

def Stores (event : Event) (d : Decision) (actions : List HandlerAction) (handlers : List Handler) : Prop :=
  ∃ h ∈ handlers, h.actions = actions ∧ ∃ id time, h.isEquivalent (handlerOf event d actions id time) = true

theorem ensures_learn_stores {got : List HandlerAction} {seen : List (List Event)} (actions : List HandlerAction)
    {E : Halt → Session σ → Prop} :
    Ensures (s₀.Did got seen) (learn env event d actions)
      (fun _ s => s₀.Did got seen s ∧ Stores event d actions s.handlers) E := by
  refine .read fun s₁ hs₁ => ?_
  dsimp only
  generalize hdef : handlerOf event d actions _ _ = h
  have hactions : h.actions = actions := hdef ▸ rfl
  split
  · rename_i hany
    obtain ⟨g, hg, hequivalent⟩ := List.any_eq_true.1 hany
    have hsame : g.actions = h.actions := by
      simp only [Handler.isEquivalent, Bool.and_eq_true, beq_iff_eq] at hequivalent
      exact hequivalent.1.2
    exact .pure fun s hs => hs ▸ ⟨hs₁, g, hg, hsame.trans hactions, _, _,
      (congrArg (g.isEquivalent · = true) hdef).mpr hequivalent⟩
  · refine .bind (R := fun _ => s₀.Did got seen) (.report fun s hs => ?_) fun _ => .modify fun s hs => ?_
    · exact hs ▸ keptBy_did.told s₁ _ ⟨rfl, rfl⟩ hs₁
    · refine ⟨⟨hs.received, hs.sightings⟩, h, List.mem_append_right _ (.head _), hactions, _, _,
        (congrArg (h.isEquivalent · = true) hdef).mpr ?_⟩
      simp [Handler.isEquivalent]

theorem ensures_finish_did {got : List HandlerAction} {seen : List (List Event)} (P : List Handler → Prop)
    (outcome : Outcome) :
    Ensures (fun s => s₀.Did got seen s ∧ P s.handlers) (finishOutcome env outcome)
      (fun _ s => s₀.Did got seen s ∧ P s.handlers) fun _ s => s₀.Did got seen s ∧ P s.handlers := by
  have hkept : KeptBy Moment.IsUntouching fun s => s₀.Did got seen s ∧ P s.handlers := keptBy_did_handlers P
  refine ensures_finishOutcome (fun e he => hkept.keeps (he.adds fun _ hm => hm.isUntouching) fun f hf => ?_) (fun _ => id)
    fun s hs => hkept.world s _ hs
  subst hf
  cases he

end Listing

/-- **What a learned rule records.**  From a decision that was carried out a rule is to be learned.  Then its rule is
stored, or an equivalent one, and its actions are in order the presses and dismissals that the surface received while the
decision was applied, whatever the outcome led to.  The one exception is a follow-up that neither an event that was seen
after the option was pressed nor the event itself offers: the surface did not receive it, and the rule has it at its end. -/
theorem learned_rule_records_what_was_received (env : Env σ) (event : Event) (d : Decision) (s s₁ : Session σ)
    (actions : List HandlerAction) (hsave : d.saveRule = true) (hdone : carryOut env event d s = .ok actions s₁) :
    let s' := s.after (applyDecision env event d)
    ∃ got seen,
      received s'.trace = received s.trace ++ got ∧ sightings s'.trace = sightings s.trace ++ seen ∧
      Stores event d actions s'.handlers ∧
      (∀ control, d.Misses event seen control → actions = got ++ [.press control]) ∧
      ((∀ control, ¬d.Misses event seen control) → actions = got) := by
  obtain ⟨got, seen, hdid, hlists⟩ := (ensures_carryOut_did s event d).ok rfl hdone
  have hconclude : Ensures (s.Did got seen) (concludeDecision env event d actions)
      (fun _ s' => s.Did got seen s' ∧ Stores event d actions s'.handlers)
      fun _ s' => s.Did got seen s' ∧ Stores event d actions s'.handlers := by
    refine ensures_concludeDecision (D := s.Did got seen) (fun _ hs => ⟨hs.received, hs.sightings⟩)
      (fun s' hs => keptBy_did.told s' _ ⟨rfl, rfl⟩ hs) (fun _ => ensures_learn_stores actions) (fun hskip => ?_)
      (ensures_finish_did _ d.outcome)
    cases hsave.symm.trans hskip
  intro s'
  have hs' : s' = s₁.after (concludeDecision env event d actions) := by
    unfold s'
    rw [applyDecision_eq, Session.after_bind hdone]
  obtain ⟨hafter, hstores⟩ :=
    hconclude.after (R := fun s' => s.Did got seen s' ∧ Stores event d actions s'.handlers) hdid
  rw [← hs'] at hafter hstores
  exact ⟨got, seen, hafter.received, hafter.sightings, hstores, hlists.1, hlists.2⟩

/-- "Yes" was pressed on the one dialog and "Close" on the next, and the rule has both. -/
theorem discard_recorded :
    ∃ s₁, carryOut discardingEnv askDiscard discardAndClose undecided = .ok [.press "Yes", .press "Close"] s₁ ∧
      received (undecided.after (applyDecision discardingEnv askDiscard discardAndClose)).trace =
        [.press "Yes", .press "Close"] := by
  obtain ⟨s₁, hdone⟩ : ∃ s₁, carryOut discardingEnv askDiscard discardAndClose undecided =
    .ok [.press "Yes", .press "Close"] s₁ := ⟨_, rfl⟩
  obtain ⟨got, seen, hreceived, hseen, -, -, hlisted⟩ :=
    learned_rule_records_what_was_received discardingEnv askDiscard discardAndClose undecided s₁ _ rfl hdone
  have hsightings : seen = [[discarded]] := hseen.symm.trans (by decide +kernel)
  refine ⟨s₁, hdone, ?_⟩
  rw [hreceived, hlisted fun control => ?_]
  · rfl
  · rintro ⟨-, hfollow, events, hevents, hnone⟩
    cases hfollow
    cases hsightings.symm.trans hevents
    exact absurd (hnone discarded (.tail _ (.head _))) (by decide +kernel)

/-- The surface shows nothing more once "Yes" was pressed, and the rule has a press of "Close" that nothing received. -/
theorem follow_up_recorded_unpressed :
    let s : Session Unit := { world := { host := () } }
    let decided := s.after (applyDecision learner askDiscard discardAndClose)
    (∃ s₁, carryOut learner askDiscard discardAndClose s = .ok [.press "Yes", .press "Close"] s₁) ∧
      decided.learned.map (·.actions) = [[.press "Yes", .press "Close"]] ∧ received decided.trace = [.press "Yes"] := by
  exact ⟨⟨_, rfl⟩, by decide +kernel, by decide +kernel⟩

end FormReplay
