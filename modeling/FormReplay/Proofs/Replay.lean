import FormReplay.Proofs.SavedRules
/-!
# Rules that are replayed

A decision that presses an option and a follow-up may be saved as a rule.  While it is carried out the follow-up is
pressed on whatever event offers it by then; the rule presses both on the event that it is applied to.  So the presses
of the decision come again with the rule exactly if its follow-up was offered by an event with the same pattern key.
-/
namespace FormReplay

variable {σ : Type} {env : Env σ}

/-! ## What a session does to the surface -/

def Moment.press? : Moment → Option (Event × String)
  | .asked (.press event control) _ => some (event, control)
  | _                               => none

def Moment.sighting? : Moment → Option (List Event)
  | .asked .detect (.ok events) => some events
  | _                           => none

def presses (trace : List Entry) : List (Event × String) := (trace.filterMap (·.moment.press?)).reverse

def sightings (trace : List Entry) : List (List Event) := (trace.filterMap (·.moment.sighting?)).reverse

structure Dealings where
  presses   : List (Event × String)
  sightings : List (List Event)
  learned   : List Handler

namespace Dealings

def press (x : Dealings) (event : Event) (control : String) : Dealings :=
  { x with presses := x.presses ++ [(event, control)] }

def see (x : Dealings) (events : List Event) : Dealings := { x with sightings := x.sightings ++ [events] }

def learn (x : Dealings) (h : Handler) : Dealings := { x with learned := x.learned ++ [h] }

end Dealings

def Session.dealings (s : Session σ) : Dealings := ⟨presses s.trace, sightings s.trace, s.learned⟩

def Moment.LeavesAlone (m : Moment) : Prop := m.press? = none ∧ m.sighting? = none

theorem Moment.IsLook.leavesAlone {m : Moment} (h : m.IsLook) : m.LeavesAlone := by
  unfold Moment.IsLook at h
  split at h <;> first | exact ⟨rfl, rfl⟩ | exact h.elim

theorem keptBy_dealings (P : Dealings → Prop) : KeptBy Moment.LeavesAlone fun s : Session σ => P s.dealings where
  acted _ := ⟨rfl, rfl⟩
  record s m hm hs := by
    have hpresses : presses (s.record m).trace = presses s.trace :=
      congrArg List.reverse (List.filterMap_cons_none hm.1)
    have hsightings : sightings (s.record m).trace = sightings s.trace :=
      congrArg List.reverse (List.filterMap_cons_none hm.2)
    rw [Session.dealings, hpresses, hsightings]
    exact hs
  world _ _ := id

theorem Session.dealings_accept {α : Type} (s : Session σ) (r : Reply σ α) : (s.accept r).dealings = s.dealings :=
  (keptBy_dealings (· = s.dealings)).accept s r rfl

theorem Session.dealings_told (s : Session σ) (e : ProgressEvent) : (s.told env e).dealings = s.dealings :=
  (keptBy_dealings (· = s.dealings)).told s e ⟨rfl, rfl⟩ rfl

theorem Session.dealings_press (s : Session σ) (event : Event) (control : String) :
    (s.answered env (.press event control)).dealings = s.dealings.press event control := by
  rw [answered, dealings_accept]
  exact congrArg (Dealings.mk · _ _) (List.reverse_cons ..)

theorem Session.dealings_detect {s : Session σ} {events : List Event}
    (h : (env.host.answer .detect s.world.host).answer = .ok events) :
    (s.answered env .detect).dealings = s.dealings.see events := by
  rw [answered, dealings_accept, h]
  exact congrArg (Dealings.mk _ · _) (List.reverse_cons ..)

theorem Rests.keeps_dealings {reason : SleepReason} {e : Operation σ} (h : Rests reason e) (P : Dealings → Prop) :
    e.Keeps env (fun s => P s.dealings) fun _ s => P s.dealings := by
  refine (keptBy_dealings P).keeps (h.adds fun _ hm => hm.leavesAlone) fun f hf => ?_
  subst hf
  cases h

theorem ensures_finish_dealings (P : Dealings → Prop) (outcome : Outcome) :
    Ensures (fun s : Session σ => P s.dealings) (finishOutcome env outcome) (fun _ s => P s.dealings)
      fun _ s => P s.dealings :=
  ensures_finishOutcome (fun _ he => he.keeps_dealings P) (fun _ => id) fun _ => id

/-! ## Deciding -/

/-- What a decision came to that was carried out by pressing `control` on the event, with its follow-up. -/
structure Pressed (env : Env σ) (event : Event) (control : String) (follow : Option String) (s : Session σ) (x : Dealings) :
    Prop where
  succeeded : (env.host.answer (.press event control) s.world.host).answer = .ok ()
  alone     : follow = none → x.presses = s.dealings.presses ++ [(event, control)]
  followed  : ∀ f, follow = some f → ∃ events, x.sightings = s.dealings.sightings ++ [events] ∧
    ∀ offering, events.find? (·.hasControl f) = some offering →
      x.presses = s.dealings.presses ++ [(event, control), (offering, f)]

section Deciding

variable {event : Event} {d : Decision} {control : String} {s : Session σ}

theorem ensures_press {x : Dealings} (on : Event) (f : String) :
    Ensures (fun s : Session σ => s.dealings = x) (ask env (.press on f)) (fun _ s => s.dealings = x.press on f)
      fun _ s => s.dealings = x.press on f :=
  .ask (fun s _ hs _ => hs ▸ s.dealings_press on f) fun s _ hs _ => hs ▸ s.dealings_press on f

theorem ensures_pressFollowUp (x : Dealings) (f : String) :
    Ensures (fun s : Session σ => s.dealings = x) (pressFollowUp env event (some f))
      (fun _ s => s.learned = x.learned ∧ ∃ events, s.dealings.sightings = x.sightings ++ [events] ∧
        ∀ offering, events.find? (·.hasControl f) = some offering → s.dealings.presses = x.presses ++ [(offering, f)])
      fun _ s => s.learned = x.learned := by
  have hlearned : ∀ y : Dealings, y.learned = x.learned → ∀ s : Session σ, s.dealings = y → s.learned = x.learned :=
    fun y hy s hs => hy ▸ congrArg Dealings.learned hs
  have hpress : ∀ (y : Dealings) on, y.learned = x.learned → Ensures (fun s : Session σ => s.dealings = y)
      (ask env (.press on f)) (fun _ s => s.dealings = y.press on f) fun _ s => s.learned = x.learned :=
    fun y on hy => (ensures_press on f).imp (fun _ => id) (fun _ _ => id) fun _ => hlearned _ hy
  have hsleep : Does env (Rests .settle) (sleep env .settle env.config.settleDelay) := does_sleep _ fun _ => id
  refine .bind (hsleep.ensures (fun e he => (he.keeps_dealings (· = x)).weaken (fun _ => hlearned x rfl) he.ne_observe)
    (hlearned x rfl)) fun _ => ?_
  refine .bind (R := fun events s => s.dealings = x.see events) (.ask ?_ ?_) fun events => ?_
  · intro s events hs hanswer
    rw [s.dealings_detect hanswer, hs]
  · intro s e hs hanswer
    have hkept : (s.answered env .detect).learned = s.learned := congrArg Dealings.learned (Session.dealings_accept _ _)
    rw [hkept]
    exact hlearned x rfl s hs
  dsimp only
  split
  · rename_i offering hfind
    refine .bind (hpress (x.see events) offering rfl) fun _ => .pure fun s hs => ?_
    refine ⟨hlearned ((x.see events).press offering f) rfl s hs, events, congrArg Dealings.sightings hs, fun offering' hfind' => ?_⟩
    cases hfind.symm.trans hfind'
    exact congrArg Dealings.presses hs
  · rename_i hnone
    have hnothing : ∀ (s : Session σ) (y : Dealings), y.learned = x.learned → y.sightings = x.sightings ++ [events] →
        s.dealings = y → s.learned = x.learned ∧ ∃ events, s.dealings.sightings = x.sightings ++ [events] ∧
          ∀ offering, events.find? (·.hasControl f) = some offering → s.dealings.presses = x.presses ++ [(offering, f)] := by
      intro s y hy hsightings hs
      refine ⟨hlearned y hy s hs, events, hs ▸ hsightings, fun offering hfind => ?_⟩
      rw [hnone] at hfind
      cases hfind
    split
    · exact .bind (hpress (x.see events) event rfl) fun _ => .pure fun s => hnothing s _ rfl rfl
    · exact .pure fun s => hnothing s _ rfl rfl

/-- A decision that presses is carried out, or nothing is learned from it. -/
theorem ensures_carryOut_press (haction : d.action = .press) (hselected : d.selectedOption = some control) :
    Ensures (· = s) (carryOut env event d)
      (fun _ s' => s'.learned = s.learned ∧ Pressed env event control d.followUpOption s s'.dealings)
      fun _ s' => s'.learned = s.learned := by
  let x : Dealings := s.dealings.press event control
  have hfirst : Ensures (· = s) (pressSelected env event (some control))
      (fun _ s' => (env.host.answer (.press event control) s.world.host).answer = .ok () ∧ s'.dealings = x)
      fun _ s' => s'.learned = s.learned := by
    refine .bind (R := fun _ s' => (env.host.answer (.press event control) s.world.host).answer = .ok () ∧ s'.dealings = x)
      (.ask ?_ ?_) fun _ => .pure fun _ => id
    · rintro _ a rfl hanswer
      exact ⟨hanswer, Session.dealings_press _ _ _⟩
    · rintro _ e rfl -
      exact congrArg Dealings.learned (Session.dealings_press _ event control)
  unfold carryOut
  rw [haction, hselected]
  refine .bind hfirst fun first => .fix fun s₁ ⟨hsucceeded, hs₁⟩ => ?_
  cases hfollow : d.followUpOption with
  | none =>
    refine .bind (R := fun _ s' => s' = s₁) (.pure fun _ => id) fun second => .pure fun s' hs' => ?_
    subst hs'
    exact ⟨congrArg Dealings.learned hs₁, hsucceeded, fun _ => congrArg Dealings.presses hs₁, nofun⟩
  | some f =>
    refine .bind ((ensures_pressFollowUp x f).strengthen fun s' hs' => hs' ▸ hs₁) fun second => .pure fun s' hs' => ?_
    obtain ⟨hlearned, events, hsightings, hpresses⟩ := hs'
    refine ⟨hlearned, hsucceeded, nofun, fun f' hf' => ⟨events, hsightings, fun offering hfind => ?_⟩⟩
    cases hf'
    rw [hpresses offering hfind]
    exact List.append_assoc ..

theorem ensures_learn_dealings {E : Halt → Session σ → Prop} (x : Dealings) (actions : List HandlerAction) :
    Ensures (fun s : Session σ => s.dealings = x) (learn env event d actions)
      (fun _ s => s.dealings = x ∨ ∃ id time, s.dealings = x.learn (handlerOf event d actions id time)) E := by
  refine .read fun s₀ hs₀ => ?_
  dsimp only
  split
  · exact .pure fun s hs => .inl (hs ▸ hs₀)
  · refine .bind (R := fun _ s => s.dealings = x) (.report fun s hs => ?_) fun _ => .modify fun s hs => ?_
    · rw [s.dealings_told, hs, hs₀]
    · have hnew : ∀ serial g, (s.withLearned serial g).dealings = x.learn g := fun _ g => congrArg (Dealings.learn · g) hs
      exact .inr ⟨_, _, hnew _ _⟩

theorem applyDecision_learns (haction : d.action = .press) (hselected : d.selectedOption = some control) {h : Handler}
    (hlearned : (s.after (applyDecision env event d)).learned = s.learned ++ [h]) :
    h.actions = d.actions ∧
      Pressed env event control d.followUpOption s (s.after (applyDecision env event d)).dealings := by
  let Q : Dealings → Prop := fun y => y.learned = s.learned ∨
    ∃ id time, y.learned = s.learned ++ [handlerOf event d d.actions id time] ∧
      Pressed env event control d.followUpOption s y
  have happly : Ensures (· = s) (applyDecision env event d) (fun _ s' => Q s'.dealings) fun _ s' => Q s'.dealings := by
    have hcarry : Ensures (· = s) (carryOut env event d) _ _ := ensures_carryOut_press haction hselected
    have hlists : Returns (carryOut env event d) (· = d.actions) := returns_carryOut event d
    rw [applyDecision_eq]
    refine .bind ((hcarry.and hlists).imp (fun s' hs' => ⟨hs', trivial⟩) (fun _ _ => id) fun _ _ hs' => .inl hs'.1) fun actions => ?_
    refine .fix fun s₁ ⟨⟨hsame, hpressed⟩, hactions⟩ => ?_
    subst hactions
    refine (ensures_concludeDecision (C := fun s' => s'.dealings = s₁.dealings) (D := fun s' => s'.dealings = s₁.dealings)
      (A := fun s' => Q s'.dealings) (fun _ hs' => hs') (fun s' hs' => (s'.dealings_told _).trans hs') (fun _ => ?_)
      (fun _ s' hs' => .inl (hs' ▸ hsame)) (ensures_finish_dealings Q d.outcome)).strengthen fun s' hs' => hs' ▸ rfl
    refine (ensures_learn_dealings s₁.dealings d.actions).weaken fun _ s' hs' => ?_
    obtain hs' | ⟨id, time, hs'⟩ := hs'
    · exact .inl (hs' ▸ hsame)
    · refine .inr ⟨id, time, ?_, ?_⟩
      · rw [hs', ← hsame]
        rfl
      · rw [hs']
        exact ⟨hpressed.succeeded, hpressed.alone, hpressed.followed⟩
  obtain hsame | ⟨id, time, hnew, hpressed⟩ := happly.after (R := fun s' => Q s'.dealings) rfl
  · have hnil : s.learned ++ [h] = s.learned := hlearned.symm.trans hsame
    exact absurd (List.append_right_eq_self.1 hnil) (List.cons_ne_nil h [])
  · have hh : [h] = [handlerOf event d d.actions id time] := List.append_cancel_left (hlearned.symm.trans hnew)
    cases hh
    exact ⟨rfl, hpressed⟩

end Deciding

/-! ## Replaying -/

/-- Whether a press succeeds depends only on what the host shows of itself. -/
def Host.PressesBy {τ : Type} (h : Host σ) (view : σ → τ) : Prop :=
  ∀ event control s s', view s = view s' →
    (h.answer (.press event control) s).answer = (h.answer (.press event control) s').answer

theorem Host.pressesBy_id (h : Host σ) : h.PressesBy id := fun event control _ _ hsame =>
  congrArg (fun state => (h.answer (.press event control) state).answer) hsame

/-- A handler presses all its controls on the event that it is applied to; the last of them may fail. -/
theorem presses_applyHandler {event : Event} {h : Handler} {control : String} {follow : Option String} {s : Session σ}
    (hactions : h.actions = .press control :: follow.toList.map .press)
    (hsucceeds : (env.host.answer (.press event control) s.world.host).answer = .ok ()) :
    presses (s.after (applyHandler env event h)).trace =
      presses s.trace ++ (event, control) :: follow.toList.map (event, ·) := by
  let pressed : Dealings → Prop := fun x => x.presses = presses s.trace ++ (event, control) :: follow.toList.map (event, ·)
  have hfirst : Ensures (· = s) (ask env (.press event control))
      (fun _ s' => s'.dealings = s.dealings.press event control) fun _ s' => pressed s'.dealings := by
    refine .ask ?_ ?_
    · rintro _ _ rfl -
      exact Session.dealings_press _ _ _
    · rintro _ e rfl hanswer
      rw [hsucceeds] at hanswer
      cases hanswer
  have hall : ∀ x : Dealings, x.presses = presses s.trace ++ [(event, control)] ++ follow.toList.map (event, ·) → pressed x :=
    fun _ hx => hx.trans (List.append_assoc ..)
  have hrest : Ensures (fun s' : Session σ => s'.dealings = s.dealings.press event control)
      ((follow.toList.map .press).forM (applyAction env event)) (fun _ s' => pressed s'.dealings)
      fun _ s' => pressed s'.dealings := by
    cases follow with
    | none   => exact .pure fun s' hs' => hall _ (by rw [hs']; exact (List.append_nil _).symm)
    | some f =>
      have hlast : ∀ s' : Session σ, s'.dealings = (s.dealings.press event control).press event f → pressed s'.dealings :=
        fun s' hs' => hall _ (by rw [hs']; rfl)
      refine .bind ((ensures_press event f).imp (fun _ => id) (fun _ => hlast) fun _ => hlast) fun _ => .pure fun _ => id
  have happly : Ensures (· = s) (applyHandler env event h) (fun _ s' => pressed s'.dealings)
      fun _ s' => pressed s'.dealings := by
    unfold applyHandler
    rw [hactions]
    refine .bind (.bind hfirst fun _ => hrest) fun _ => .read fun s₁ hs₁ => ?_
    refine .bind (R := fun _ s' => pressed s'.dealings) (.report fun s' hs' => ?_) fun _ => ensures_finish_dealings pressed h.outcome
    subst hs'
    rw [Session.dealings_told]
    exact hs₁
  exact happly.after (R := fun s' => pressed s'.dealings) rfl

def keyed (p : Event × String) : String × String := (p.1.patternKey, p.2)

theorem keyed_eq_iff {event : Event} {made : List (Event × String)} :
    made.map keyed = (made.map fun p => (event, p.2)).map keyed ↔ ∀ p ∈ made, p.1.patternKey = event.patternKey := by
  rw [List.map_map, List.map_inj_left]
  refine forall_congr' fun p => imp_congr_right fun _ => ?_
  exact ⟨congrArg Prod.fst, fun h => Prod.ext h rfl⟩

/-- **What a saved rule replays.**  From a decision that presses an option of an event, and as follow-up a control that
some event offered when it was looked for again, a handler was learned.  Applied to the event where the surface shows the
same again, it presses the same controls in the same order, but all on this event, while the decision pressed the
follow-up on the first event that offered it.  So the presses are the same, up to the texts of events with one pattern,
exactly if every event pressed for the decision has the pattern key of the event decided on. -/
theorem rule_replays_presses {τ : Type} {view : σ → τ} (hview : env.host.PressesBy view) {event : Event} {d : Decision}
    {control : String} (haction : d.action = .press) (hselected : d.selectedOption = some control) {s : Session σ}
    {h : Handler} (hlearned : (s.after (applyDecision env event d)).learned = s.learned ++ [h])
    (hoffered : ∀ f, d.followUpOption = some f → ∃ events, events.any (·.hasControl f) = true ∧
      sightings (s.after (applyDecision env event d)).trace = sightings s.trace ++ [events])
    (s' : Session σ) (hsame : view s'.world.host = view s.world.host) :
    ∃ made replayed,
      presses (s.after (applyDecision env event d)).trace = presses s.trace ++ made ∧
      presses (s'.after (applyHandler env event h)).trace = presses s'.trace ++ replayed ∧
      made.map (·.2) = control :: d.followUpOption.toList ∧
      (∀ f, d.followUpOption = some f → ∃ events offering,
        sightings (s.after (applyDecision env event d)).trace = sightings s.trace ++ [events] ∧
        events.find? (·.hasControl f) = some offering ∧ made = [(event, control), (offering, f)]) ∧
      replayed = made.map (fun p => (event, p.2)) ∧
      (made.map keyed = replayed.map keyed ↔ ∀ p ∈ made, p.1.patternKey = event.patternKey) := by
  obtain ⟨hactions, hpressed⟩ := applyDecision_learns haction hselected hlearned
  have hactions' : h.actions = .press control :: d.followUpOption.toList.map .press := by
    rw [hactions, Decision.actions, haction, hselected]
    rfl
  have hsucceeds : (env.host.answer (.press event control) s'.world.host).answer = .ok () :=
    (hview event control _ _ hsame).trans hpressed.succeeded
  have hreplayed := presses_applyHandler hactions' hsucceeds
  cases hfollow : d.followUpOption with
  | none =>
    rw [hfollow] at hreplayed
    exact ⟨[(event, control)], _, hpressed.alone hfollow, hreplayed, rfl, nofun, rfl, keyed_eq_iff⟩
  | some f =>
    rw [hfollow] at hreplayed
    obtain ⟨events, hany, hsightings⟩ := hoffered f hfollow
    obtain ⟨events', hsightings', hfollowed⟩ := hpressed.followed f hfollow
    have hevents : [events'] = [events] := List.append_cancel_left (hsightings'.symm.trans hsightings)
    cases hevents
    obtain ⟨offering, hfind⟩ : ∃ offering, events.find? (·.hasControl f) = some offering := by
      rw [← Option.isSome_iff_exists, List.find?_isSome]
      exact List.any_eq_true.1 hany
    refine ⟨[(event, control), (offering, f)], _, hfollowed offering hfind, hreplayed, rfl, ?_, rfl, keyed_eq_iff⟩
    intro f' hf'
    cases hf'
    exact ⟨events, offering, hsightings, hfind, rfl⟩

def askDiscard : Event := Event.ofText .dialog "Discard changes?" ["Yes", "No"]

def discarded : Event := Event.ofText .dialog "Changes discarded" ["Close"]

/-- A surface that shows the one dialog until "Yes" is pressed, and the other from then on. -/
def discarding : Host Bool where
  answer q yes :=
    match q with
    | .detect          => ⟨.ok [if yes then discarded else askDiscard], yes, []⟩
    | .press _ control => ⟨.ok (), yes || control == "Yes", []⟩
    | q                => ⟨(Host.inert.answer q ()).answer, yes, []⟩
  observe _ yes := ⟨(), yes, []⟩
  elapse _ _ yes := ⟨(), yes, []⟩
  hasClipboard := false

def discardingEnv : Env Bool := ⟨discarding, {}, { learningMode := true }, 10, ⟨0, 0⟩⟩

def discardAndClose : Decision :=
  { id := .issued 1, selectedOption := some "Yes", followUpOption := some "Close", saveRule := true }

def undecided : Session Bool := { world := { host := false } }

/-- A rule was learned from the decision, and is applied to the first dialog shown again. -/
theorem discard_replayed :
    ∃ (h : Handler) (made replayed : List (Event × String)),
      (undecided.after (applyDecision discardingEnv askDiscard discardAndClose)).learned = [h] ∧
      presses (undecided.after (applyDecision discardingEnv askDiscard discardAndClose)).trace = made ∧
      presses (undecided.after (applyHandler discardingEnv askDiscard h)).trace = replayed ∧
      made.map (·.2) = ["Yes", "Close"] ∧ replayed = made.map fun p => (askDiscard, p.2) := by
  obtain ⟨h, hlearned⟩ : ∃ h, (undecided.after (applyDecision discardingEnv askDiscard discardAndClose)).learned = [h] :=
    List.length_eq_one_iff.1 (by decide +kernel)
  have hoffered : ∀ f, discardAndClose.followUpOption = some f → ∃ events, events.any (·.hasControl f) = true ∧
      sightings (undecided.after (applyDecision discardingEnv askDiscard discardAndClose)).trace =
        sightings undecided.trace ++ [events] := by
    intro f hf
    cases hf
    exact ⟨[discarded], by decide +kernel, by decide +kernel⟩
  obtain ⟨made, replayed, hmade, hreplayed, hcontrols, -, hsame, -⟩ :=
    rule_replays_presses discarding.pressesBy_id rfl rfl hlearned hoffered undecided rfl
  exact ⟨h, made, replayed, hlearned, hmade, hreplayed, hcontrols, hsame⟩

/-- The follow-up is pressed on the dialog that follows, and replayed on the one before it, which has another key. -/
theorem follow_up_not_replayed :
    let decided := undecided.after (applyDecision discardingEnv askDiscard discardAndClose)
    (discarding.answer .detect undecided.world.host).answer = .ok [askDiscard] ∧ askDiscard.hasControl "Yes" = true ∧
    sightings decided.trace = [[discarded]] ∧ discarded.hasControl "Close" = true ∧
    presses decided.trace = [(askDiscard, "Yes"), (discarded, "Close")] ∧
    ∃ h, decided.learned = [h] ∧
      presses (undecided.after (applyHandler discardingEnv askDiscard h)).trace =
        [(askDiscard, "Yes"), (askDiscard, "Close")] ∧
      (presses decided.trace).map keyed ≠ (presses (undecided.after (applyHandler discardingEnv askDiscard h)).trace).map keyed := by
  intro decided
  have hpresses : presses decided.trace = [(askDiscard, "Yes"), (discarded, "Close")] := by decide +kernel
  obtain ⟨h, hlearned⟩ : ∃ h, decided.learned = [h] := List.length_eq_one_iff.1 (by decide +kernel)
  have hreplayed : decided.learned.map (fun h => presses (undecided.after (applyHandler discardingEnv askDiscard h)).trace) =
      [[(askDiscard, "Yes"), (askDiscard, "Close")]] := by decide +kernel
  rw [hlearned] at hreplayed
  have hreplayed : presses (undecided.after (applyHandler discardingEnv askDiscard h)).trace =
      [(askDiscard, "Yes"), (askDiscard, "Close")] := List.head_eq_of_cons_eq hreplayed
  refine ⟨rfl, by decide +kernel, by decide +kernel, by decide +kernel, hpresses, h, hlearned, hreplayed, ?_⟩
  rw [hpresses, hreplayed]
  decide +kernel

end FormReplay
