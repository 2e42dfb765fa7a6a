import FormReplay.Proofs.Engine.Decision
/-!
# What a run learns

A handler is learned where the handlers at hand, of the workflow and learned before, have none that does the same.  So
the handlers learned are all new, the workflow takes every one of them, and the run tells of each once, in the order
in which they were learned, however the run ends.
-/
namespace FormReplay

variable {σ : Type} {env : Env σ}

/-! ## New handlers -/

theorem Handler.isEquivalent_comm (a b : Handler) : a.isEquivalent b = b.isEquivalent a := by
  unfold isEquivalent
  rw [Bool.beq_comm, Bool.beq_comm (a := a.actions), Bool.beq_comm (a := a.outcome)]

def Handler.Differs (a b : Handler) : Prop := a.isEquivalent b = false ∧ b.isEquivalent a = false

theorem Handler.differs_iff (a b : Handler) : a.Differs b ↔ a.isEquivalent b = false := by
  rw [Differs, isEquivalent_comm b a, and_self]

/-- Handlers of which none does the same as another or as one of the old ones. -/
structure Novel (old new : List Handler) : Prop where
  apart : new.Pairwise Handler.Differs
  fresh : ∀ h ∈ new, ∀ h' ∈ old, h'.Differs h

theorem Novel.nil (old : List Handler) : Novel old [] := ⟨.nil, fun _ hh => absurd hh List.not_mem_nil⟩

theorem not_any_isEquivalent {handlers : List Handler} {h : Handler} (hnone : ¬handlers.any (·.isEquivalent h) = true) :
    ∀ h' ∈ handlers, h'.Differs h := by
  intro h' hh'
  rw [Handler.differs_iff]
  cases hequivalent : h'.isEquivalent h with
  | false => rfl
  | true  => exact absurd (List.any_eq_true.2 ⟨h', hh', hequivalent⟩) hnone

theorem Novel.learn {old new : List Handler} (hnew : Novel old new) {h : Handler}
    (hnone : ¬(old ++ new).any (·.isEquivalent h) = true) : Novel old (new ++ [h]) where
  apart := by
    refine List.pairwise_append.2 ⟨hnew.apart, List.pairwise_singleton _ _, fun a ha b hb => ?_⟩
    rw [List.mem_singleton.1 hb]
    exact not_any_isEquivalent hnone a (List.mem_append_right _ ha)
  fresh := by
    intro a ha b hb
    rcases List.mem_append.1 ha with ha | ha
    · exact hnew.fresh a ha b hb
    · rw [List.mem_singleton.1 ha]
      exact not_any_isEquivalent hnone b (List.mem_append_left _ hb)

/-- **A workflow takes all new handlers, in their order.** -/
theorem foldl_addHandler {new : List Handler} (w : Workflow) (h : Novel w.handlers new) :
    new.foldl Workflow.addHandler w = { w with handlers := w.handlers ++ new } := by
  induction new generalizing w with
  | nil => rw [List.append_nil]; rfl
  | cons a new ih =>
    obtain ⟨ha, hnew⟩ := List.pairwise_cons.1 h.apart
    have hadd : w.addHandler a = { w with handlers := w.handlers ++ [a] } := by
      refine if_neg fun hany => ?_
      obtain ⟨b, hb, hequivalent⟩ := List.any_eq_true.1 hany
      rw [(h.fresh a (.head _) b hb).1] at hequivalent
      cases hequivalent
    have hnovel : Novel (w.handlers ++ [a]) new := by
      refine ⟨hnew, fun c hc b hb => ?_⟩
      rcases List.mem_append.1 hb with hb | hb
      · exact h.fresh c (.tail _ hc) b hb
      · rw [List.mem_singleton.1 hb]
        exact ha c hc
    rw [List.foldl_cons, hadd, ih _ hnovel, List.append_assoc]
    rfl

/-! ## What a run keeps -/

structure Lesson where
  id       : String
  template : String
  outcome  : Outcome
  deriving DecidableEq, Repr

def Handler.lesson (h : Handler) : Lesson := ⟨h.id, h.trigger.template, h.outcome⟩

def Moment.lesson? : Moment → Option Lesson
  | .progress (.handlerLearned id template outcome) => some ⟨id, template, outcome⟩
  | _ => none

def lessons (trace : List Entry) : List Lesson := trace.filterMap fun e => e.moment.lesson?

theorem lessons_cons {e : Entry} (past : List Entry) (h : e.moment.lesson? = none) : lessons (e :: past) = lessons past :=
  List.filterMap_cons_none h

/-- The handlers at hand are the old ones and what was learned, which is new, and the trace tells of it. -/
structure Learning (old : List Handler) (s : Session σ) : Prop where
  handlers : s.handlers = old ++ s.learned
  novel : Novel old s.learned
  told : lessons s.trace = (s.learned.map Handler.lesson).reverse

section Keeping

variable {old : List Handler}

theorem withstands_learning : Withstands (fun _ => True) (fun m => m.lesson? = none) (Learning (σ := σ) old) where
  record s m hm hs := ⟨hs.handlers, hs.novel, (lessons_cons s.trace hm).trans hs.told⟩
  obey s act _ hs := by
    have hrecord : Learning old (s.record (.acted act)) := ⟨hs.handlers, hs.novel, (lessons_cons s.trace rfl).trans hs.told⟩
    cases act <;> exact ⟨hrecord.handlers, hrecord.novel, hrecord.told⟩
  host _ _ hs := ⟨hs.handlers, hs.novel, hs.told⟩
  clock _ _ _ hs := ⟨hs.handlers, hs.novel, hs.told⟩

theorem Learning.congr {s s' : Session σ} (hs : Learning old s) (hhandlers : s'.handlers = s.handlers)
    (hlearned : s'.learned = s.learned) (htrace : s'.trace = s.trace) : Learning old s' where
  handlers := by rw [hhandlers, hlearned, hs.handlers]
  novel := hlearned ▸ hs.novel
  told := by rw [htrace, hlearned, hs.told]

theorem Moment.IsOrdinary.lesson?_eq_none {m : Moment} (h : m.IsOrdinary) : m.lesson? = none := by
  unfold Moment.lesson?
  split
  · exact h.elim
  · rfl

theorem learning_ordinary {e : Operation σ} (he : e.Ordinary) : e.Keeps env (Learning old) fun _ => Learning old :=
  withstands_learning.keeps env.host.within_all (he.1.mono fun _ => Moment.IsOrdinary.lesson?_eq_none) fun f hf _ s hs =>
    let hsame := he.2 f hf s
    hs.congr hsame.handlers hsame.learned hsame.trace

theorem learning_decides {e : Operation σ} (he : Decides e) : e.Keeps env (Learning old) fun _ => Learning old := by
  have hedit : ∀ {f : Session σ → Session σ}, (∀ s, (f s).handlers = s.handlers ∧ (f s).learned = s.learned) →
      (Operation.edit f).Keeps env (Learning old) fun _ => Learning old := fun hf hblind s hs =>
    hs.congr (hf s).1 (hf s).2 (hblind.trace_eq s)
  have hadds : ∀ {e : Operation σ}, e.Adds (fun m => m.lesson? = none) → (∀ f, e ≠ .edit f) →
      e.Keeps env (Learning old) fun _ => Learning old := fun hadds hne =>
    withstands_learning.keeps env.host.within_all hadds fun f hf => absurd hf (hne f)
  cases he with
  | issue | pending _ | hold | release => exact hedit fun _ => ⟨rfl, rfl⟩
  | observe | fail _                   => exact hadds trivial nofun
  | wait he =>
    cases he with
    | inbox _             => exact hedit fun _ => ⟨rfl, rfl⟩
    | request _           => exact hadds (fun _ => rfl) nofun
    | requested _ | poll _ => exact hadds rfl nofun
    | stopped             => exact hadds trivial nofun

theorem lessons_told (env : Env σ) (s : Session σ) {h : Handler} {template : String}
    (htemplate : h.trigger.template = template) :
    let s' := s.told env (.handlerLearned h.id template h.outcome)
    s'.handlers = s.handlers ∧ s'.learned = s.learned ∧ lessons s'.trace = h.lesson :: lessons s.trace := by
  have hkept : KeptBy (fun _ => True) fun s' : Session σ => s'.handlers = s.handlers ∧ s'.learned = s.learned :=
    ⟨fun _ => trivial, fun _ _ _ => id, fun _ _ => id⟩
  have hsame : (s.told env (.handlerLearned h.id template h.outcome)).handlers = s.handlers ∧
      (s.told env (.handlerLearned h.id template h.outcome)).learned = s.learned := hkept.told s _ trivial ⟨rfl, rfl⟩
  obtain ⟨acts, e, htrace, honly, he⟩ := s.told_trace env (.handlerLearned h.id template h.outcome)
  have hacts : ∀ e past act, e.moment = .acted act → lessons (e :: past) = lessons past := fun e past act hact =>
    lessons_cons past (hact ▸ rfl)
  refine ⟨hsame.1, hsame.2, ?_⟩
  rw [htrace, honly.append_eq hacts, lessons, List.filterMap_cons, he, Handler.lesson, htemplate]
  rfl

/-- **Learning keeps the new handlers apart**, for it looks at all handlers at hand. -/
theorem ensures_learn (event : Event) (d : Decision) (actions : List HandlerAction) :
    Ensures (Learning old) (learn env event d actions) (fun _ => Learning old) fun _ => Learning old := by
  refine .read fun s₀ hs₀ => ?_
  dsimp only
  generalize hdef : handlerOf event d actions _ _ = h
  have htemplate : h.trigger.template = event.template := hdef ▸ rfl
  split
  · exact .pure fun s hs => hs ▸ hs₀
  · rename_i hnone
    have hnovel : Novel old (s₀.learned ++ [h]) := hs₀.novel.learn (hs₀.handlers ▸ hnone)
    refine .bind (R := fun _ s => s.handlers = s₀.handlers ∧ s.learned = s₀.learned ∧
      lessons s.trace = h.lesson :: lessons s₀.trace) (.report fun s hs => ?_) fun _ => .modify fun s hs => ?_
    · rw [hs]
      exact lessons_told env s₀ htemplate
    · obtain ⟨hhandlers, hlearned, htold⟩ := hs
      refine ⟨?_, hlearned ▸ hnovel, ?_⟩
      · rw [hhandlers, hlearned, hs₀.handlers, List.append_assoc]
      · rw [htold, hs₀.told, hlearned, List.map_append, List.reverse_append]
        rfl

theorem ensures_await_learning (event : Option Event) (options : List String) :
    Ensures (Learning old) (awaitDecision env event options) (fun _ => Learning old) fun _ => Learning old :=
  (does_awaitDecision event options fun _ => id).ensures (fun _ => learning_decides) fun _ => id

theorem learning_stop {s : Session σ} (hs : Learning old s) : Learning old (s.onControl .stop) :=
  ⟨hs.handlers, hs.novel, hs.told⟩

theorem learning_told {s : Session σ} {e : ProgressEvent} (he : (Moment.progress e).lesson? = none) (hs : Learning old s) :
    Learning old (s.told env e) :=
  withstands_learning.told env.host.within_all he hs

theorem ensures_finish_learning (outcome : Outcome) :
    Ensures (Learning old) (finishOutcome env outcome) (fun _ => Learning old) fun _ => Learning old :=
  ensures_finishOutcome (fun _ he => learning_ordinary (he.ordinary nofun)) (fun _ => id) fun _ => learning_stop

theorem decisionRule_learning : DecisionRule env (Learning old) fun _ => Learning old where
  keeps _ := learning_ordinary
  ends _ _ := id
  halt _ := learning_stop
  decide event := by
    refine Ensures.recovers ?_
    refine .bind (ensures_await_learning (some event) _) fun d => ApplyRule.applyDecision (D := Learning old) {
      carry := fun _ he => learning_ordinary he.ordinary
      applied := fun _ => learning_told rfl
      learn := fun _ => ensures_learn event d
      skip := fun _ _ => id
      finish := ensures_finish_learning d.outcome
      outOfFuel := fun _ => id }
  confirm := by
    refine Ensures.recovers ?_
    rw [confirmStep_eq]
    exact .bind (ensures_await_learning none _) fun d =>
      ensures_applyConfirmation (fun _ => learning_told rfl) (ensures_finish_learning d.outcome)

end Keeping

/-! ## Runs -/

/-- **What a run learns is neither lost nor doubled**, however the run ends and whatever is decided.  The workflow
afterwards is the workflow before with the handlers learned, in the order learned, after its own; none of them does the
same as another or as one that was there before; and the run tells of exactly these, in this order. -/
theorem learned_handlers_kept (env : Env σ) (w : Workflow) (input : RunInput) (world : World σ) (f : Finished σ)
    (h : run env w input world = some f) :
    f.workflow = { w with handlers := w.handlers ++ f.report.learned } ∧
    f.report.learned.Pairwise Handler.Differs ∧
    (∀ new ∈ f.report.learned, ∀ old ∈ w.handlers, old.Differs new) ∧
    lessons f.trace = f.report.learned.map Handler.lesson := by
  have hexecution : Ensures (Learning w.handlers) (execution env w input) (fun _ => Learning w.handlers)
      fun _ => Learning w.handlers :=
    ensures_execution (fun _ => decisionRule_learning.executeProgram w.within_analyze) fun _ _ => id
  have hstart : Learning w.handlers (started env w world) := learning_told rfl ⟨(List.append_nil _).symm, .nil _, rfl⟩
  obtain ⟨r, s, hok, herror, hrun, -⟩ | ⟨s, -, hrun, -⟩ := run_ensures hexecution world hstart
  · have hs : Learning w.handlers s := by
      cases r with
      | ok a    => exact hok a rfl
      | error e => exact herror e rfl
    cases hrun.symm.trans h
    have hended : Learning w.handlers (s.ended env r) := learning_told rfl hs
    have hlearned : (s.ended env r).learned = s.learned := (s.told_learned _).1
    refine ⟨foldl_addHandler w hs.novel, hs.novel.apart, hs.novel.fresh, ?_⟩
    show lessons (s.ended env r).trace.reverse = s.learned.map Handler.lesson
    rw [lessons, List.filterMap_reverse]
    exact (congrArg List.reverse hended.told).trans (by rw [List.reverse_reverse, hlearned])
  · cases hrun.symm.trans h

/-- A surface with some events, and an operator who has each dismissed and the rule saved. -/
def dismissing : Host (List Event) where
  answer q events :=
    match q with
    | .detect    => ⟨.ok events, events, []⟩
    | .dismiss e => ⟨.ok (), events.filter (· ≠ e), []⟩
    | .request r => ⟨.ok (), events, [.post { id := r.id, action := .dismiss, saveRule := true }]⟩
    | q          => ⟨(Host.inert.answer q ()).answer, events, []⟩
  observe _ events := ⟨(), events, []⟩
  elapse _ _ events := ⟨(), events, []⟩
  hasClipboard := false

/-- Two handlers are learned of three dialogs, for what is learned of the second resolves the third. -/
theorem two_dialogs_learned :
    let env : Env (List Event) := ⟨dismissing, {}, { learningMode := true }, 10, ⟨0, 0⟩⟩
    let dialogs : List Event := [⟨.dialog, "a", "a", []⟩, ⟨.dialog, "b", "b", ["OK"]⟩, ⟨.dialog, "b", "b", []⟩]
    let w : Workflow := { steps := [{ kind := .action .click { target := some "#x" } }] }
    ∃ f, run env w ⟨⟨"", []⟩, []⟩ { host := dialogs } = some f ∧
      f.report.learned.map (·.trigger.template) = ["a", "b"] ∧ f.workflow.handlers = f.report.learned ∧
      lessons f.trace = f.report.learned.map Handler.lesson := by
  intro env dialogs w
  have hlearned : (run env w ⟨⟨"", []⟩, []⟩ { host := dialogs }).map (·.report.learned.map (·.trigger.template)) =
      some ["a", "b"] := by
    decide +kernel
  obtain ⟨f, hrun, htemplates⟩ := Option.map_eq_some_iff.1 hlearned
  obtain ⟨hworkflow, -, -, hlessons⟩ := learned_handlers_kept env w _ _ f hrun
  exact ⟨f, hrun, htemplates, by rw [hworkflow]; rfl, hlessons⟩

end FormReplay
