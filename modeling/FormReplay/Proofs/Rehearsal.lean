import FormReplay.Proofs.DryRun
import FormReplay.Proofs.Engine.Smooth
/-!
# Dry runs beside real ones

A dry run goes the way of the real one, as long as that is smooth and the answers to conditions in both are those of one
judge, who goes by the condition and the row.  `Shadows P x y Q` reads a real action `x` and a dry action `y` from two
sessions related by `P`: unless the real one turns rough or ends within an attempt, or an answer in either strays from
the judge, the dry one comes to the same, and leaves the sessions related by `Q`.
-/
namespace FormReplay

variable {σ α β : Type} {env : Env σ}

/-- What a dry run tells in place of an event of the real run: of a step that starts, that it is not carried out, and
nothing of its completion. -/
def ProgressEvent.rehearsed : ProgressEvent → Option ProgressEvent
  | .runStarted workflow options     => some (.runStarted workflow { options with dryRun := true })
  | .stepStarted step typeName row   => some (.stepDryRun step typeName row)
  | .stepCompleted ..                => none
  | event                            => some event

/-- A real session and a dry one at the same place, with nothing that holds them up. -/
structure Level (s t : Session σ) : Prop where
  real    : s.Clear
  dry     : t.Clear
  context : s.context = t.context
  learned : s.learned = t.learned
  events  : t.events = s.events.filterMap ProgressEvent.rehearsed

def LevelAt (i : Nat) (s t : Session σ) : Prop := Level s t ∧ s.context.stepIndex = i

namespace Level

variable {s t : Session σ}

theorem unmoved {s' t' : Session σ} (h : Level s t) (hs : s'.Clear ∧ Unmoved s s') (ht : t'.Clear ∧ Unmoved t t') :
    Level s' t' where
  real := hs.1
  dry := ht.1
  context := by rw [hs.2.context, ht.2.context, h.context]
  learned := by rw [hs.2.learned, ht.2.learned, h.learned]
  events := by rw [hs.2.events, ht.2.events, h.events]

theorem record (h : Level s t) {m : Moment} (hm : m.isInward = true) : Level (s.record m) (t.record m) := by
  have hevents : ∀ s : Session σ, (s.record m).events = s.events := fun s => by
    cases m <;> first | rfl | cases hm
  exact ⟨h.real, h.dry, h.context, h.learned, by rw [hevents, hevents, h.events]⟩

theorem onContext (h : Level s t) (f : Context → Context) : Level (s.onContext f) (t.onContext f) :=
  ⟨h.real, h.dry, congrArg f h.context, h.learned, h.events⟩

theorem told (hcalm : env.host.Calm) (h : Level s t) {event event' : ProgressEvent} (he : event.rehearsed = some event') :
    Level (s.told env event) (t.told env.dry event') := by
  obtain ⟨hlearned, hcontext⟩ : (s.told env event).learned = s.learned ∧ (s.told env event).context = s.context :=
    s.told_learned event
  obtain ⟨hlearned', hcontext'⟩ : (t.told env.dry event').learned = t.learned ∧ (t.told env.dry event').context = t.context :=
    t.told_learned event'
  have hcalm' : env.dry.host.Calm := hcalm
  refine ⟨hcalm.told rfl _ h.real, hcalm'.told rfl _ h.dry, ?_, ?_, ?_⟩
  · rw [hcontext, hcontext', h.context]
  · rw [hlearned, hlearned', h.learned]
  · rw [s.events_told, t.events_told, List.filterMap_cons_some he, h.events]

end Level

/-! ## Answers to conditions -/

abbrev Judge := Condition → DataRow → Except RunError Bool

structure Judgement where
  condition : Condition
  row       : DataRow
  answer    : Except RunError Bool

/-- The host's answer to a condition: its own, or the state of the element by the standard check. -/
def judgement? (e : Entry) (past : List Entry) : Option Judgement :=
  match e.moment, past.head?.map Entry.moment with
  | .asked (.judge c row) answer, _ => some ⟨c, row, answer⟩
  | .asked (.inspect _) answer, some (.judging (.ui target check value) row) =>
    some ⟨.ui target check value, row, answer.map (check.holds value)⟩
  | _, _ => none

instance decidableEqAnswer : DecidableEq (Except RunError Bool)
  | .ok a, .ok b       => decidable_of_iff (a = b) ⟨congrArg _, Except.ok.inj⟩
  | .error e, .error f => decidable_of_iff (e = f) ⟨congrArg _, Except.error.inj⟩
  | .ok _, .error _    => isFalse nofun
  | .error _, .ok _    => isFalse nofun

def AnsweredBy (judge : Judge) (e : Entry) (past : List Entry) : Prop :=
  ∀ j ∈ judgement? e past, j.answer = judge j.condition j.row

instance (judge : Judge) : DecidableRel (AnsweredBy judge) := fun e past =>
  inferInstanceAs (Decidable (∀ j ∈ judgement? e past, j.answer = judge j.condition j.row))

def Strays (judge : Judge) (trace : List Entry) : Prop := ¬Always (AnsweredBy judge) trace

def Astray (judge : Judge) (trace : List Entry) : Prop := Rough trace ∨ Strays judge trace

section Answers

variable {judge : Judge} {x : Engine σ α}

theorem Does.strays (h : Does env (Operation.Adds fun _ => True) x) :
    Ensures (fun s => Strays judge s.trace) x (fun _ s => Strays judge s.trace) fun _ s => Strays judge s.trace :=
  h.ensures_trace (fun _ => trivial) fun _ _ _ hpast halways => hpast halways.2

theorem Does.astray (h : Does env (Operation.Adds fun _ => True) x) :
    Ensures (fun s => Astray judge s.trace) x (fun _ s => Astray judge s.trace) fun _ s => Astray judge s.trace := by
  rintro s (hs | hs)
  · exact h.rough.imp (fun _ => id) (fun _ _ => .inl) (fun _ _ => .inl) s hs
  · exact h.strays.imp (fun _ => id) (fun _ _ => .inr) (fun _ _ => .inr) s hs

/-- A condition as the judge says, but that the standard rules go by the row alone where they can. -/
def Env.verdict (env : Env σ) (judge : Judge) (row : DataRow) : Condition → Except RunError Bool
  | .data field op value => if env.host.judges then judge (.data field op value) row else .ok (op.holds field value row)
  | c                    => judge c row

theorem strays_answered {s : Session σ} {q : Query} {j : Judgement} (hj : judgement? ⟨s.world.clock, s.world.control,
    s.context, .asked q (env.host.answer q s.world.host).answer⟩ s.trace = some j) (hne : j.answer ≠ judge j.condition j.row) :
    Strays judge (s.answered env q).trace := by
  obtain ⟨acts, htrace, -⟩ := (s.record (.asked q (env.host.answer q s.world.host).answer)).accept_trace
    (env.host.answer q s.world.host)
  intro halways
  rw [Session.answered, htrace] at halways
  exact hne (halways.split j hj)

theorem evaluate_answered (env : Env σ) (judge : Judge) (row : DataRow) (c : Condition) (s : Session σ) :
    Strays judge (s.after (evaluate env row c)).trace ∨
      evaluate env row c s = ofExcept (env.verdict judge row c) (s.after (evaluate env row c)) := by
  let s₁ := s.record (.judging c row)
  have hask : ∀ {q : Query} {answer : Except RunError Bool}, judgement? ⟨s₁.world.clock, s₁.world.control, s₁.context,
      .asked q (env.host.answer q s₁.world.host).answer⟩ s₁.trace = some ⟨c, row, answer⟩ →
      evaluate env row c s = ofExcept answer (s₁.answered env q) → env.verdict judge row c = judge c row →
      Strays judge (s.after (evaluate env row c)).trace ∨
        evaluate env row c s = ofExcept (env.verdict judge row c) (s.after (evaluate env row c)) := by
    intro q answer hj heval hverdict
    have hafter : s.after (evaluate env row c) = s₁.answered env q := by
      rw [Session.after, heval]
      cases answer <;> rfl
    rw [hafter, hverdict, heval]
    by_cases hanswer : answer = judge c row
    · exact .inr (hanswer ▸ rfl)
    · exact .inl (strays_answered hj hanswer)
  have heval : evaluate env row c s =
      (if env.host.judges = true then ask env (.judge c row) else standardVerdict env row c) s₁ := rfl
  by_cases hjudges : env.host.judges = true
  · rw [if_pos hjudges] at heval
    refine hask (q := .judge c row) rfl heval ?_
    cases c with
    | data field op value   => exact if_pos hjudges
    | ui target check value => rfl
  · rw [if_neg hjudges] at heval
    cases c with
    | data field op value =>
      have hverdict : env.verdict judge row (.data field op value) = .ok (op.holds field value row) := if_neg hjudges
      have hafter : s.after (evaluate env row (.data field op value)) = s₁ := by rw [Session.after, heval]; rfl
      rw [hverdict, hafter]
      exact .inr heval
    | ui target check value =>
      refine hask (q := .inspect target) rfl (heval.trans ?_) rfl
      have hasked : ask env (.inspect target) s₁ =
          ofExcept (env.host.answer (.inspect target) s₁.world.host).answer (s₁.answered env (.inspect target)) := rfl
      rw [standardVerdict, Engine.bind_apply, hasked]
      cases (env.host.answer (.inspect target) s₁.world.host).answer <;> rfl

theorem Host.Calm.after_evaluate (hcalm : env.host.Calm) (row : DataRow) (c : Condition) {s : Session σ} (hs : s.Clear) :
    (s.after (evaluate env row c)).Clear ∧ Unmoved s (s.after (evaluate env row c)) := by
  have hjudges : Does env (Judges row c) (evaluate env row c) := does_evaluate row c fun _ => id
  have hkeeps := hjudges.ensures (E := fun _ s' => s'.Clear ∧ Unmoved s s')
    (fun e he => (keptBy_unmoved s).clearly.keeps hcalm.within ?_ ?_) fun _ => id
  · exact hkeeps.after ⟨hs, rfl, rfl, rfl⟩
  · exact he.adds.mono fun _ => Moment.Enquires.isSilent
  · rintro f rfl
    cases he

end Answers

/-! ## Two actions side by side -/

/-- The dry action comes to what the real one does, unless that goes astray or ends within an attempt. -/
def Mirrors (judge : Judge) (Q : α → Session σ → Session σ → Prop) :
    EStateM.Result Halt (Session σ) α → EStateM.Result Halt (Session σ) α → Prop
  | .ok a s, y    => Astray judge s.trace ∨ ∃ t, y = .ok a t ∧ Q a s t
  | .error e s, y => (Unfinished e s ∨ Strays judge s.trace) ∨ ∃ t, y = .error e t ∧ Level s t

theorem Mirrors.astray {judge : Judge} {Q : α → Session σ → Session σ → Prop} {x : Engine σ α} {s : Session σ}
    {y : EStateM.Result Halt (Session σ) α} (h : Astray judge (s.after x).trace) : Mirrors judge Q (x s) y := by
  unfold Session.after at h
  cases hx : x s with
  | ok a s'    => rw [hx] at h; exact .inl h
  | error e s' => rw [hx] at h; exact .inl (h.imp (fun h => .inr (.inl h)) id)

structure Shadows (env : Env σ) (judge : Judge) (P : Session σ → Session σ → Prop) (x y : Engine σ α)
    (Q : α → Session σ → Session σ → Prop) : Prop where
  real    : Does env (Operation.Adds fun _ => True) x
  dry     : Does env.dry (Operation.Adds fun _ => True) y
  mirrors : ∀ s t, P s t → Strays judge (t.after y).trace ∨ Mirrors judge Q (x s) (y t)

abbrev KeepsLevel (env : Env σ) (judge : Judge) (x y : Engine σ α) : Prop :=
  Shadows env judge Level x y fun _ => Level

namespace Shadows

variable {judge : Judge} {P P' : Session σ → Session σ → Prop} {Q : α → Session σ → Session σ → Prop}

theorem strengthen {x y : Engine σ α} (h : Shadows env judge P x y Q) (hP : ∀ s t, P' s t → P s t) :
    Shadows env judge P' x y Q :=
  ⟨h.real, h.dry, fun s t hst => h.mirrors s t (hP s t hst)⟩

theorem pure {a : α} (h : ∀ s t, P s t → Q a s t) : Shadows env judge P (Pure.pure a) (Pure.pure a) Q :=
  ⟨.pure a, .pure a, fun s t hst => .inr (.inr ⟨t, rfl, h s t hst⟩)⟩

theorem bind {x y : Engine σ α} {f g : α → Engine σ β} {R : α → Session σ → Session σ → Prop}
    {Q : β → Session σ → Session σ → Prop} (hx : Shadows env judge P x y R)
    (hf : ∀ a, Shadows env judge (R a) (f a) (g a) Q) : Shadows env judge P (x >>= f) (y >>= g) Q := by
  refine ⟨.bind hx.real fun a => (hf a).real, .bind hx.dry fun a => (hf a).dry, fun s t hst => ?_⟩
  -- What comes after an action that went astray leaves the trace so, whatever it is.
  have hreal : Astray judge (s.after x).trace → Mirrors judge Q ((x >>= f) s) ((y >>= g) t) := fun h =>
    .astray (Ensures.after_bind (R := fun s => Astray judge s.trace) (fun a => (hf a).real.astray) h)
  have hdry : Strays judge (t.after y).trace → Strays judge (t.after (y >>= g)).trace :=
    Ensures.after_bind (R := fun s => Strays judge s.trace) fun a => (hf a).dry.strays
  obtain hstrays | hxy := hx.mirrors s t hst
  · exact .inl (hdry hstrays)
  cases hxs : x s with
  | ok a s' =>
    rw [hxs] at hxy
    obtain hastray | ⟨t', hyt, hR⟩ := hxy
    · exact .inr (hreal (by rw [Session.after, hxs]; exact hastray))
    · rw [Engine.bind_apply, hxs, Session.after, Engine.bind_apply, hyt]
      exact (hf a).mirrors s' t' hR
  | error e s' =>
    rw [hxs] at hxy
    rw [Engine.bind_apply, hxs, Engine.bind_apply]
    obtain hends | ⟨t', hyt, hlevel⟩ := hxy
    · exact .inr (.inl hends)
    · rw [hyt]
      exact .inr (.inr ⟨t', rfl, hlevel⟩)

theorem fail {Q : α → Session σ → Session σ → Prop} (e : RunError) :
    Shadows env judge Level (FormReplay.fail e) (FormReplay.fail e) Q :=
  ⟨.fail trivial, .fail trivial, fun _ t hst => .inr (.inr ⟨t, rfl, hst⟩)⟩

theorem outOfFuel : Shadows env judge P FormReplay.outOfFuel FormReplay.outOfFuel Q :=
  ⟨.outOfFuel, .outOfFuel, fun _ _ _ => .inr (.inl (.inl (.inl rfl)))⟩

theorem note {m : Moment} (hm : m.isInward = true) : KeepsLevel env judge (FormReplay.note m) (FormReplay.note m) :=
  ⟨.note trivial, .note trivial, fun _ t hst => .inr (.inr ⟨t.record m, rfl, hst.record hm⟩)⟩

theorem modifyContext (f : Context → Context) :
    KeepsLevel env judge (FormReplay.modifyContext f) (FormReplay.modifyContext f) :=
  ⟨.onContext f trivial, .onContext f trivial, fun _ t hst => .inr (.inr ⟨t.onContext f, rfl, hst.onContext f⟩)⟩

theorem visit (i : Nat) :
    Shadows env judge Level (FormReplay.visit i) (FormReplay.visit i) fun _ => LevelAt (σ := σ) i := by
  refine .bind (R := fun _ => LevelAt i) ⟨.onContext _ trivial, .onContext _ trivial, fun s t hst => ?_⟩ fun _ =>
    ⟨.note trivial, .note trivial, fun s t hst => ?_⟩
  · exact .inr (.inr ⟨_, rfl, hst.onContext fun c => { c with stepIndex := i }, rfl⟩)
  · exact .inr (.inr ⟨_, rfl, hst.1.record rfl, hst.2⟩)

theorem target (jumps : Jumps) (i : Nat) (fault : StructuralFault) :
    KeepsLevel env judge (FormReplay.target jumps i fault) (FormReplay.target jumps i fault) := by
  unfold FormReplay.target
  split
  · exact .pure fun _ _ => id
  · exact .fail _

theorem skipBranch (tables : JumpTables) (i : Nat) :
    KeepsLevel env judge (FormReplay.skipBranch tables i) (FormReplay.skipBranch tables i) :=
  .bind (target _ _ _) fun _ => .pure fun _ _ => id

theorem checkEscaped (signal : Signal) :
    KeepsLevel env judge (FormReplay.checkEscaped signal) (FormReplay.checkEscaped signal) := by
  unfold FormReplay.checkEscaped
  split
  · exact .pure fun _ _ => id
  · split
    · exact .fail _
    · exact .fail _

theorem inFrame {first last : Nat} {row : DataRow} {body body' : Engine σ Signal} (hbody : KeepsLevel env judge body body') :
    KeepsLevel env judge (FormReplay.inFrame first last row body) (FormReplay.inFrame first last row body') :=
  .bind (.note rfl) fun _ => .bind hbody fun _ => .bind (.note rfl) fun _ => .pure fun _ _ => id

theorem checkpoint : KeepsLevel env judge (FormReplay.checkpoint env) (FormReplay.checkpoint env.dry) := by
  refine ⟨does_checkpoint fun e he => he.adds fun _ _ => trivial, does_checkpoint fun e he => he.adds fun _ _ => trivial,
    fun s t hst => .inr ?_⟩
  by_cases hfuel : 0 < env.fuel
  · have hdry : 0 < env.dry.fuel := hfuel
    rw [checkpoint_eq hst.real hfuel, checkpoint_eq hst.dry hdry]
    exact .inr ⟨t, rfl, hst⟩
  · rw [checkpoint_of_not_pos hfuel]
    exact .inl (.inl (.inl rfl))

/-! ### What asks or tells the host -/

variable (hcalm : env.host.Calm)
include hcalm

theorem report {event event' : ProgressEvent} (he : event.rehearsed = some event') :
    KeepsLevel env judge (FormReplay.report env event) (FormReplay.report env.dry event') :=
  ⟨.report trivial, .report trivial, fun _ t hst => .inr (.inr ⟨t.told env.dry event', rfl, hst.told hcalm he⟩)⟩

theorem evaluate (row : DataRow) (c : Condition) :
    KeepsLevel env judge (FormReplay.evaluate env row c) (FormReplay.evaluate env.dry row c) := by
  have hadds : ∀ env : Env σ, Does env (Operation.Adds fun _ => True) (FormReplay.evaluate env row c) := fun _ =>
    does_evaluate row c fun _ he => he.adds.mono fun _ _ => trivial
  refine ⟨hadds env, hadds env.dry, fun s t hst => ?_⟩
  have hcalm' : env.dry.host.Calm := hcalm
  obtain hstrays | ht := evaluate_answered env.dry judge row c t
  · exact .inl hstrays
  obtain hstrays | hs := evaluate_answered env judge row c s
  · exact .inr (.astray (.inr hstrays))
  have hlevel : Level (s.after (FormReplay.evaluate env row c)) (t.after (FormReplay.evaluate env.dry row c)) :=
    hst.unmoved (hcalm.after_evaluate row c hst.real) (hcalm'.after_evaluate row c hst.dry)
  have hverdict : env.dry.verdict judge row c = env.verdict judge row c := rfl
  rw [hs, ht, hverdict]
  cases env.verdict judge row c with
  | ok holds => exact .inr (.inr ⟨_, rfl, hlevel⟩)
  | error e  => exact .inr (.inr ⟨_, rfl, hlevel⟩)

theorem executeStep (hdry : env.options.dryRun = false) (hlearning : env.options.learningMode = false) (p : Program)
    (i : Nat) (step : Step) (row : DataRow) :
    Shadows env judge (LevelAt i) (FormReplay.executeStep env p i step row) (FormReplay.executeStep env.dry p i step row)
      fun _ => Level := by
  have hadds : ∀ env : Env σ, Does env (Operation.Adds fun _ => True) (FormReplay.executeStep env p i step row) := by
    intro env
    have hattempt : Does env (Operation.Adds fun _ => True) (attempt env i step row) :=
      does_attempt_adds (fun _ _ => trivial) (fun _ _ _ => trivial) i step row
    exact does_executeStep (fun _ he => he.adds (fun _ _ => trivial) fun _ => trivial) (fun _ => trivial)
      trivial (fun _ _ => trivial) hattempt
  refine ⟨hadds env, hadds env.dry, ?_⟩
  rintro s t ⟨hst, hi⟩
  let t' := t.told env.dry (.stepDryRun i step.kind.typeName t.context.rowIndex)
  have hdried : FormReplay.executeStep env.dry p i step row t = .ok .next t' := by rw [executeStep_dry]; rfl
  have hreal := ensures_executeStep_smooth hcalm hst.real hi hlearning hdry p step row s rfl
  rw [hdried]
  split at hreal
  · rename_i signal s' hexecuted
    rw [hexecuted]
    obtain hrough | ⟨rfl, hclear, hcontext, hlearned, hevents⟩ := hreal
    · exact .inr (.inl (.inl hrough))
    · obtain ⟨hlearned', hcontext'⟩ : t'.learned = t.learned ∧ t'.context = t.context := t.told_learned _
      have hcalm' : env.dry.host.Calm := hcalm
      refine .inr (.inr ⟨t', rfl, hclear, hcalm'.told rfl _ hst.dry, ?_, ?_, ?_⟩)
      · rw [hcontext, hcontext', hst.context]
      · rw [hlearned, hlearned', hst.learned]
      · rw [hevents, t.events_told, hst.events, hst.context]
        rfl
  · rename_i e s' hexecuted
    rw [hexecuted]
    exact .inr (.inl (.inl hreal))

/-! ### Loops -/

omit hcalm

theorem settlePosition {body body' : Bool → Engine σ Signal}
    (hbody : ∀ first, KeepsLevel env judge (body first) (body' first)) (first : Bool) (left : Nat) :
    KeepsLevel env judge (FormReplay.settlePosition body first left) (FormReplay.settlePosition body' first left) := by
  induction left generalizing first with
  | zero => exact .bind (hbody first) fun _ => .pure fun _ _ => id
  | succ left ih =>
    refine .bind (hbody first) fun signal => ?_
    cases signal with
    | repeatLoop => exact ih false
    | _          => exact .pure fun _ _ => id

theorem overPositions {body body' : Nat → Bool → Engine σ Signal}
    (hbody : ∀ i first, KeepsLevel env judge (body i first) (body' i first)) (limit position n : Nat) :
    KeepsLevel env judge (FormReplay.overPositions body limit position n)
      (FormReplay.overPositions body' limit position n) := by
  induction n generalizing position with
  | zero => exact .pure fun _ _ => id
  | succ n ih =>
    refine .bind (settlePosition (hbody position) true limit) fun v => ?_
    cases v with
    | advance  => exact ih (position + 1)
    | leave    => exact .pure fun _ _ => id
    | bubble t => exact .pure fun _ _ => id

theorem whileHolds {holds holds' : Engine σ Bool} {body body' : Nat → Engine σ Signal}
    (hholds : KeepsLevel env judge holds holds') (hbody : ∀ i, KeepsLevel env judge (body i) (body' i))
    (limit iteration repeats n : Nat) :
    KeepsLevel env judge (FormReplay.whileHolds holds body limit iteration repeats n)
      (FormReplay.whileHolds holds' body' limit iteration repeats n) := by
  induction n generalizing iteration repeats with
  | zero => exact .pure fun _ _ => id
  | succ n ih =>
    refine .bind hholds fun go => ?_
    cases go with
    | false => exact .pure fun _ _ => id
    | true =>
      refine .bind (hbody iteration) fun signal => ?_
      cases signal with
      | repeatLoop =>
        dsimp only
        split
        · exact ih _ _
        · exact ih _ _
      | breakLoop => exact .pure fun _ _ => id
      | goto t => exact .pure fun _ _ => id
      | next => exact ih _ _
      | skip => exact ih _ _
      | continueLoop => exact ih _ _

include hcalm

theorem beginRow (p : Program) (position : Nat) (row : DataRow) :
    KeepsLevel env judge (FormReplay.beginRow env p position row) (FormReplay.beginRow env.dry p position row) :=
  .bind (modifyContext _) fun _ => report hcalm rfl

theorem enterRow (p : Program) (isPrimary first : Bool) (position : Nat) (row : DataRow) :
    KeepsLevel env judge (FormReplay.enterRow env p isPrimary first position row)
      (FormReplay.enterRow env.dry p isPrimary first position row) := by
  unfold FormReplay.enterRow
  split
  · exact beginRow hcalm p position row
  · exact modifyContext _

theorem runLoop (p : Program) (start : Nat) (spec : LoopSpec) (row : DataRow) {body body' : DataRow → Engine σ Signal}
    (hbody : ∀ row, KeepsLevel env judge (body row) (body' row)) :
    KeepsLevel env judge (FormReplay.runLoop env p start spec row body) (FormReplay.runLoop env.dry p start spec row body') := by
  have hturn : ∀ i row, KeepsLevel env judge (do FormReplay.report env (.loopIteration start i spec.id); body row)
      (do FormReplay.report env.dry (.loopIteration start i spec.id); body' row) :=
    fun i row => .bind (report hcalm rfl) fun _ => hbody row
  unfold FormReplay.runLoop
  dsimp only
  split
  · exact overPositions (fun i _ => .bind checkpoint fun _ => hturn i row) _ _ _
  · refine whileHolds ?_ (fun i => hturn i row) _ _ _ _
    exact .bind checkpoint fun _ => .bind (modifyContext _) fun _ => evaluate hcalm row _
  · refine .bind (overPositions (fun i first => ?_) _ _ _) fun _ => .bind (modifyContext _) fun _ => .pure fun _ _ => id
    exact .bind checkpoint fun _ => .bind (enterRow hcalm p _ first i _) fun _ => hturn i _

end Shadows

/-! ## Walks -/

/-- A real run that learns nothing, and that the host neither stops nor pauses. -/
structure Env.Straight (env : Env σ) : Prop where
  real    : env.options.dryRun = false
  unasked : env.options.learningMode = false
  calm    : env.host.Calm

section Walks

variable {judge : Judge} (h : env.Straight) (p : Program)
include h

theorem shadows_dispatch {frame frame' : Nat → Nat → DataRow → Engine σ Signal}
    (hframe : ∀ first last row, KeepsLevel env judge (frame first last row) (frame' first last row)) (i : Nat) (step : Step)
    (row : DataRow) :
    Shadows env judge (LevelAt i) (dispatch env p frame i step row) (dispatch env.dry p frame' i step row)
      fun _ => Level := by
  have hgo : ∀ {x y : Engine σ Move}, KeepsLevel env judge x y → Shadows env judge (LevelAt i) x y fun _ => Level :=
    fun hx => hx.strengthen fun _ _ hst => hst.1
  have hpure : ∀ m : Move, Shadows env judge (LevelAt i) (pure m) (pure m) fun _ => Level (σ := σ) :=
    fun m => .pure fun _ _ hst => hst.1
  unfold dispatch
  cases hkind : step.kind with
  | label name       => exact hpure _
  | ifEnd            => exact hpure _
  | loopEnd loopRef  => exact hpure _
  | continueLoop     => exact hpure _
  | breakLoop        => exact hpure _
  | repeatLoop       => exact hpure _
  | goto label =>
    dsimp only
    split
    · exact hpure _
    · exact hgo (.fail _)
  | ifStart condition =>
    refine hgo (.bind (.evaluate h.calm row condition) fun holds => ?_)
    split
    · exact .pure fun _ _ => id
    · exact .bind (.skipBranch _ _) fun _ => .pure fun _ _ => id
  | otherwise => exact hgo (.bind (.target _ _ _) fun _ => .pure fun _ _ => id)
  | loopStart spec =>
    exact hgo (.bind (.target _ _ _) fun stop => .bind (.runLoop h.calm p i spec row (hframe (i + 1) stop)) fun _ =>
      .pure fun _ _ => id)
  | action kind spec => exact .bind (.executeStep h.calm h.real h.unasked p i step row) fun _ => .pure fun _ _ => id

theorem shadows_walk (fuel first last index : Nat) (row : DataRow) :
    KeepsLevel env judge (walk env p fuel first last index row) (walk env.dry p fuel first last index row) := by
  induction fuel generalizing first last index row with
  | zero => exact .outOfFuel
  | succ fuel ih =>
    unfold walk
    split
    · exact .pure fun _ _ => id
    refine .bind .checkpoint fun _ => .bind (.visit index) fun _ => ?_
    split
    · rename_i step hstep
      refine .bind (shadows_dispatch h p (fun a b row => Shadows.inFrame (ih a b a row)) index step row)
        fun m => ?_
      cases m with
      | advance i    => exact ih _ _ _ _
      | leave signal => exact .pure fun _ _ => id
      | jump t =>
        dsimp only
        split
        · exact ih _ _ _ _
        · exact .pure fun _ _ => id
    · exact (Shadows.fail _).strengthen fun _ _ hst => hst.1

theorem shadows_executeProgram : KeepsLevel env judge (executeProgram env p) (executeProgram env.dry p) := by
  have hrange : ∀ row, KeepsLevel env judge (executeRange env p 0 p.workflow.steps.length row)
      (executeRange env.dry p 0 p.workflow.steps.length row) :=
    fun row => Shadows.inFrame (shadows_walk h p env.fuel _ _ _ row)
  have hrows : ∀ rows position, KeepsLevel env judge (executeRows env p position rows)
      (executeRows env.dry p position rows) := by
    intro rows
    induction rows with
    | nil => exact fun _ => .pure fun _ _ => id
    | cons row rows ih =>
      exact fun position => .bind .checkpoint fun _ => .bind (.beginRow h.calm p position row) fun _ =>
        .bind (hrange row) fun signal => .bind (.checkEscaped signal) fun _ => ih (position + 1)
  unfold executeProgram
  split
  · exact .bind (hrange .empty) fun signal => .checkEscaped signal
  · exact hrows p.rows 0

end Walks

/-! ## Runs -/

theorem shadows_execution {judge : Judge} (h : env.Straight) (w : Workflow) (input : RunInput) :
    KeepsLevel env judge (execution env w input) (execution env.dry w input) := by
  unfold execution
  split
  · exact shadows_executeProgram h (w.program w.analyze.1 input env.options)
  · exact .fail _

theorem ComesTo.run_eq {w : Workflow} {input : RunInput} {world : World σ} {r : Except RunError Unit} {s : Session σ}
    (h : ComesTo (execution env w input (started env w world)) r s) :
    run env w input world = some (s.finished env w r) := by
  rw [run, conduct_eq]
  cases r with
  | ok a    => rw [h]; rfl
  | error e => rw [h]; rfl

theorem level_started (w : Workflow) (hcalm : env.host.Calm) (world world' : World σ) :
    Level (started env w world) (started env.dry w world') :=
  Level.told (s := world.session w.handlers) (t := world'.session w.handlers) hcalm ⟨rfl, rfl, rfl, rfl, rfl⟩ rfl

theorem Finished.Smooth.before {w : Workflow} {r : Except RunError Unit} {s : Session σ}
    (h : (s.finished env w r).Smooth) : ¬Rough s.trace ∧ underWay? s.trace = none := by
  obtain ⟨acts, e, htrace, honly, he⟩ := s.told_trace env
    (.runEnded (s.report r).outcome (s.report r).resume (s.report r).rowsProcessed (s.report r).learned.length)
  have hended : (s.ended env r).trace = acts ++ e :: s.trace := htrace
  constructor
  · rintro ⟨e', hmem, he'⟩
    have hmem' : e' ∈ (s.ended env r).trace.reverse := by
      rw [List.mem_reverse, hended]
      exact List.mem_append_right _ (.tail _ hmem)
    rw [h.entries e' hmem'] at he'
    cases he'
  · have hcompleted : underWay? (s.ended env r).trace.reverse.reverse = none := h.completed
    rw [List.reverse_reverse, hended, honly.append_eq (f := underWay?) fun e past act hact => by rw [underWay?, hact]]
      at hcompleted
    rwa [underWay?, he] at hcompleted

/-- **A dry run agrees with a smooth real run.**  Where the real run saw no events and none of its attempts failed, and
the host answered conditions in both runs by the condition and the row alone, the dry run of the same workflow and input
ends with the same report, whatever the surface is like before.  It tells of the same, in the same order, but that it
is a dry run; of a step that starts, that it is not carried out; and of no completion. -/
theorem dry_run_agrees (h : env.Straight) (w : Workflow) (input : RunInput) (world world' : World σ) {f : Finished σ}
    (hrun : run env w input world = some f) (hsmooth : f.Smooth) (judge : Judge)
    (hreal : Always (AnsweredBy judge) (history env w input world))
    (hdry : Always (AnsweredBy judge) (history env.dry w input world')) :
    ∃ f', run env.dry w input world' = some f' ∧ f'.report = f.report ∧
      f'.trace.filterMap Entry.event? = (f.trace.filterMap Entry.event?).filterMap ProgressEvent.rehearsed := by
  obtain ⟨r, s, hcomes, hfinished, -⟩ | ⟨s, -, hnone, -⟩ := run_cases env w input world
  · cases hfinished.symm.trans hrun
    obtain ⟨hrough, hcompleted⟩ := hsmooth.before
    have hstrays : ¬Strays judge s.trace := not_not_intro (hcomes.after ▸ hreal.execution)
    have hmirrors := ((shadows_execution h w input).mirrors _ _ (level_started w h.calm world world')).resolve_left
      (not_not_intro hdry.execution)
    obtain ⟨t, hdried, hlevel⟩ : ∃ t, ComesTo (execution env.dry w input (started env.dry w world')) r t ∧ Level s t := by
      cases r with
      | ok a =>
        rw [hcomes] at hmirrors
        exact hmirrors.resolve_left (not_or_intro hrough hstrays)
      | error e =>
        rw [hcomes] at hmirrors
        refine hmirrors.resolve_left fun hends => ?_
        obtain (hfuel | hends | hends) | hends := hends
        · cases hfuel
        · exact hrough hends
        · exact hends hcompleted
        · exact hstrays hends
    have hreport : t.report r = s.report r := by
      rw [Session.report, Session.report, hlevel.context, hlevel.learned]
    have hended : Level (s.ended env r) (t.ended env.dry r) := by
      rw [Session.ended, Session.ended, hreport]
      exact hlevel.told h.calm rfl
    refine ⟨_, hdried.run_eq, hreport, ?_⟩
    show (t.ended env.dry r).trace.reverse.filterMap Entry.event? =
      ((s.ended env r).trace.reverse.filterMap Entry.event?).filterMap ProgressEvent.rehearsed
    rw [List.filterMap_reverse, List.filterMap_reverse, List.filterMap_reverse]
    exact congrArg List.reverse hended.events
  · cases hnone.symm.trans hrun

def welcomeThenEnter : Workflow :=
  { steps := [{ kind := .loopStart { mode := .data none none } }, { kind := .ifStart (.ui "#member" .visible none) },
      { kind := .action .click { target := some "#welcome" } }, { kind := .ifEnd },
      { kind := .action .input { target := some "#name", value := some (.data "name") } }, { kind := .loopEnd none }] }

def twoPeople : RunInput := ⟨⟨"people", ["Ada", "Bo"].map fun name => .ofFields [("name", .str name)]⟩, []⟩

/-- A surface that goes by the row begun last: all elements are shown for the first one, and none for others. -/
def firstShown : Host (Option Nat) where
  answer q row :=
    match q with
    | .inspect _ => ⟨.ok (if row = some 0 then .shown "" else .missing), row, []⟩
    | q          => ⟨(Host.inert.answer q ()).answer, row, []⟩
  observe event row :=
    match event with
    | .rowStarted i => ⟨(), some i, []⟩
    | _             => ⟨(), row, []⟩
  elapse _ _ row := ⟨(), row, []⟩
  hasClipboard := false

theorem calm_firstShown : firstShown.Calm where
  answer q _ _ hact := by cases q <;> cases hact
  observe event _ _ hact := by cases event <;> cases hact
  elapse _ _ _ _ hact := by cases hact

/-- Two rows, of which Ada's alone is a member's, entered and rehearsed. -/
theorem two_people_rehearsed :
    let env : Env (Option Nat) := ⟨firstShown, {}, {}, 10, ⟨0, 0⟩⟩
    ∃ f f', run env welcomeThenEnter twoPeople { host := none } = some f ∧ f.Smooth ∧
      run env.dry welcomeThenEnter twoPeople { host := none } = some f' ∧ f'.report = f.report ∧
      f'.trace.filterMap Entry.event? = [.runStarted "" { dryRun := true },
        .rowStarted 0, .loopIteration 0 0 none, .stepDryRun 2 "click" 0, .stepDryRun 4 "input" 0,
        .rowStarted 1, .loopIteration 0 1 none, .stepDryRun 4 "input" 1, .runEnded (.completed 2) none 2 0] := by
  intro env
  let judge : Judge := fun _ row => .ok (row.getText? "name" == some "Ada")
  have hstraight : env.Straight := ⟨rfl, rfl, calm_firstShown⟩
  have hanswers : Always (AnsweredBy judge) (history env welcomeThenEnter twoPeople { host := none }) ∧
      Always (AnsweredBy judge) (history env.dry welcomeThenEnter twoPeople { host := none }) := by
    decide +kernel
  have hreal : (run env welcomeThenEnter twoPeople { host := none }).map (fun f =>
      (f.trace.all Entry.isSmooth, underWay? f.trace.reverse,
        (f.trace.filterMap Entry.event?).filterMap ProgressEvent.rehearsed)) =
      some (true, none, [.runStarted "" { dryRun := true },
        .rowStarted 0, .loopIteration 0 0 none, .stepDryRun 2 "click" 0, .stepDryRun 4 "input" 0,
        .rowStarted 1, .loopIteration 0 1 none, .stepDryRun 4 "input" 1, .runEnded (.completed 2) none 2 0]) := by
    decide +kernel
  obtain ⟨f, hrun, hf⟩ := Option.map_eq_some_iff.1 hreal
  obtain ⟨hentries, hcompleted, hevents⟩ : _ ∧ _ ∧ _ := by simpa only [Prod.mk.injEq] using hf
  have hsmooth : f.Smooth := ⟨List.all_eq_true.1 hentries, hcompleted⟩
  obtain ⟨f', hdried, hreport, hevents'⟩ :=
    dry_run_agrees hstraight welcomeThenEnter twoPeople _ { host := none } hrun hsmooth judge hanswers.1 hanswers.2
  exact ⟨f, f', hrun, hsmooth, hdried, hreport, hevents'.trans hevents⟩

end FormReplay
