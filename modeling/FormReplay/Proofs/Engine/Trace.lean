import FormReplay.Proofs.Engine.Frame
/-!
# Reading a trace

A trace is judged entry by entry, each with all that came before it (`Always`).  Most operations add entries
of a few kinds only; what entries of these kinds keep (`KeptBy`), every action made of such operations keeps.
So a property of all runs needs an argument only where the engine adds the entries that it is about.
-/
namespace FormReplay

variable {σ α : Type} {env : Env σ}

/-! ## Entries and their past -/

/-- Every entry of a trace, the newest first, is right after all that came before it. -/
def Always (R : Entry → List Entry → Prop) : List Entry → Prop
  | []        => True
  | e :: past => R e past ∧ Always R past

instance decidableAlways (R : Entry → List Entry → Prop) [DecidableRel R] : DecidablePred (Always R)
  | []        => isTrue trivial
  | e :: past =>
    have := decidableAlways R past
    inferInstanceAs (Decidable (R e past ∧ Always R past))

/-- All entries of a run, the newest first, however the run ends and also where its fuel does not suffice. -/
def history (env : Env σ) (w : Workflow) (input : RunInput) (world : World σ) : List Entry :=
  match conduct env w input (world.session w.handlers) with
  | .ok _ s    => s.trace
  | .error _ s => s.trace

theorem Always.of_append {R : Entry → List Entry → Prop} {newer past : List Entry} (h : Always R (newer ++ past)) :
    Always R past := by
  induction newer with
  | nil => exact h
  | cons _ newer ih => exact ih h.2

theorem Always.split {R : Entry → List Entry → Prop} {newer past : List Entry} {e : Entry}
    (h : Always R (newer ++ e :: past)) : R e past := h.of_append.1

def Moment.IsAct : Moment → Prop
  | .acted _ => True
  | _        => False

theorem Moment.IsAct.exists {m : Moment} (h : m.IsAct) : ∃ act, m = .acted act := by
  unfold Moment.IsAct at h
  split at h
  · exact ⟨_, rfl⟩
  · exact h.elim

def OnlyActs (trace : List Entry) : Prop := ∀ e ∈ trace, ∃ act, e.moment = .acted act

theorem OnlyActs.append_eq {β : Type} {f : List Entry → β}
    (hf : ∀ e past act, e.moment = .acted act → f (e :: past) = f past) {acts : List Entry} (h : OnlyActs acts)
    (past : List Entry) : f (acts ++ past) = f past := by
  induction acts with
  | nil => rfl
  | cons e acts ih =>
    obtain ⟨act, hact⟩ := h e (.head _)
    exact (hf e _ act hact).trans (ih fun e he => h e (.tail _ he))

theorem Session.accept_trace (s : Session σ) (r : Reply σ α) :
    ∃ acts, (s.accept r).trace = acts ++ s.trace ∧ OnlyActs acts := by
  obtain ⟨answer, host, done⟩ := r
  suffices h : ∀ (done : List HostAct) (s : Session σ),
      ∃ acts, (done.foldl Session.obey s).trace = acts ++ s.trace ∧ OnlyActs acts from
    h done { s with world.host := host }
  intro done
  induction done with
  | nil => exact fun s => ⟨[], rfl, fun _ he => absurd he List.not_mem_nil⟩
  | cons act done ih =>
    intro s
    obtain ⟨acts, hacts, honly⟩ := ih (s.obey act)
    have hobey : (s.obey act).trace = ⟨s.world.clock, s.world.control, s.context, .acted act⟩ :: s.trace := by
      cases act <;> rfl
    refine ⟨acts ++ [⟨s.world.clock, s.world.control, s.context, .acted act⟩], ?_, fun e he => ?_⟩
    · rw [List.foldl_cons, hacts, hobey, List.append_assoc]
      rfl
    · rcases List.mem_append.1 he with he | he
      · exact honly e he
      · exact ⟨act, congrArg Entry.moment (List.mem_singleton.1 he)⟩

theorem Session.read_accept {β : Type} (read : Session σ → β) (hread : ∀ s act, read (s.obey act) = read s)
    (s : Session σ) (r : Reply σ α) : read (s.accept r) = read { s with world.host := r.host } := by
  obtain ⟨answer, host, acts⟩ := r
  suffices h : ∀ (acts : List HostAct) (s : Session σ), read (acts.foldl obey s) = read s from
    h acts { s with world.host := host }
  intro acts
  induction acts with
  | nil => exact fun _ => rfl
  | cons act acts ih => exact fun s => (ih (s.obey act)).trans (hread s act)

theorem Session.accept_clock (s : Session σ) (r : Reply σ α) : (s.accept r).world.clock = s.world.clock :=
  read_accept (fun s => s.world.clock) (fun _ act => by cases act <;> rfl) s r

theorem Session.accept_host (s : Session σ) (r : Reply σ α) : (s.accept r).world.host = r.host :=
  read_accept (fun s => s.world.host) (fun _ act => by cases act <;> rfl) s r

def Moment.IsExecution : Moment → Prop
  | .asked (.execute _ _) _ => True
  | _                       => False

/-! ## What entries of some kinds keep -/

/-- An operation adds no entries but of `M`, and is not taken as a whole. -/
def Operation.Adds (M : Moment → Prop) : Operation σ → Prop
  | .ask q                      => ∀ r, M (.asked q r)
  | .report e                   => M (.progress e)
  | .note m                     => M m
  | .sleep reason ms            => M (.slept reason ms)
  | .edit _ | .fail _ | .observe => True
  | .whole _                    => False

theorem Operation.Adds.mono {M N : Moment → Prop} {e : Operation σ} (h : e.Adds M) (hMN : ∀ m, M m → N m) : e.Adds N := by
  cases e with
  | ask q           => exact fun r => hMN _ (h r)
  | report e        => exact hMN _ h
  | note m          => exact hMN _ h
  | sleep reason ms => exact hMN _ h
  | edit f          => trivial
  | fail e          => trivial
  | observe         => trivial
  | whole x         => exact h.elim

/-! Hosts are bounded by what they may do to a run. -/

/-- The host does nothing but what `A` allows, whatever it is asked or told and however time passes. -/
structure Host.Within (A : HostAct → Prop) (h : Host σ) : Prop where
  answer (q : Query) (s : σ) : ∀ act ∈ (h.answer q s).acts, A act
  observe (e : ProgressEvent) (s : σ) : ∀ act ∈ (h.observe e s).acts, A act
  elapse (before after : Nat) (s : σ) : ∀ act ∈ (h.elapse before after s).acts, A act

theorem Host.within_all (h : Host σ) : h.Within fun _ => True :=
  ⟨fun _ _ _ _ => trivial, fun _ _ _ _ => trivial, fun _ _ _ _ _ => trivial⟩

/-- Entries of `M` and acts of `A` keep a property, and so do the host's own state and the passing of time. -/
structure Withstands (A : HostAct → Prop) (M : Moment → Prop) (I : Session σ → Prop) : Prop where
  record (s : Session σ) (m : Moment) : M m → I s → I (s.record m)
  obey (s : Session σ) (act : HostAct) : A act → I s → I (s.obey act)
  host (s : Session σ) (h : σ) : I s → I { s with world.host := h }
  clock (s : Session σ) (t : Nat) : s.world.clock ≤ t → I s → I { s with world.clock := t }

namespace Withstands

variable {A : HostAct → Prop} {M : Moment → Prop} {I : Session σ → Prop} (h : Withstands A M I)
include h

theorem accept {s : Session σ} {r : Reply σ α} (hr : ∀ act ∈ r.acts, A act) (hs : I s) : I (s.accept r) := by
  obtain ⟨answer, host, acts⟩ := r
  suffices hall : ∀ (acts : List HostAct) (s : Session σ), (∀ act ∈ acts, A act) → I s → I (acts.foldl Session.obey s) from
    hall acts _ hr (h.host s host hs)
  intro acts
  induction acts with
  | nil => exact fun _ _ => id
  | cons act acts ih =>
    exact fun s hacts hs => ih _ (fun act hact => hacts act (.tail _ hact)) (h.obey s act (hacts act (.head _)) hs)

variable (hhost : env.host.Within A)
include hhost

/-! What the host does within an operation comes after the entry of the operation. -/

theorem afterAsk {s : Session σ} {q : Query} (hs : I (s.record (.asked q (env.host.answer q s.world.host).answer))) :
    I (s.answered env q) :=
  h.accept (hhost.answer _ _) hs

theorem afterReport {s : Session σ} {e : ProgressEvent} (hs : I (s.record (.progress e))) : I (s.told env e) :=
  h.accept (hhost.observe _ _) hs

theorem afterSleep {s : Session σ} {reason : SleepReason} {ms : Nat} (hs : I (s.record (.slept reason ms))) :
    I (s.rested env reason ms) :=
  h.accept (hhost.elapse _ _ _) (h.clock (s.record _) _ (Nat.le_add_right _ _) hs)

theorem answered {s : Session σ} {q : Query} (hq : ∀ r, M (.asked q r)) (hs : I s) : I (s.answered env q) :=
  h.afterAsk hhost (h.record s _ (hq _) hs)

theorem told {s : Session σ} {e : ProgressEvent} (he : M (.progress e)) (hs : I s) : I (s.told env e) :=
  h.afterReport hhost (h.record s _ he hs)

theorem rested {s : Session σ} {reason : SleepReason} {ms : Nat} (hm : M (.slept reason ms)) (hs : I s) :
    I (s.rested env reason ms) :=
  h.afterSleep hhost (h.record s _ hm hs)

/-- Operations that add entries of `M` only, and whose edits keep the property, keep it. -/
theorem keeps {e : Operation σ} (he : e.Adds M) (hedit : ∀ f, e = .edit f → Blind f → ∀ s, I s → I (f s)) :
    e.Keeps env I fun _ => I := by
  cases e with
  | ask q           => exact .ask (fun s _ hs _ => h.answered hhost he hs) fun s _ hs _ => h.answered hhost he hs
  | report e        => exact fun s hs => h.told hhost he hs
  | note m          => exact fun s hs => h.record s m he hs
  | sleep reason ms => exact fun s hs => h.rested hhost he hs
  | edit f          => exact hedit f rfl
  | fail e          => exact fun _ => id
  | observe         => exact fun _ _ => id
  | whole x         => exact he.elim

end Withstands

abbrev KeptByActs (I : Session σ → Prop) : Prop := Withstands (fun _ => True) (fun _ => False) I

/-- Entries of `M` make `I` out of `J`, acts of the host keep it, and it is more than `J`.  So `J` may fall behind the
trace between two operations, while acts fall within one. -/
structure Renews (M : Moment → Prop) (J I : Session σ → Prop) : Prop where
  record (s : Session σ) (m : Moment) : M m → J s → I (s.record m)
  acts : KeptByActs I
  le (s : Session σ) : I s → J s

namespace Renews

variable {M : Moment → Prop} {J I : Session σ → Prop} (h : Renews M J I)
include h

theorem answered {s : Session σ} {q : Query} (hq : ∀ r, M (.asked q r)) (hs : J s) : I (s.answered env q) :=
  h.acts.afterAsk env.host.within_all (h.record s _ (hq _) hs)

theorem told {s : Session σ} {e : ProgressEvent} (he : M (.progress e)) (hs : J s) : I (s.told env e) :=
  h.acts.afterReport env.host.within_all (h.record s _ he hs)

theorem rested {s : Session σ} {reason : SleepReason} {ms : Nat} (hm : M (.slept reason ms)) (hs : J s) :
    I (s.rested env reason ms) :=
  h.acts.afterSleep env.host.within_all (h.record s _ hm hs)

theorem keeps {e : Operation σ} (he : e.Adds M) (hedit : ∀ f, e = .edit f → Blind f → ∀ s, J s → J (f s)) :
    e.Keeps env J fun _ => J := by
  cases e with
  | ask q           => exact .ask (fun s _ hs _ => h.le _ (h.answered he hs)) fun s _ hs _ => h.le _ (h.answered he hs)
  | report e        => exact fun s hs => h.le _ (h.told he hs)
  | note m          => exact fun s hs => h.le _ (h.record s m he hs)
  | sleep reason ms => exact fun s hs => h.le _ (h.rested he hs)
  | edit f          => exact hedit f rfl
  | fail e          => exact fun _ => id
  | observe         => exact fun _ _ => id
  | whole x         => exact he.elim

end Renews

theorem Operation.Adds.outward {M : Moment → Prop} {e : Operation σ} (h : e.Adds M) (hout : e.Outward) :
    e.Adds fun m => M m ∧ ∀ act, m ≠ .acted act := by
  cases e with
  | ask q           => exact fun r => ⟨h r, nofun⟩
  | report e        => exact ⟨h, nofun⟩
  | sleep reason ms => exact ⟨h, nofun⟩
  | note m          => exact ⟨h, fun act hm => by subst hm; exact hout⟩
  | edit f          => trivial
  | fail e          => trivial
  | observe         => trivial
  | whole x         => exact h.elim

/-- Entries of `M` keep a property, acts of the host among them, and it does not hang on the world. -/
structure KeptBy (M : Moment → Prop) (I : Session σ → Prop) : Prop where
  acted (act : HostAct) : M (.acted act)
  record (s : Session σ) (m : Moment) : M m → I s → I (s.record m)
  world (s : Session σ) (w : World σ) : I s → I { s with world := w }

namespace KeptBy

variable {M : Moment → Prop} {I : Session σ → Prop}

theorem ofTrace {T : List Entry → Prop} (acted : ∀ act, M (.acted act))
    (cons : ∀ e past, M e.moment → T past → T (e :: past)) : KeptBy M fun s : Session σ => T s.trace :=
  ⟨acted, fun _ _ hm hs => cons _ _ hm hs, fun _ _ => id⟩

theorem withstands (h : KeptBy M I) : Withstands (fun _ => True) M I where
  record := h.record
  obey s act _ hs := by
    have hrecord := h.record s (.acted act) (h.acted act) hs
    cases act <;> exact h.world (s.record _) _ hrecord
  host s _ := h.world s _
  clock s _ _ := h.world s _

theorem accept (h : KeptBy M I) (s : Session σ) (r : Reply σ α) (hs : I s) : I (s.accept r) :=
  h.withstands.accept (fun _ _ => trivial) hs

theorem answered (h : KeptBy M I) (s : Session σ) (q : Query) (hq : ∀ r, M (.asked q r)) (hs : I s) :
    I (s.answered env q) :=
  h.withstands.answered env.host.within_all hq hs

theorem told (h : KeptBy M I) (s : Session σ) (e : ProgressEvent) (he : M (.progress e)) (hs : I s) :
    I (s.told env e) :=
  h.withstands.told env.host.within_all he hs

theorem rested (h : KeptBy M I) (s : Session σ) (reason : SleepReason) (ms : Nat) (hm : M (.slept reason ms))
    (hs : I s) : I (s.rested env reason ms) :=
  h.withstands.rested env.host.within_all hm hs

theorem keeps (h : KeptBy M I) {e : Operation σ} (he : e.Adds M)
    (hedit : ∀ f, e = .edit f → Blind f → ∀ s, I s → I (f s)) : e.Keeps env I fun _ => I :=
  h.withstands.keeps env.host.within_all he hedit

end KeptBy

section Traces

variable {M : Moment → Prop} {T : List Entry → Prop} (acted : ∀ act, M (.acted act))
  (cons : ∀ e past, M e.moment → T past → T (e :: past))
include acted cons

theorem Operation.Adds.keeps {e : Operation σ} (he : e.Adds M) :
    e.Keeps env (fun s => T s.trace) fun _ s => T s.trace :=
  (KeptBy.ofTrace acted cons).keeps he fun f _ hf s hs => by rw [hf.trace_eq]; exact hs

/-- **What entries of `M` keep, an action that adds no others keeps.** -/
theorem Does.ensures_trace {x : Engine σ α} (hx : Does env (Operation.Adds M) x) :
    Ensures (fun s => T s.trace) x (fun _ s => T s.trace) fun _ s => T s.trace :=
  hx.ensures (fun _ he => he.keeps acted cons) fun _ => id

end Traces

def GrownBy (M : Moment → Prop) (past trace : List Entry) : Prop := ∃ new, trace = new ++ past ∧ ∀ e ∈ new, M e.moment

theorem GrownBy.refl (M : Moment → Prop) (past : List Entry) : GrownBy M past past :=
  ⟨[], rfl, fun _ he => absurd he List.not_mem_nil⟩

theorem GrownBy.cons {M : Moment → Prop} {past trace : List Entry} (h : GrownBy M past trace) {e : Entry} (he : M e.moment) :
    GrownBy M past (e :: trace) := by
  obtain ⟨new, rfl, hnew⟩ := h
  exact ⟨e :: new, rfl, List.forall_mem_cons.2 ⟨he, hnew⟩⟩

theorem Does.grows {M : Moment → Prop} (acted : ∀ act, M (.acted act)) {x : Engine σ α} (hx : Does env (Operation.Adds M) x)
    (past : List Entry) :
    Ensures (fun s => GrownBy M past s.trace) x (fun _ s => GrownBy M past s.trace) fun _ s => GrownBy M past s.trace :=
  hx.ensures_trace acted fun _ _ hm h => h.cons hm

/-! ## The entries of each part of the engine -/

def Moment.Enquires : Moment → Prop
  | .asked (.inspect _) _ | .asked .clipboard _ | .asked (.resolve ..) _ | .asked (.judge ..) _ => True
  | .resolving .. | .judging .. => True
  | _ => False

def Moment.IsLook : Moment → Prop
  | .asked (.inspect _) _ | .asked .clipboard _ | .asked (.resolve ..) _ | .asked (.judge ..) _ => True
  | .resolving .. | .judging .. | .slept .. | .acted _ => True
  | _ => False

theorem Moment.Enquires.isLook {m : Moment} (h : m.Enquires) : m.IsLook := by
  unfold Moment.Enquires at h
  split at h <;> trivial

/-- The entries that resolving interruptions, looking at the surface and waiting add, and the turns of loops. -/
def Moment.IsMinor : Moment → Prop
  | .asked (.execute ..) _ | .attempted _ | .visited _ | .entered .. | .left _ => False
  | .progress (.runStarted ..) | .progress (.runEnded ..) | .progress (.rowStarted _) => False
  | .progress (.stepDryRun ..) | .progress (.stepStarted ..) | .progress (.stepCompleted ..) => False
  | .progress (.stepRetry ..) | .progress (.stepFailed ..) => False
  | _ => True

/-- The entries that resolving interruptions, looking at the surface, waiting and reporting success add. -/
def Moment.IsAside : Moment → Prop
  | .asked (.execute ..) _ | .progress (.stepFailed ..) | .attempted _ | .visited _ | .entered .. | .left _ => False
  | _ => True

def Moment.Steers : Moment → Prop
  | .visited _ | .entered .. | .left _ | .progress (.stepFailed ..) => True
  | _ => False

theorem Moment.IsAside.not_steers {m : Moment} (h : m.IsAside) : ¬m.Steers := by
  intro hsteers
  unfold Moment.Steers at hsteers
  split at hsteers <;> first | exact h | exact hsteers

theorem Judges.adds {row : DataRow} {c : Condition} {e : Operation σ} (he : Judges row c e) : e.Adds Moment.Enquires := by
  cases he with
  | judging           => trivial
  | judge | inspect _ => exact fun _ => trivial

theorem Values.adds {row : DataRow} {source : ValueSource} {e : Operation σ} (he : Values row source e) :
    e.Adds Moment.Enquires := by
  cases he with
  | resolving | fault _ => trivial
  | resolve | clipboard => exact fun _ => trivial

section Looks

variable {M : Moment → Prop} (hM : ∀ m, m.IsLook → M m)
include hM

theorem Rests.adds {reason : SleepReason} {e : Operation σ} (he : Rests reason e) : e.Adds M := by
  cases he with
  | sleep ms => exact hM _ trivial
  | stopped  => trivial

theorem Looks.adds {e : Operation σ} (he : Looks e) : e.Adds M := by
  cases he with
  | rest hrest => exact hrest.adds hM
  | judges h   => exact h.adds.mono fun _ h => hM _ h.isLook
  | values h   => exact h.adds.mono fun _ h => hM _ h.isLook
  | inspect _  => exact fun _ => hM _ trivial
  | waitPoll _ => exact hM _ trivial
  | timedOut _ => trivial

end Looks

theorem Moment.IsLook.isAside {m : Moment} (h : m.IsLook) : m.IsAside := by
  unfold Moment.IsLook at h
  split at h <;> trivial

theorem Moment.IsLook.isMinor {m : Moment} (h : m.IsLook) : m.IsMinor := by
  unfold Moment.IsLook at h
  split at h <;> trivial

theorem Moment.IsMinor.isAside {m : Moment} (h : m.IsMinor) : m.IsAside := by
  unfold Moment.IsAside
  split <;> first | exact h | trivial

theorem Waits.minor {e : Operation σ} (he : Waits e) : e.Adds Moment.IsMinor := by
  cases he with
  | request _ => exact fun _ => trivial
  | _         => trivial

theorem Decides.minor {e : Operation σ} (he : Decides e) : e.Adds Moment.IsMinor := by
  cases he with
  | wait he => exact he.minor
  | _       => trivial

theorem Resolves.does {x : Engine σ α} (hx : Resolves env (.whole x)) :
    Does env (fun e => e.Adds Moment.IsMinor ∧ e.LeavesPlace) x := by
  cases hx with
  | halt                => exact does_halt ⟨trivial, fun _ => ⟨rfl, rfl, rfl, rfl⟩⟩ ⟨trivial, trivial⟩
  | await event options => exact does_awaitDecision event options fun _ he => ⟨he.minor, he.leavesPlace⟩
  | rest hrest          => cases hrest

theorem Resolves.cases {e : Operation σ} (he : Resolves env e) :
    (∃ α : Type, e = .whole (FormReplay.halt : Engine σ α)) ∨ (∃ event options, e = .whole (awaitDecision env event options)) ∨
      e.Adds Moment.IsMinor ∧ e.Outward ∧ e.LeavesControl := by
  cases he with
  | @halt β                  => exact .inl ⟨β, rfl⟩
  | await event options      => exact .inr (.inl ⟨event, options, rfl⟩)
  | rest hrest =>
    exact .inr (.inr ⟨hrest.adds fun _ => Moment.IsLook.isMinor, hrest.outward, hrest.leavesControl⟩)
  | detect                   => exact .inr (.inr ⟨fun _ => trivial, trivial, trivial⟩)
  | press _ _ | dismiss _    => exact .inr (.inr ⟨fun _ => trivial, trivial, trivial⟩)
  | acknowledge _ | stall _  => exact .inr (.inr ⟨trivial, trivial, fun _ => rfl⟩)
  | learn _ _                => exact .inr (.inr ⟨trivial, trivial, fun _ => rfl⟩)
  | _                        => exact .inr (.inr ⟨trivial, trivial, trivial⟩)

theorem Does.minor {x : Engine σ α} (hx : Does env (Resolves env) x) :
    Does env (fun e => e.Adds Moment.IsMinor ∧ e.LeavesPlace) x :=
  hx.unfold (fun _ hy => hy.does) fun _ he hwhole => by
    obtain ⟨_, h⟩ | ⟨_, _, h⟩ | h := he.cases
    · exact absurd h (hwhole _)
    · exact absurd h (hwhole _)
    · exact ⟨h.1, he.leavesPlace⟩

section Minor

variable {M : Moment → Prop} (hM : ∀ m, m.IsMinor → M m)
include hM

theorem Loops.minor (hrow : ∀ r, M (.progress (.rowStarted r))) {start : Nat} {e : Operation σ} (he : Loops start e) :
    e.Adds M := by
  cases he with
  | rest hrest     => exact hrest.adds fun _ h => hM _ h.isMinor
  | judges h       => exact h.adds.mono fun _ h => hM _ h.isLook.isMinor
  | iteration _ _  => exact hM _ trivial
  | rowStarted row => exact hrow row
  | _              => trivial

theorem Rows.minor (hrow : ∀ r, M (.progress (.rowStarted r))) {e : Operation σ} (he : Rows e) : e.Adds M := by
  cases he with
  | rest hrest     => exact hrest.adds fun _ h => hM _ h.isMinor
  | rowStarted row => exact hrow row
  | began _ _      => trivial

theorem Acts.minor {step : Step} (hexecute : ∀ value r, M (.asked (.execute step value) r)) {e : Operation σ}
    (he : Acts step e) : e.Adds M := by
  cases he with
  | look he   => exact he.adds fun _ h => hM _ h.isMinor
  | execute v => exact hexecute v

theorem does_attempt_minor {step : Step} (hexecute : ∀ value r, M (.asked (.execute step value) r)) (index : Nat)
    (row : DataRow) : Does env (fun e => e.Adds M ∧ e.LeavesPlace) (attempt env index step row) := by
  have hattempt : Does env (Attempts env step) (attempt env index step row) := does_attempt index step row fun _ => id
  refine hattempt.unfold (fun y hy => ?_) fun e he hwhole => ?_
  · cases hy with
    | resolve hy => exact hy.does.mono fun _ he => ⟨he.1.mono hM, he.2⟩
    | act hy =>
      cases hy with
      | look hy =>
        cases hy with
        | rest hy | judges hy | values hy => cases hy
  · cases he with
    | notAnAction _ _ => exact ⟨trivial, trivial⟩
    | act he          => exact ⟨he.minor hM hexecute, he.leavesPlace⟩
    | resolve he =>
      obtain ⟨_, h⟩ | ⟨_, _, h⟩ | h := he.cases
      · exact absurd h (hwhole _)
      · exact absurd h (hwhole _)
      · exact ⟨h.1.mono hM, he.leavesPlace⟩

end Minor

/-! ### What happens within a row -/

def Moment.KeepsRow : Moment → Prop
  | .progress (.rowStarted _) | .entered .. | .left _ => False
  | _ => True

theorem Moment.IsMinor.keepsRow {m : Moment} (h : m.IsMinor) : m.KeepsRow := by
  unfold Moment.KeepsRow
  split <;> first | exact h | trivial

structure KeptWithinRow (I : Session σ → Prop) : Prop where
  keptBy : KeptBy Moment.KeepsRow I
  congr (s s' : Session σ) : s'.trace = s.trace → s'.context.rowIndex = s.context.rowIndex →
    s'.context.rowsProcessed = s.context.rowsProcessed → I s → I s'

namespace KeptWithinRow

variable {I : Session σ → Prop} (h : KeptWithinRow I) {E : Halt → Session σ → Prop} (hE : ∀ e s, I s → E e s)
include h

theorem keeps {e : Operation σ} (he : e.Adds Moment.KeepsRow) (hrow : e.LeavesRow) : e.Keeps env I fun _ => I := by
  refine h.keptBy.keeps he fun f hf hblind s hs => ?_
  subst hf
  exact h.congr s (f s) (hblind.trace_eq s) (hrow s).1 (hrow s).2 hs

theorem told {s : Session σ} (event : ProgressEvent) (hevent : ∀ r, event ≠ .rowStarted r) (hs : I s) :
    I (s.told env event) := by
  refine h.keptBy.told s event ?_ hs
  cases event with
  | rowStarted r => exact absurd rfl (hevent r)
  | _            => trivial

include hE

theorem ensures {F : Operation σ → Prop} {x : Engine σ α} (hx : Does env F x)
    (hF : ∀ e, F e → e.Adds Moment.KeepsRow ∧ e.LeavesRow) : Ensures I x (fun _ => I) E :=
  (hx.ensures (fun e he => h.keeps (hF e he).1 (hF e he).2) fun _ => id).imp (fun _ => id) (fun _ _ => id) hE

theorem rest : Ensures I (checkpoint env) (fun _ => I) E := by
  have hrest : Does env (Rests .pausePoll) (checkpoint env) := does_checkpoint fun _ => id
  exact h.ensures hE hrest fun e he => ⟨he.adds fun _ hm => hm.isMinor.keepsRow, he.leavesPlace.leavesRow⟩

theorem evaluate (row : DataRow) (c : Condition) : Ensures I (evaluate env row c) (fun _ => I) E := by
  have hlooks : Does env Looks (FormReplay.evaluate env row c) := does_evaluate row c fun _ => .judges
  exact h.ensures hE hlooks fun e he => ⟨he.adds fun _ hm => hm.isMinor.keepsRow, he.leavesPlace.leavesRow⟩

theorem executeStep (p : Program) (index : Nat) (step : Step) (row : DataRow) :
    Ensures I (executeStep env p index step row) (fun signal s => I s ∧ signal.OfStep p step) E := by
  have hadds : ∀ e : Operation σ, Steps index e → e.Adds Moment.KeepsRow := fun e he => by
    cases he with
    | pause h | delay h => exact h.adds fun _ hm => hm.isMinor.keepsRow
    | _                 => trivial
  have hattempt : Ensures I (attempt env index step row) (fun _ => I) fun _ => I :=
    h.ensures (fun _ _ => id) (does_attempt_minor (M := Moment.KeepsRow) (fun _ => Moment.IsMinor.keepsRow) (fun _ _ => trivial)
      index row) fun _ he => ⟨he.1, he.2.leavesRow⟩
  have hkeeps : ∀ e, Steps index e → e.Keeps env I E := fun e he =>
    (h.keeps (hadds e he) he.leavesRow).weaken hE he.ne_observe
  have hrule : StepRule env p index step row I I (fun _ => True) (fun s => I s ∧ s.Begins index) (fun _ => I) E :=
    .ofKeeps hkeeps (hE _) rfl (fun _ s _ _ _ => hE _ s) (fun _ _ hs => h.told _ nofun hs)
      (hattempt.imp (fun _ hs => hs.1) (fun _ _ => id) fun e s hs => ⟨hE e s hs, fun _ _ _ => hs⟩)
  exact hrule.executeStep

end KeptWithinRow

section Adds

variable {M : Moment → Prop} (hM : ∀ m, m.IsAside → M m)
include hM

theorem Loops.adds {start : Nat} {e : Operation σ} (he : Loops start e) : e.Adds M :=
  he.minor (fun _ h => hM _ h.isAside) fun _ => hM _ trivial

theorem Rows.adds {e : Operation σ} (he : Rows e) : e.Adds M := he.minor (fun _ h => hM _ h.isAside) fun _ => hM _ trivial

theorem Steps.adds (hattempted : ∀ i, M (.attempted i)) {index : Nat} {e : Operation σ} (he : Steps index e) :
    e.Adds M := by
  cases he with
  | pause hrest | delay hrest => exact hrest.adds fun _ h => hM _ h.isAside
  | attempted => exact hattempted index
  | dryRun _ _ | started _ _ | completed _ | retry _ _ => exact hM _ trivial
  | current | fail _ _ => trivial

theorem Does.ofResolves {x : Engine σ α} (hx : Does env (Resolves env) x) : Does env (Operation.Adds M) x :=
  hx.minor.mono fun _ he => he.1.mono fun _ h => hM _ h.isAside

theorem does_attempt_adds (hexecute : ∀ step value r, M (.asked (.execute step value) r)) (index : Nat) (step : Step)
    (row : DataRow) : Does env (Operation.Adds M) (attempt env index step row) :=
  (does_attempt_minor (fun _ h => hM _ h.isAside) (hexecute step) index row).mono fun _ he => he.1

end Adds

/-! ## Properties of frames and traces -/

/-- A property of the open frames and the trace is kept by a program if it is by the entries that steer. -/
theorem ProgramRule.ofTrace {p : Program} (tables : p.tables.Within p.workflow.steps.length)
    {T : Option Nat → Nest → List Entry → Prop} {E : List Entry → Prop}
    (aside : ∀ goal nest e past, ¬e.moment.Steers → T goal nest past → T goal nest (e :: past))
    (visit : ∀ goal f at_ outer i e past, e.moment = .visited i → f.Contains i → (∀ t ∈ goal, t = i) →
      T goal ((f, at_) :: outer) past → T (p.gotoTarget? i) ((f, some i) :: outer) (e :: past))
    (failed : ∀ f outer i step mode err e past, e.moment = .progress (.stepFailed i mode err) →
      p.workflow.steps[i]? = some step → T none (f :: outer) past → T (p.policyTarget? step) (f :: outer) (e :: past))
    (enter : ∀ f outer i stop row e past, e.moment = .entered (i + 1) stop row → f.Contains i →
      p.tables.loopToEnd.target? i = some stop → T none ((f, some i) :: outer) past →
      T none ((⟨i + 1, stop, row⟩, none) :: (f, some i) :: outer) (e :: past))
    (leave : ∀ f at_ outer signal e past, e.moment = .left signal → f.Emits p.workflow.steps.length signal →
      T signal.target? ((f, at_) :: outer) past → T signal.target? outer (e :: past))
    (range : ∀ row e past, e.moment = .entered 0 p.workflow.steps.length row → T none [] past →
      T none [(⟨0, p.workflow.steps.length, row⟩, none)] (e :: past))
    (ends : ∀ goal nest past, T goal nest past → E past) :
    ProgramRule env p (fun goal nest s => T goal nest s.trace) fun _ s => E s.trace := by
  have hM : ∀ m : Moment, m.IsAside → ¬m.Steers := fun _ => Moment.IsAside.not_steers
  have keeps : ∀ goal nest (e : Operation σ), e ≠ .observe → e.Adds (fun m => ¬m.Steers) →
      e.Keeps env (fun s => T goal nest s.trace) fun _ s => E s.trace :=
    fun goal nest e hobserve he => (he.keeps (fun _ => id) (aside goal nest)).weaken (fun _ _ => ends goal nest _) hobserve
  exact {
    tables
    visit := fun goal f at_ outer i s => visit goal f at_ outer i _ _ rfl
    enter := fun f outer i stop row s => enter f outer i stop row _ _ rfl
    leave := fun f at_ outer signal s => leave f at_ outer signal _ _ rfl
    step := by
      intro f outer i step _ _
      have hattempt : Does env (Operation.Adds fun m => ¬m.Steers) (attempt env i step f.row) :=
        does_attempt_adds hM (fun _ _ _ => id) i step f.row
      refine (hattempt.ensures_trace (fun _ => id) (aside none ((f, some i) :: outer))).imp (fun s hs => hs.1)
        (fun _ _ => id) ?_
      exact fun _ s hs => ⟨ends _ _ _ hs, fun _ _ _ => hs⟩
    failed := by
      intro f outer i step e s hstep hs
      have hkept : KeptBy (fun m => ¬m.Steers) fun s : Session σ =>
          T (p.policyTarget? step) ((f, some i) :: outer) s.trace := .ofTrace (fun _ => id) (aside _ _)
      exact hkept.accept _ _ (failed (f, some i) outer i step _ _ _ _ rfl hstep hs)
    around := by
      rintro goal f outer i e (he | he)
      · exact keeps goal (f :: outer) e he.ne_observe (he.adds hM fun _ => id)
      · exact keeps goal (f :: outer) e he.ne_observe (he.adds hM)
    miss := fun f at_ outer i fault s _ _ => ends _ _ _
    outOfFuel := fun goal nest s => ends goal nest _
    range := fun row s => range row _ _ rfl
    rows := fun e he => keeps none [] e he.ne_observe (he.adds hM)
    escaped := fun _ s _ => ends _ _ _ }

theorem history_of_conduct {w : Workflow} {input : RunInput} (world : World σ) {K K' : Session σ → Prop}
    (hstart : K (world.session w.handlers)) (h : Ensures K (conduct env w input) (fun _ => K') fun _ => K') :
    ∃ s, K' s ∧ history env w input world = s.trace := by
  have hrun := h _ hstart
  unfold history
  cases hx : conduct env w input (world.session w.handlers) <;> rw [hx] at hrun <;> exact ⟨_, hrun, rfl⟩

theorem history_of_program {w : Workflow} {input : RunInput} {T U : List Entry → Prop} (hnil : T [])
    (aside : ∀ e past, e.moment.IsAside → T past → T (e :: past))
    (aside' : ∀ e past, e.moment.IsAside → U past → U (e :: past)) (hle : ∀ past, T past → U past)
    (hprogram : w.analyze.2 = [] → Ensures (fun s => T s.trace)
      (executeProgram env (w.program w.analyze.1 input env.options)) (fun _ s => U s.trace) fun _ s => U s.trace)
    (world : World σ) : U (history env w input world) := by
  have hrun := ensures_conduct w input
    (fun s => (KeptBy.ofTrace (fun _ => trivial) aside).told s (.runStarted w.name env.options) trivial)
    (fun s => hle s.trace)
    (fun _ _ _ _ s => (KeptBy.ofTrace (fun _ => trivial) aside').told s (.runEnded _ _ _ _) trivial) hprogram
  obtain ⟨s, hs, htrace⟩ := history_of_conduct (w := w) world hnil hrun
  exact htrace ▸ hs

end FormReplay
