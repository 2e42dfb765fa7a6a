import FormReplay.Structure.JumpTables
/-!
# What the tables vouch for

All jumps lead on and stay inside the step list.  Where the analysis finds no issue, every start and every
else has its entry, and every label that a goto or a policy names is known: nothing that the walk looks up is
missing (`Workflow.sound_analyze`).  Each scan is followed once, with what is still open as the hypothesis.
-/
namespace FormReplay

/-! ## Jumps -/

namespace Jumps

theorem mem_of_target? {jumps : Jumps} {i stop : Nat} (h : jumps.target? i = some stop) : (i, stop) ∈ jumps := by
  obtain ⟨p, hp, rfl⟩ := Option.map_eq_some_iff.1 h
  have hi : p.1 = i := by simpa using List.find?_some hp
  exact hi ▸ List.mem_of_find?_eq_some hp

def Covers (jumps : Jumps) (i : Nat) : Prop := ∃ stop, (i, stop) ∈ jumps

theorem Covers.target? {jumps : Jumps} {i : Nat} (h : jumps.Covers i) : jumps.target? i ≠ none := by
  obtain ⟨stop, h⟩ := h
  intro hnone
  have := List.find?_eq_none.1 (Option.map_eq_none_iff.1 hnone) _ h
  simp at this

/-- All steps of a kind, the first of which has index `i`, have an entry. -/
def CoverFrom (jumps : Jumps) (i : Nat) (steps : List Step) (P : StepKind → Prop) : Prop :=
  ∀ k step, steps[k]? = some step → P step.kind → jumps.Covers (i + k)

theorem CoverFrom.nil {jumps : Jumps} {i : Nat} {P : StepKind → Prop} : jumps.CoverFrom i [] P :=
  fun _ _ hk => by cases hk

theorem CoverFrom.cons {jumps : Jumps} {i : Nat} {s : Step} {rest : List Step} {P : StepKind → Prop}
    (hs : P s.kind → jumps.Covers i) (hrest : jumps.CoverFrom (i + 1) rest P) : jumps.CoverFrom i (s :: rest) P := by
  intro k step hk hP
  cases k with
  | zero =>
    cases hk
    exact hs hP
  | succ k =>
    have := hrest k step hk hP
    rwa [Nat.add_right_comm] at this

theorem CoverFrom.mono {jumps jumps' : Jumps} {i : Nat} {steps : List Step} {P : StepKind → Prop}
    (h : jumps.CoverFrom i steps P) (hle : ∀ i, jumps.Covers i → jumps'.Covers i) : jumps'.CoverFrom i steps P :=
  fun k step hk hP => hle _ (h k step hk hP)

theorem Covers.cons {jumps : Jumps} {i : Nat} (h : jumps.Covers i) (p : Nat × Nat) : Covers (p :: jumps) i :=
  let ⟨stop, h⟩ := h
  ⟨stop, .tail _ h⟩

theorem mem_sorted {jumps : Jumps} {p : Nat × Nat} : p ∈ jumps.sorted ↔ p ∈ jumps := mem_sortBy

theorem covers_sorted {jumps : Jumps} {i : Nat} : jumps.sorted.Covers i ↔ jumps.Covers i :=
  exists_congr fun _ => mem_sorted

def Within (jumps : Jumps) (last : Nat) : Prop := ∀ p ∈ jumps, p.1 < p.2 ∧ p.2 < last

theorem Within.cons {jumps : Jumps} {last a b : Nat} (h : jumps.Within last) (hab : a < b) (hb : b < last) :
    Within ((a, b) :: jumps) last :=
  List.forall_mem_cons.2 ⟨⟨hab, hb⟩, h⟩

theorem within_sorted {jumps : Jumps} {last : Nat} : jumps.sorted.Within last ↔ jumps.Within last :=
  forall_congr' fun _ => imp_congr mem_sorted Iff.rfl

end Jumps

/-! ## Loops -/

theorem closeLoop_perm {loopRef : Option String} {stack : List OpenLoop} {o : OpenLoop} {rest : List OpenLoop}
    (h : closeLoop loopRef stack = some (o, rest)) : stack.Perm (o :: rest) := by
  induction stack generalizing o rest with
  | nil => cases h
  | cons a stack ih =>
    unfold closeLoop at h
    split at h
    · cases h
      exact .refl _
    · obtain ⟨⟨o', rest'⟩, hclose, heq⟩ := Option.map_eq_some_iff.1 h
      cases heq
      exact ((ih hclose).cons a).trans (.swap _ _ _)

theorem scanLoops_within {i : Nat} {stack : List OpenLoop} {steps : List Step} (h : ∀ o ∈ stack, o.index < i) :
    (scanLoops i stack steps).pairs.Within (i + steps.length) := by
  induction steps generalizing i stack with
  | nil => exact nofun
  | cons s rest ih =>
    have hlen : i + (s :: rest).length = i + 1 + rest.length := by rw [List.length_cons]; omega
    have hstack : ∀ o ∈ stack, o.index < i + 1 := fun o ho => Nat.lt_succ_of_lt (h o ho)
    rw [hlen]
    unfold scanLoops
    split
    · exact ih (List.forall_mem_cons.2 ⟨Nat.lt_succ_self i, hstack⟩)
    · split
      · rename_i o stack' hclose
        have hperm := closeLoop_perm hclose
        have ho : o.index < i := h o (hperm.mem_iff.2 (.head _))
        have hrest := ih fun o' ho' => hstack o' (hperm.mem_iff.2 (.tail _ ho'))
        exact hrest.cons ho (Nat.lt_add_right _ (Nat.lt_succ_self i))
      · exact ih hstack
    · exact ih hstack

theorem scanLoops_covers {i : Nat} {stack : List OpenLoop} {steps : List Step}
    (h : (scanLoops i stack steps).issues = []) :
    (∀ o ∈ stack, (scanLoops i stack steps).pairs.Covers o.index) ∧
      (scanLoops i stack steps).pairs.CoverFrom i steps fun kind => ∃ spec, kind = .loopStart spec := by
  induction steps generalizing i stack with
  | nil =>
    have hstack : stack = [] := by simpa [scanLoops] using h
    subst hstack
    exact ⟨nofun, .nil⟩
  | cons s rest ih =>
    unfold scanLoops at h ⊢
    split at h
    · obtain ⟨hopen, hlater⟩ := ih h
      exact ⟨fun o ho => hopen o (.tail _ ho), hlater.cons fun _ => hopen _ (.head _)⟩
    · rename_i hkind
      split at h
      · rename_i o stack' hclose
        obtain ⟨hopen, hlater⟩ := ih h
        refine ⟨fun o' ho' => ?_, (hlater.mono fun j hj => hj.cons (o.index, i)).cons ?_⟩
        · cases (closeLoop_perm hclose).mem_iff.1 ho' with
          | head      => exact ⟨i, .head _⟩
          | tail _ ho => exact (hopen o' ho).cons _
        · rintro ⟨spec, hstart⟩
          rw [hkind] at hstart
          cases hstart
      · cases h
    · rename_i hstart _
      obtain ⟨hopen, hlater⟩ := ih h
      exact ⟨hopen, hlater.cons fun ⟨spec, hspec⟩ => absurd hspec (hstart spec)⟩

theorem scanLoops_pairs_of_forall_ne {i : Nat} {steps : List Step} (h : ∀ step ∈ steps, ∀ spec, step.kind ≠ .loopStart spec) :
    (scanLoops i [] steps).pairs = [] := by
  induction steps generalizing i with
  | nil => rfl
  | cons s rest ih =>
    have hrest := fun i => @ih i fun step hstep => h step (.tail _ hstep)
    unfold scanLoops
    split
    · rename_i spec hkind
      exact absurd hkind (h s (.head _) spec)
    · exact hrest _
    · exact hrest _

/-! ## Conditionals -/

namespace IfPairs

def Within (p : IfPairs) (last : Nat) : Prop :=
  p.ifToElse.Within last ∧ p.ifToEnd.Within last ∧ p.elseToEnd.Within last

@[simp] theorem issues_addBlock (p : IfPairs) (o : OpenIf) (stop : Nat) : (p.addBlock o stop).issues = p.issues := by
  unfold addBlock
  split <;> rfl

@[simp] theorem ifToEnd_addBlock (p : IfPairs) (o : OpenIf) (stop : Nat) :
    (p.addBlock o stop).ifToEnd = (o.index, stop) :: p.ifToEnd := by
  unfold addBlock
  split <;> rfl

theorem elseToEnd_addBlock (p : IfPairs) (o : OpenIf) (stop : Nat) :
    (p.addBlock o stop).elseToEnd = o.elseIndex.toList.map (·, stop) ++ p.elseToEnd := by
  unfold addBlock
  split <;> rename_i he <;> rw [he] <;> rfl

theorem Within.addBlock {p : IfPairs} {last stop : Nat} {o : OpenIf} (h : p.Within last) (ho : o.index < stop)
    (helse : ∀ e ∈ o.elseIndex, o.index < e ∧ e < stop) (hstop : stop < last) : (p.addBlock o stop).Within last := by
  obtain ⟨hifElse, hifEnd, helseEnd⟩ := h
  unfold IfPairs.addBlock
  split
  · rename_i e he
    obtain ⟨hoe, hes⟩ := helse e he
    exact ⟨hifElse.cons hoe (Nat.lt_trans hes hstop), hifEnd.cons ho hstop, helseEnd.cons hes hstop⟩
  · exact ⟨hifElse, hifEnd.cons ho hstop, helseEnd⟩

end IfPairs

/-- An open conditional lies before an index, its start before its else. -/
def OpenIf.Before (i : Nat) (o : OpenIf) : Prop := o.index < i ∧ ∀ e ∈ o.elseIndex, o.index < e ∧ e < i

theorem OpenIf.Before.succ {i : Nat} {o : OpenIf} (h : o.Before i) : o.Before (i + 1) :=
  ⟨Nat.lt_succ_of_lt h.1, fun e he => ⟨(h.2 e he).1, Nat.lt_succ_of_lt (h.2 e he).2⟩⟩

theorem scanIfs_within {i : Nat} {stack : List OpenIf} {steps : List Step} (h : ∀ o ∈ stack, o.Before i) :
    (scanIfs i stack steps).Within (i + steps.length) := by
  induction steps generalizing i stack with
  | nil => exact ⟨nofun, nofun, nofun⟩
  | cons s rest ih =>
    have hlen : i + (s :: rest).length = i + 1 + rest.length := by rw [List.length_cons]; omega
    have hstack : ∀ o ∈ stack, o.Before (i + 1) := fun o ho => (h o ho).succ
    rw [hlen]
    unfold scanIfs
    split
    · exact ih (List.forall_mem_cons.2 ⟨⟨Nat.lt_succ_self i, nofun⟩, hstack⟩)
    · split
      · exact ih nofun
      · rename_i f outer
        have hf : f < i := (h _ (.head _)).1
        refine ih (List.forall_mem_cons.2 ⟨⟨Nat.lt_succ_of_lt hf, fun e he => ?_⟩, fun o ho => hstack o (.tail _ ho)⟩)
        cases he
        exact ⟨hf, Nat.lt_succ_self i⟩
      · exact ih hstack
    · split
      · exact ih nofun
      · rename_i o outer
        obtain ⟨ho, helse⟩ := h o (.head _)
        have hrest := ih fun o' ho' => hstack o' (.tail _ ho')
        exact hrest.addBlock ho helse (Nat.lt_add_right _ (Nat.lt_succ_self i))
    · exact ih hstack

theorem scanIfs_covers {i : Nat} {stack : List OpenIf} {steps : List Step} (h : (scanIfs i stack steps).issues = []) :
    (∀ o ∈ stack, (scanIfs i stack steps).ifToEnd.Covers o.index ∧
        ∀ e ∈ o.elseIndex, (scanIfs i stack steps).elseToEnd.Covers e) ∧
      ((scanIfs i stack steps).ifToEnd.CoverFrom i steps fun kind => ∃ c, kind = .ifStart c) ∧
      (scanIfs i stack steps).elseToEnd.CoverFrom i steps fun kind => kind = .otherwise := by
  induction steps generalizing i stack with
  | nil =>
    have hstack : stack = [] := by simpa [scanIfs] using h
    subst hstack
    exact ⟨nofun, .nil, .nil⟩
  | cons s rest ih =>
    unfold scanIfs at h ⊢
    split at h
    · rename_i c hkind
      obtain ⟨hopen, hifs, helses⟩ := ih h
      refine ⟨fun o ho => hopen o (.tail _ ho), hifs.cons fun _ => (hopen _ (.head _)).1, helses.cons fun helse => ?_⟩
      rw [hkind] at helse
      cases helse
    · rename_i hkind
      have hif : ¬∃ c, s.kind = .ifStart c := by
        rintro ⟨c, hif⟩
        rw [hkind] at hif
        cases hif
      split at h
      · cases h
      · rename_i f outer
        obtain ⟨hopen, hifs, helses⟩ := ih h
        obtain ⟨hf, helse⟩ := hopen _ (.head _)
        refine ⟨List.forall_mem_cons.2 ⟨⟨hf, nofun⟩, fun o ho => hopen o (.tail _ ho)⟩, hifs.cons hif.elim, ?_⟩
        exact helses.cons fun _ => helse i rfl
      · cases h
    · rename_i hkind
      split at h
      · cases h
      · rename_i o outer
        rw [IfPairs.issues_addBlock] at h
        obtain ⟨hopen, hifs, helses⟩ := ih h
        rw [IfPairs.ifToEnd_addBlock, IfPairs.elseToEnd_addBlock]
        have helse : ∀ e, (scanIfs (i + 1) outer rest).elseToEnd.Covers e →
            Jumps.Covers (o.elseIndex.toList.map (·, i) ++ (scanIfs (i + 1) outer rest).elseToEnd) e :=
          fun e ⟨stop, he⟩ => ⟨stop, List.mem_append_right _ he⟩
        refine ⟨List.forall_mem_cons.2 ⟨⟨⟨i, .head _⟩, fun e he => ⟨i, ?_⟩⟩, fun o' ho' => ?_⟩, ?_, ?_⟩
        · exact List.mem_append_left _ (List.mem_map.2 ⟨e, Option.mem_toList.2 he, rfl⟩)
        · exact ⟨(hopen o' ho').1.cons _, fun e he => helse e ((hopen o' ho').2 e he)⟩
        · refine (hifs.mono fun j hj => hj.cons _).cons ?_
          rintro ⟨c, hc⟩
          rw [hkind] at hc
          cases hc
        · refine (helses.mono helse).cons fun hs => ?_
          rw [hkind] at hs
          cases hs
    · rename_i hif helse _
      obtain ⟨hopen, hifs, helses⟩ := ih h
      exact ⟨hopen, hifs.cons fun ⟨c, hc⟩ => absurd hc (hif c), helses.cons fun hs => absurd hs helse⟩

/-! ## Labels -/

theorem mem_of_field? {α : Type} {name : String} {v : α} {fields : List (String × α)}
    (h : field? name fields = some v) : (name, v) ∈ fields := by
  induction fields with
  | nil => cases h
  | cons p rest ih =>
    unfold field? at h
    split at h
    · rename_i hname
      cases h
      exact hname ▸ .head _
    · exact .tail _ (ih h)

theorem scanLabels_lt {i last : Nat} {known : Labels} {steps : List Step} (h : ∀ p ∈ known, p.2 < last)
    (hlast : i + steps.length ≤ last) : ∀ p ∈ (scanLabels i known steps).1, p.2 < last := by
  induction steps generalizing i known with
  | nil => exact h
  | cons s rest ih =>
    rw [List.length_cons] at hlast
    unfold scanLabels
    split
    · split
      · exact ih h (by omega)
      · refine ih (fun p hp => ?_) (by omega)
        rcases List.mem_append.1 hp with hp | hp
        · exact h p hp
        · obtain rfl := List.mem_singleton.1 hp
          show i < last
          omega
    · exact ih h (by omega)

theorem field?_ne_none_of_gotoIssues {labels : Labels} {steps : List Step} (h : gotoIssues labels steps = [])
    {i : Nat} {step : Step} {name : String} (hi : steps[i]? = some step) (hk : step.kind = .goto name) :
    field? name labels ≠ none := by
  intro hnone
  have := List.filterMap_eq_nil_iff.1 h (step, i) (List.mem_zipIdx_iff_getElem?.2 hi)
  simp only [hk] at this
  rw [if_pos (Option.isNone_iff_eq_none.2 hnone)] at this
  cases this

theorem field?_ne_none_of_policyIssues {w : Workflow} {labels : Labels} (h : policyIssues w labels = [])
    {i : Nat} {step : Step} (hi : w.steps[i]? = some step) (hact : step.isAction = true)
    (hmode : (w.effectivePolicy step).mode = .goto) :
    field? ((w.effectivePolicy step).gotoLabel.getD "") labels ≠ none := by
  intro hnone
  have := List.filterMap_eq_nil_iff.1 h (step, i) (List.mem_zipIdx_iff_getElem?.2 hi)
  simp only [hact, hmode, beq_self_eq_true, Bool.true_and] at this
  rw [if_pos (Option.isNone_iff_eq_none.2 hnone)] at this
  cases this

/-! ## A whole analysis -/

/-- All jumps of the tables lead on, and all labels are steps, of a list of this length. -/
structure JumpTables.Within (t : JumpTables) (last : Nat) : Prop where
  loopToEnd : t.loopToEnd.Within last
  ifToElse  : t.ifToElse.Within last
  ifToEnd   : t.ifToEnd.Within last
  elseToEnd : t.elseToEnd.Within last
  label     : ∀ name i, t.label? name = some i → i < last

/-- Nothing that the walk of a workflow looks up is missing from the tables. -/
structure JumpTables.Covers (t : JumpTables) (w : Workflow) : Prop where
  loopEnd (i : Nat) (step : Step) (spec : LoopSpec) :
    w.steps[i]? = some step → step.kind = .loopStart spec → t.loopToEnd.target? i ≠ none
  ifEnd (i : Nat) (step : Step) (c : Condition) :
    w.steps[i]? = some step → step.kind = .ifStart c → t.ifToEnd.target? i ≠ none
  elseEnd (i : Nat) (step : Step) :
    w.steps[i]? = some step → step.kind = .otherwise → t.elseToEnd.target? i ≠ none
  label (i : Nat) (step : Step) (name : String) :
    w.steps[i]? = some step → step.kind = .goto name → t.label? name ≠ none
  policyLabel (i : Nat) (step : Step) :
    w.steps[i]? = some step → step.isAction = true → (w.effectivePolicy step).mode = .goto →
      t.label? ((w.effectivePolicy step).gotoLabel.getD "") ≠ none

namespace Workflow

variable (w : Workflow)

theorem within_analyze : w.analyze.1.Within w.steps.length := by
  have hloops : (scanLoops 0 [] w.steps).pairs.Within (0 + w.steps.length) := scanLoops_within nofun
  have hifs : (scanIfs 0 [] w.steps).Within (0 + w.steps.length) := scanIfs_within nofun
  rw [Nat.zero_add] at hloops hifs
  obtain ⟨hifElse, hifEnd, helseEnd⟩ := hifs
  refine ⟨Jumps.within_sorted.2 hloops, Jumps.within_sorted.2 hifElse, Jumps.within_sorted.2 hifEnd,
    Jumps.within_sorted.2 helseEnd, fun name i hi => ?_⟩
  have hlabels : ∀ q ∈ (scanLabels 0 [] w.steps).1, q.2 < w.steps.length := scanLabels_lt nofun (by omega)
  exact hlabels _ (mem_of_field? hi)

/-- **An analysis without issues covers the workflow.** -/
theorem covers_analyze (h : w.analyze.2 = []) : w.analyze.1.Covers w := by
  obtain ⟨hsteps, hpolicy⟩ := List.append_eq_nil_iff.1 h
  obtain ⟨hrest, hgoto⟩ := List.append_eq_nil_iff.1 hsteps
  obtain ⟨hpairs, -⟩ := List.append_eq_nil_iff.1 hrest
  obtain ⟨hloops, hifs⟩ := List.append_eq_nil_iff.1 hpairs
  obtain ⟨-, hstarts⟩ := scanLoops_covers hloops
  obtain ⟨-, hifStarts, helses⟩ := scanIfs_covers hifs
  have cover : ∀ {jumps : Jumps} {P : StepKind → Prop} {i : Nat} {step : Step}, jumps.CoverFrom 0 w.steps P →
      w.steps[i]? = some step → P step.kind → jumps.sorted.target? i ≠ none := by
    intro jumps P i step hcover hi hP
    have := hcover i step hi hP
    rw [Nat.zero_add] at this
    exact (Jumps.covers_sorted.2 this).target?
  exact ⟨fun i step spec hi hk => cover hstarts hi ⟨spec, hk⟩, fun i step c hi hk => cover hifStarts hi ⟨c, hk⟩,
    fun i step hi hk => cover helses hi hk, fun i step name hi hk => field?_ne_none_of_gotoIssues hgoto hi hk,
    fun i step hi hact hmode => field?_ne_none_of_policyIssues hpolicy hi hact hmode⟩

def LoopFree : Prop := ∀ step ∈ w.steps, ∀ spec, step.kind ≠ .loopStart spec

variable {w}

theorem LoopFree.hasLoops (h : w.LoopFree) : w.analyze.1.hasLoops = false := by
  have hpairs : w.analyze.1.loopToEnd = [] := by
    refine List.eq_nil_iff_forall_not_mem.2 fun p hp => ?_
    have hmem : p ∈ (scanLoops 0 [] w.steps).pairs := Jumps.mem_sorted.1 hp
    rw [scanLoops_pairs_of_forall_ne h] at hmem
    cases hmem
  rw [JumpTables.hasLoops, hpairs]
  rfl

theorem loopFree_of_hasLoops (h : w.analyze.2 = []) (hloops : w.analyze.1.hasLoops = false) : w.LoopFree := by
  intro step hstep spec hkind
  obtain ⟨i, hi⟩ := List.getElem?_of_mem hstep
  have hpairs : w.analyze.1.loopToEnd = [] := by
    rw [JumpTables.hasLoops, Bool.not_eq_false'] at hloops
    exact List.isEmpty_iff.1 hloops
  apply (w.covers_analyze h).loopEnd i step spec hi hkind
  rw [hpairs]
  rfl

end Workflow

end FormReplay
