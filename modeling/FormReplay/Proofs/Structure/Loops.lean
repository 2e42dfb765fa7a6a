import FormReplay.Proofs.Structure.Markers
/-!
# Exact pairing of loops

The end of a loop is paired with the last start before it that is not closed yet, or with the last such start of the id
that it names; where there is none, it is an issue.  No start and no end is lost or used twice
(`exact_findLoopPairs`).  Each lemma follows the scan with the loops that are open as its hypothesis, beside those that
are yet to come.
-/
namespace FormReplay

/-! ## Loops and their ends -/

def loopAt? (i : Nat) : StepKind → Option OpenLoop
  | .loopStart spec => some ⟨i, spec.id⟩
  | _               => none

def loopEndAt? (i : Nat) : StepKind → Option (Nat × Option String)
  | .loopEnd loopRef => some (i, loopRef)
  | _                => none

def StructuralIssue.unclosedLoop? : StructuralIssue → Option Nat
  | .unclosedLoop i => some i
  | _               => none

def StructuralIssue.unmatchedLoopEnd? : StructuralIssue → Option Nat
  | .unmatchedLoopEnd i _ => some i
  | _                     => none

theorem locates_loopAt? : Locates loopAt? OpenLoop.index := by
  intro i kind o h
  cases kind <;> cases h
  rfl

theorem locates_loopEndAt? : Locates loopEndAt? Prod.fst := by
  intro i kind e h
  cases kind <;> cases h
  rfl

theorem loopAt?_eq_none {i : Nat} {kind : StepKind} (h : ∀ spec, kind = .loopStart spec → False) :
    loopAt? i kind = none := by
  cases kind <;> first | rfl | exact (h _ rfl).elim

theorem loopEndAt?_eq_none {i : Nat} {kind : StepKind} (h : ∀ loopRef, kind = .loopEnd loopRef → False) :
    loopEndAt? i kind = none := by
  cases kind <;> first | rfl | exact (h _ rfl).elim

/-- An end without a name closes any loop, and one with a name those of that id. -/
def OpenLoop.Fits (loopRef : Option String) (o : OpenLoop) : Prop := loopRef = none ∨ o.id = loopRef

theorem closeLoop_eq_some {loopRef : Option String} {stack rest : List OpenLoop} {o : OpenLoop}
    (h : closeLoop loopRef stack = some (o, rest)) :
    ∃ inner outer, stack = inner ++ o :: outer ∧ rest = inner ++ outer ∧ o.Fits loopRef ∧ ∀ x ∈ inner, ¬x.Fits loopRef := by
  induction stack generalizing rest with
  | nil => cases h
  | cons a stack ih =>
    unfold closeLoop at h
    split at h
    · rename_i hfits
      cases h
      exact ⟨[], stack, rfl, rfl, hfits, fun _ hx => absurd hx List.not_mem_nil⟩
    · rename_i hfits
      obtain ⟨⟨o', rest'⟩, hclose, heq⟩ := Option.map_eq_some_iff.1 h
      cases heq
      obtain ⟨inner, outer, rfl, rfl, ho, hinner⟩ := ih hclose
      exact ⟨a :: inner, outer, rfl, rfl, ho, List.forall_mem_cons.2 ⟨hfits, hinner⟩⟩

theorem closeLoop_eq_none {loopRef : Option String} {stack : List OpenLoop} (h : closeLoop loopRef stack = none) :
    ∀ o ∈ stack, ¬o.Fits loopRef := by
  induction stack with
  | nil => exact nofun
  | cons a stack ih =>
    unfold closeLoop at h
    split at h
    · cases h
    · rename_i hfits
      exact List.forall_mem_cons.2 ⟨hfits, ih (Option.map_eq_none_iff.1 h)⟩

/-! ## Nothing is lost -/

/-- **Every start of a loop begins a pair or is reported as never closed.** -/
theorem scanLoops_starts (i : Nat) (stack : List OpenLoop) (steps : List Step) :
    ((scanLoops i stack steps).pairs.map (·.1) ++
        (scanLoops i stack steps).issues.filterMap StructuralIssue.unclosedLoop?).Perm
      ((stack ++ gather loopAt? i steps).map (·.index)) := by
  fun_induction scanLoops i stack steps with
  | case1 i stack =>
    simp only [List.filterMap_map, Function.comp_def, StructuralIssue.unclosedLoop?, List.map_nil, List.nil_append,
      gather_nil, List.append_nil, List.filterMap_eq_map']
    exact (List.reverse_perm stack).map _
  | case2 i stack s rest spec hkind ih =>
    rw [gather_some (a := ⟨i, spec.id⟩) (by rw [hkind]; rfl)]
    exact ih.trans (List.perm_middle.symm.map _)
  | case3 i stack s rest loopRef hkind o stack' hclose found ih =>
    rw [gather_none (by rw [hkind]; rfl)]
    exact (ih.cons o.index).trans ((((closeLoop_perm hclose).append_right _).map _).symm)
  | case4 i stack s rest loopRef hkind hclose found ih =>
    rw [gather_none (by rw [hkind]; rfl)]
    exact ih
  | case5 i stack s rest hstart hend ih =>
    rw [gather_none (loopAt?_eq_none hstart)]
    exact ih

/-- **Every end of a loop ends a pair or is reported as unmatched.** -/
theorem scanLoops_ends (i : Nat) (stack : List OpenLoop) (steps : List Step) :
    ((scanLoops i stack steps).pairs.map (·.2) ++
        (scanLoops i stack steps).issues.filterMap StructuralIssue.unmatchedLoopEnd?).Perm
      ((gather loopEndAt? i steps).map (·.1)) := by
  fun_induction scanLoops i stack steps with
  | case1 i stack =>
    simp [List.filterMap_map, Function.comp_def, StructuralIssue.unmatchedLoopEnd?]
  | case2 i stack s rest spec hkind ih =>
    rw [gather_none (by rw [hkind]; rfl)]
    exact ih
  | case3 i stack s rest loopRef hkind o stack' hclose found ih =>
    rw [gather_some (a := (i, loopRef)) (by rw [hkind]; rfl)]
    exact ih.cons i
  | case4 i stack s rest loopRef hkind hclose found ih =>
    rw [gather_some (a := (i, loopRef)) (by rw [hkind]; rfl)]
    exact List.perm_middle.trans (ih.cons i)
  | case5 i stack s rest hstart hend ih =>
    rw [gather_none (loopEndAt?_eq_none hend)]
    exact ih

theorem le_of_mem_scanLoops {i : Nat} {stack : List OpenLoop} {steps : List Step} {p : Nat × Nat}
    (hp : p ∈ (scanLoops i stack steps).pairs) : i ≤ p.2 := by
  have hmem := (scanLoops_ends i stack steps).mem_iff.1 (List.mem_append_left _ (List.mem_map.2 ⟨p, hp, rfl⟩))
  obtain ⟨stop, hstop, heq⟩ := List.mem_map.1 hmem
  exact heq ▸ locates_loopEndAt?.le_index hstop

theorem le_of_unmatchedLoopEnd {i stop : Nat} {loopRef : Option String} {stack : List OpenLoop} {steps : List Step}
    (h : .unmatchedLoopEnd stop loopRef ∈ (scanLoops i stack steps).issues) : i ≤ stop := by
  have hmem := (scanLoops_ends i stack steps).mem_iff.1
    (List.mem_append_right _ (List.mem_filterMap.2 ⟨_, h, rfl⟩))
  obtain ⟨found, hfound, heq⟩ := List.mem_map.1 hmem
  exact heq ▸ locates_loopEndAt?.le_index hfound

theorem start_of_mem_scanLoops {i : Nat} {stack : List OpenLoop} {steps : List Step} {p : Nat × Nat}
    (hp : p ∈ (scanLoops i stack steps).pairs) : (∃ o ∈ stack, o.index = p.1) ∨ i ≤ p.1 := by
  have hmem := (scanLoops_starts i stack steps).mem_iff.1 (List.mem_append_left _ (List.mem_map.2 ⟨p, hp, rfl⟩))
  obtain ⟨o, ho, heq⟩ := List.mem_map.1 hmem
  rcases List.mem_append.1 ho with ho | ho
  · exact .inl ⟨o, ho, heq⟩
  · exact .inr (heq ▸ locates_loopAt?.le_index ho)

/-! ## The last open loop -/

namespace LoopPairs

/-- A loop that an end may close: one that starts before it, of the id that it names, and that no earlier end closes. -/
structure Closable (found : LoopPairs) (loops : List OpenLoop) (stop : Nat × Option String) (o : OpenLoop) : Prop where
  mem    : o ∈ loops
  before : o.index < stop.1
  fits   : o.Fits stop.2
  free   : ∀ earlier, (o.index, earlier) ∈ found.pairs → stop.1 ≤ earlier

/-- An end closes the last loop that it may close, and is an issue where there is none. -/
structure ClosesLast (found : LoopPairs) (loops : List OpenLoop) (stop : Nat × Option String) : Prop where
  pair (start : Nat) : (start, stop.1) ∈ found.pairs ↔
    ∃ o, o.index = start ∧ found.Closable loops stop o ∧ ∀ other, found.Closable loops stop other → other.index ≤ start
  issue : .unmatchedLoopEnd stop.1 stop.2 ∈ found.issues ↔ ∀ o, ¬found.Closable loops stop o

variable {found found' : LoopPairs} {loops loops' : List OpenLoop} {stop : Nat × Option String}

/-- What an end closes depends on the loops that it may close alone. -/
theorem ClosesLast.congr (h : found.ClosesLast loops stop)
    (hpair : ∀ start, (start, stop.1) ∈ found'.pairs ↔ (start, stop.1) ∈ found.pairs)
    (hissue : .unmatchedLoopEnd stop.1 stop.2 ∈ found'.issues ↔ .unmatchedLoopEnd stop.1 stop.2 ∈ found.issues)
    (hclosable : ∀ o, found'.Closable loops' stop o ↔ found.Closable loops stop o) : found'.ClosesLast loops' stop where
  pair start := by simp only [hpair, hclosable, h.pair]
  issue := by simp only [hissue, hclosable, h.issue]

end LoopPairs

/-- Closing a loop changes nothing for the ends that follow, as it is gone for them either way. -/
theorem closable_later {found : LoopPairs} {inner outer later : List OpenLoop} {o : OpenLoop} {i : Nat}
    {stop : Nat × Option String} (hrising : (inner ++ o :: outer).Pairwise fun a b => b.index < a.index)
    (hlater : ∀ a ∈ later, o.index < a.index) (hstop : i < stop.1) (a : OpenLoop) :
    LoopPairs.Closable { found with pairs := (o.index, i) :: found.pairs } (inner ++ o :: outer ++ later) stop a ↔
      found.Closable (inner ++ outer ++ later) stop a := by
  obtain ⟨-, houter, hinner⟩ := List.pairwise_append.1 hrising
  have hne : ∀ a ∈ inner ++ outer ++ later, a.index ≠ o.index := by
    intro a ha
    rcases List.mem_append.1 ha with ha | ha
    · rcases List.mem_append.1 ha with ha | ha
      · exact Nat.ne_of_gt (hinner a ha o (.head _))
      · exact Nat.ne_of_lt (List.rel_of_pairwise_cons houter ha)
    · exact Nat.ne_of_gt (hlater a ha)
  constructor
  · rintro ⟨hmem, hbefore, hfits, hopen⟩
    refine ⟨?_, hbefore, hfits, fun earlier he => hopen earlier (.tail _ he)⟩
    rw [List.append_assoc, List.cons_append] at hmem
    rcases List.mem_cons.1 (List.perm_middle.mem_iff.1 hmem) with rfl | hmem
    · exact absurd (hopen i (.head _)) (Nat.not_le.2 hstop)
    · rwa [List.append_assoc]
  · rintro ⟨hmem, hbefore, hfits, hopen⟩
    refine ⟨?_, hbefore, hfits, fun earlier he => ?_⟩
    · rw [List.append_assoc, List.cons_append]
      rw [List.append_assoc] at hmem
      exact List.perm_middle.mem_iff.2 (.tail _ hmem)
    · rcases List.mem_cons.1 he with heq | he
      · exact absurd (congrArg Prod.fst heq) (hne a hmem)
      · exact hopen earlier he

theorem closable_now {found : LoopPairs} {stack later : List OpenLoop} {i : Nat} {loopRef : Option String}
    (hbefore : ∀ o ∈ stack, o.index < i) (hlater : ∀ o ∈ later, i ≤ o.index) (hpairs : ∀ p ∈ found.pairs, i ≤ p.2)
    (o : OpenLoop) : found.Closable (stack ++ later) (i, loopRef) o ↔ o ∈ stack ∧ o.Fits loopRef := by
  constructor
  · rintro ⟨hmem, hlt, hfits, -⟩
    rcases List.mem_append.1 hmem with ho | ho
    · exact ⟨ho, hfits⟩
    · exact absurd hlt (Nat.not_lt.2 (hlater o ho))
  · rintro ⟨ho, hfits⟩
    exact ⟨List.mem_append_left _ ho, hbefore o ho, hfits, fun earlier he => hpairs _ he⟩

theorem closesLast_of_close {found : LoopPairs} {stack later : List OpenLoop} {o : OpenLoop} {i : Nat}
    {loopRef : Option String} (ho : o ∈ stack) (hfits : o.Fits loopRef)
    (hlast : ∀ a ∈ stack, a.Fits loopRef → a.index ≤ o.index) (hbefore : ∀ o ∈ stack, o.index < i)
    (hlater : ∀ o ∈ later, i < o.index) (hpairs : ∀ p ∈ found.pairs, i < p.2)
    (hissue : .unmatchedLoopEnd i loopRef ∉ found.issues) :
    LoopPairs.ClosesLast { found with pairs := (o.index, i) :: found.pairs } (stack ++ later) (i, loopRef) := by
  have hnow : ∀ a, LoopPairs.Closable { found with pairs := (o.index, i) :: found.pairs } (stack ++ later) (i, loopRef) a ↔
      a ∈ stack ∧ a.Fits loopRef :=
    closable_now hbefore (fun a ha => Nat.le_of_lt (hlater a ha))
      (List.forall_mem_cons.2 ⟨Nat.le_refl i, fun p hp => Nat.le_of_lt (hpairs p hp)⟩)
  constructor
  · intro start
    simp only [hnow]
    constructor
    · intro h
      rcases List.mem_cons.1 h with heq | h
      · cases heq
        exact ⟨o, rfl, ⟨ho, hfits⟩, fun a ⟨ha, hfitsA⟩ => hlast a ha hfitsA⟩
      · exact absurd (hpairs _ h) (Nat.lt_irrefl i)
    · rintro ⟨a, rfl, ⟨ha, hfitsA⟩, hmax⟩
      have heq : a.index = o.index := Nat.le_antisymm (hlast a ha hfitsA) (hmax o ⟨ho, hfits⟩)
      exact heq ▸ .head _
  · simp only [hnow]
    exact ⟨fun h => absurd h hissue, fun h => absurd ⟨ho, hfits⟩ (h o)⟩

theorem closesLast_of_none {found : LoopPairs} {stack later : List OpenLoop} {i : Nat} {loopRef : Option String}
    (hnone : ∀ o ∈ stack, ¬o.Fits loopRef) (hbefore : ∀ o ∈ stack, o.index < i) (hlater : ∀ o ∈ later, i < o.index)
    (hpairs : ∀ p ∈ found.pairs, i < p.2) (hissue : .unmatchedLoopEnd i loopRef ∈ found.issues) :
    found.ClosesLast (stack ++ later) (i, loopRef) := by
  have hnow : ∀ a, found.Closable (stack ++ later) (i, loopRef) a ↔ a ∈ stack ∧ a.Fits loopRef :=
    closable_now hbefore (fun a ha => Nat.le_of_lt (hlater a ha)) fun p hp => Nat.le_of_lt (hpairs p hp)
  constructor
  · intro start
    simp only [hnow]
    constructor
    · intro h
      exact absurd (hpairs _ h) (Nat.lt_irrefl i)
    · rintro ⟨a, -, ⟨ha, hfitsA⟩, -⟩
      exact absurd hfitsA (hnone a ha)
  · simp only [hnow]
    exact ⟨fun _ a ⟨ha, hfitsA⟩ => hnone a ha hfitsA, fun _ => hissue⟩

/-- **Every end closes the last loop that it may close.** -/
theorem scanLoops_closesLast {i : Nat} {stack : List OpenLoop} {steps : List Step}
    (hrising : stack.Pairwise fun a b => b.index < a.index) (hbefore : ∀ o ∈ stack, o.index < i) :
    ∀ stop ∈ gather loopEndAt? i steps,
      (scanLoops i stack steps).ClosesLast (stack ++ gather loopAt? i steps) stop := by
  fun_induction scanLoops i stack steps with
  | case1 i stack => exact nofun
  | case2 i stack s rest spec hkind ih =>
    rw [gather_none (by rw [hkind]; rfl), gather_some (a := ⟨i, spec.id⟩) (by rw [hkind]; rfl)]
    intro stop hstop
    have hlt : ∀ o ∈ (⟨i, spec.id⟩ : OpenLoop) :: stack, o.index < i + 1 :=
      List.forall_mem_cons.2 ⟨Nat.lt_succ_self i, fun o ho => Nat.lt_succ_of_lt (hbefore o ho)⟩
    refine (ih (hrising.cons hbefore) hlt stop hstop).congr (fun _ => Iff.rfl) Iff.rfl fun o => ?_
    have hmem : o ∈ stack ++ ⟨i, spec.id⟩ :: gather loopAt? (i + 1) rest ↔
        o ∈ ⟨i, spec.id⟩ :: stack ++ gather loopAt? (i + 1) rest := List.perm_middle.mem_iff
    exact ⟨fun h => ⟨hmem.1 h.mem, h.before, h.fits, h.free⟩, fun h => ⟨hmem.2 h.mem, h.before, h.fits, h.free⟩⟩
  | case3 i stack s rest loopRef hkind o stack' hclose found ih =>
    rw [gather_some (a := (i, loopRef)) (by rw [hkind]; rfl), gather_none (by rw [hkind]; rfl)]
    obtain ⟨inner, outer, rfl, rfl, hfits, hinner⟩ := closeLoop_eq_some hclose
    obtain ⟨hrisingInner, hrisingOuter, hcross⟩ := List.pairwise_append.1 hrising
    have ho : o.index < i := hbefore o (List.mem_append_right _ (.head _))
    have hlater : ∀ a ∈ gather loopAt? (i + 1) rest, i < a.index := fun a ha => locates_loopAt?.le_index ha
    refine List.forall_mem_cons.2 ⟨?_, fun stop hstop => ?_⟩
    · have hlast : ∀ a ∈ inner ++ o :: outer, a.Fits loopRef → a.index ≤ o.index := by
        intro a ha hfitsA
        rcases List.mem_append.1 ha with ha | ha
        · exact absurd hfitsA (hinner a ha)
        · rcases List.mem_cons.1 ha with rfl | ha
          · exact Nat.le_refl _
          · exact Nat.le_of_lt (List.rel_of_pairwise_cons hrisingOuter ha)
      exact closesLast_of_close (List.mem_append_right _ (.head _)) hfits hlast hbefore hlater
        (fun p hp => le_of_mem_scanLoops hp) fun h => absurd (le_of_unmatchedLoopEnd h) (Nat.not_succ_le_self i)
    · have hi : i < stop.1 := locates_loopEndAt?.le_index hstop
      have hrest : (inner ++ outer).Pairwise fun a b => b.index < a.index :=
        List.pairwise_append.2 ⟨hrisingInner, hrisingOuter.of_cons, fun a ha b hb => hcross a ha b (.tail _ hb)⟩
      have hlt : ∀ a ∈ inner ++ outer, a.index < i + 1 := fun a ha =>
        Nat.lt_succ_of_lt (hbefore a ((closeLoop_perm hclose).mem_iff.2 (.tail _ ha)))
      refine (ih hrest hlt stop hstop).congr (fun start => ⟨fun h => ?_, fun h => .tail _ h⟩) Iff.rfl
        (closable_later hrising (fun a ha => Nat.lt_trans ho (hlater a ha)) hi)
      rcases List.mem_cons.1 h with heq | h
      · exact absurd (congrArg Prod.snd heq) (Nat.ne_of_gt hi)
      · exact h
  | case4 i stack s rest loopRef hkind hclose found ih =>
    rw [gather_some (a := (i, loopRef)) (by rw [hkind]; rfl), gather_none (by rw [hkind]; rfl)]
    have hlater : ∀ a ∈ gather loopAt? (i + 1) rest, i < a.index := fun a ha => locates_loopAt?.le_index ha
    refine List.forall_mem_cons.2 ⟨?_, fun stop hstop => ?_⟩
    · have hpairs : ∀ p ∈ found.pairs, i < p.2 := fun p hp => le_of_mem_scanLoops hp
      exact closesLast_of_none (closeLoop_eq_none hclose) hbefore hlater hpairs (.head _)
    · have hi : i < stop.1 := locates_loopEndAt?.le_index hstop
      refine (ih hrising (fun o ho => Nat.lt_succ_of_lt (hbefore o ho)) stop hstop).congr (fun _ => Iff.rfl)
        ⟨fun h => ?_, fun h => .tail _ h⟩ fun o => ⟨fun h => ⟨h.mem, h.before, h.fits, h.free⟩,
          fun h => ⟨h.mem, h.before, h.fits, h.free⟩⟩
      rcases List.mem_cons.1 h with heq | h
      · injection heq with heq
        exact absurd heq (Nat.ne_of_gt hi)
      · exact h
  | case5 i stack s rest hstart hend ih =>
    rw [gather_none (loopAt?_eq_none hstart), gather_none (loopEndAt?_eq_none hend)]
    exact ih hrising fun o ho => Nat.lt_succ_of_lt (hbefore o ho)

/-- **Where no end names a loop, the loops nest.** -/
theorem scanLoops_nested {i : Nat} {stack : List OpenLoop} {steps : List Step}
    (hrising : stack.Pairwise fun a b => b.index < a.index) (hbefore : ∀ o ∈ stack, o.index < i)
    (hunnamed : ∀ stop ∈ gather loopEndAt? i steps, stop.2 = none) : (scanLoops i stack steps).pairs.Nested := by
  fun_induction scanLoops i stack steps with
  | case1 i stack => exact nofun
  | case2 i stack s rest spec hkind ih =>
    rw [gather_none (by rw [hkind]; rfl)] at hunnamed
    refine ih (hrising.cons hbefore) (List.forall_mem_cons.2 ⟨Nat.lt_succ_self i, fun o ho => ?_⟩) hunnamed
    exact Nat.lt_succ_of_lt (hbefore o ho)
  | case3 i stack s rest loopRef hkind o stack' hclose found ih =>
    rw [gather_some (a := (i, loopRef)) (by rw [hkind]; rfl), List.forall_mem_cons] at hunnamed
    obtain ⟨rfl, hlater⟩ := hunnamed
    -- an end that names no loop closes the innermost one
    obtain ⟨inner, outer, rfl, rfl, -, hinner⟩ := closeLoop_eq_some hclose
    obtain rfl : inner = [] := List.eq_nil_iff_forall_not_mem.2 fun a ha => hinner a ha (.inl rfl)
    have houter := List.pairwise_cons.1 hrising
    refine (ih houter.2 (fun a ha => Nat.lt_succ_of_lt (hbefore a (.tail _ ha))) hlater).cons fun q hq => ?_
    refine ⟨le_of_mem_scanLoops hq, ?_⟩
    rcases start_of_mem_scanLoops hq with ⟨a, ha, heq⟩ | hle
    · exact .inl (heq ▸ Nat.le_of_lt (houter.1 a ha))
    · exact .inr hle
  | case4 i stack s rest loopRef hkind hclose found ih =>
    rw [gather_some (a := (i, loopRef)) (by rw [hkind]; rfl)] at hunnamed
    exact ih hrising (fun o ho => Nat.lt_succ_of_lt (hbefore o ho)) (List.forall_mem_cons.1 hunnamed).2
  | case5 i stack s rest hstart hend ih =>
    rw [gather_none (loopEndAt?_eq_none hend)] at hunnamed
    exact ih hrising (fun o ho => Nat.lt_succ_of_lt (hbefore o ho)) hunnamed

/-! ## All loops of a step list -/

def loopStarts (steps : List Step) : List OpenLoop := gather loopAt? 0 steps

def loopEnds (steps : List Step) : List (Nat × Option String) := gather loopEndAt? 0 steps

/-- What it is to pair the loops of a step list exactly: by the last loop that each end may close, with every start and
every end in one pair or one issue. -/
structure LoopPairs.Exact (found : LoopPairs) (steps : List Step) : Prop where
  closesLast : ∀ stop ∈ loopEnds steps, found.ClosesLast (loopStarts steps) stop
  starts : (found.pairs.map (·.1) ++ found.issues.filterMap StructuralIssue.unclosedLoop?).Perm
    ((loopStarts steps).map (·.index))
  ends : (found.pairs.map (·.2) ++ found.issues.filterMap StructuralIssue.unmatchedLoopEnd?).Perm
    ((loopEnds steps).map (·.1))
  forward : ∀ p ∈ found.pairs, p.1 < p.2
  rising : found.pairs.Pairwise fun p q => p.1 < q.1
  nested : (∀ stop ∈ loopEnds steps, stop.2 = none) → found.pairs.Nested

/-- **The loops of every step list are paired exactly.** -/
theorem exact_findLoopPairs (steps : List Step) : (findLoopPairs steps).Exact steps := by
  have hsorted : (findLoopPairs steps).pairs.Perm (scanLoops 0 [] steps).pairs := sortBy_perm _ _
  have hstarts := scanLoops_starts 0 [] steps
  constructor
  · intro stop hstop
    refine (scanLoops_closesLast .nil nofun stop hstop).congr (fun _ => Jumps.mem_sorted) Iff.rfl fun o => ?_
    exact ⟨fun h => ⟨h.mem, h.before, h.fits, fun k hk => h.free k (Jumps.mem_sorted.2 hk)⟩,
      fun h => ⟨h.mem, h.before, h.fits, fun k hk => h.free k (Jumps.mem_sorted.1 hk)⟩⟩
  · exact ((hsorted.map _).append_right _).trans hstarts
  · exact ((hsorted.map _).append_right _).trans (scanLoops_ends 0 [] steps)
  · intro p hp
    have hwithin : (scanLoops 0 [] steps).pairs.Within (0 + steps.length) := scanLoops_within nofun
    exact (hwithin p (Jumps.mem_sorted.1 hp)).1
  · have hindices : ((gather loopAt? 0 steps).map (·.index)).Nodup :=
      List.pairwise_map.2 (locates_loopAt?.rising.imp Nat.ne_of_lt)
    exact Jumps.sorted_rising (List.nodup_append.1 (hstarts.nodup_iff.2 hindices)).1
  · exact fun hunnamed => Jumps.nested_sorted.2 (scanLoops_nested .nil nofun hunnamed)

-- an end that names the outer one of two loops closes it first, and the loops cross
example :
    (findLoopPairs ([.loopStart ⟨some "a", .count 1⟩, .loopStart ⟨none, .count 1⟩, .loopEnd (some "a"), .loopEnd none].map
      fun kind => { kind })).pairs = [(0, 2), (1, 3)] := by decide

end FormReplay
