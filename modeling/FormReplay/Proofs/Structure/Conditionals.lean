import FormReplay.Proofs.Structure.Markers
/-!
# Exact pairing of conditionals

Conditionals nest, and an else belongs to the innermost conditional that is open where it stands.  It is on record if it
is the first one there and the conditional is closed at last; otherwise it is an issue, or the conditional is one
(`exact_findIfPairs`).  Each lemma follows the scan with the conditionals that are open as its hypothesis, beside those
that are yet to come.
-/
namespace FormReplay

/-! ## Starts, elses and ends -/

def ifAt? (i : Nat) : StepKind → Option Nat
  | .ifStart _ => some i
  | _          => none

def elseAt? (i : Nat) : StepKind → Option Nat
  | .otherwise => some i
  | _          => none

def ifEndAt? (i : Nat) : StepKind → Option Nat
  | .ifEnd => some i
  | _      => none

def StructuralIssue.unclosedIf? : StructuralIssue → Option Nat
  | .unclosedIf i => some i
  | _             => none

def StructuralIssue.unmatchedIfEnd? : StructuralIssue → Option Nat
  | .unmatchedIfEnd i => some i
  | _                 => none

theorem locates_ifAt? : Locates ifAt? id := by
  intro i kind a h
  cases kind <;> cases h
  rfl

theorem locates_elseAt? : Locates elseAt? id := by
  intro i kind a h
  cases kind <;> cases h
  rfl

theorem locates_ifEndAt? : Locates ifEndAt? id := by
  intro i kind a h
  cases kind <;> cases h
  rfl

theorem ifAt?_eq_none {i : Nat} {kind : StepKind} (h : ∀ condition, kind = .ifStart condition → False) :
    ifAt? i kind = none := by
  cases kind <;> first | rfl | exact (h _ rfl).elim

theorem elseAt?_eq_none {i : Nat} {kind : StepKind} (h : kind = .otherwise → False) : elseAt? i kind = none := by
  cases kind <;> first | rfl | exact (h rfl).elim

theorem ifEndAt?_eq_none {i : Nat} {kind : StepKind} (h : kind = .ifEnd → False) : ifEndAt? i kind = none := by
  cases kind <;> first | rfl | exact (h rfl).elim

/-! ## Nothing is lost -/

/-- **Every start of a conditional begins a block or is reported as never closed.** -/
theorem scanIfs_starts (i : Nat) (stack : List OpenIf) (steps : List Step) :
    ((scanIfs i stack steps).ifToEnd.map (·.1) ++
        (scanIfs i stack steps).issues.filterMap StructuralIssue.unclosedIf?).Perm
      (stack.map (·.index) ++ gather ifAt? i steps) := by
  fun_induction scanIfs i stack steps with
  | case1 i stack =>
    simp only [List.filterMap_map, Function.comp_def, StructuralIssue.unclosedIf?, List.map_nil, List.nil_append,
      gather_nil, List.append_nil, List.filterMap_eq_map']
    exact (List.reverse_perm stack).map _
  | case2 i stack s rest condition hkind ih =>
    rw [gather_some (a := i) (by rw [hkind]; rfl)]
    exact ih.trans List.perm_middle.symm
  | case3 i s rest hkind ih =>
    rw [gather_none (by rw [hkind]; rfl)]
    exact ih
  | case4 i s rest hkind f outer ih =>
    rw [gather_none (by rw [hkind]; rfl)]
    exact ih
  | case5 i s rest hkind f e outer ih =>
    rw [gather_none (by rw [hkind]; rfl)]
    exact ih
  | case6 i s rest hkind ih =>
    rw [gather_none (by rw [hkind]; rfl)]
    exact ih
  | case7 i s rest hkind o outer ih =>
    rw [gather_none (by rw [hkind]; rfl), IfPairs.issues_addBlock, IfPairs.ifToEnd_addBlock]
    exact ih.cons o.index
  | case8 i stack s rest hstart helse hend ih =>
    rw [gather_none (ifAt?_eq_none hstart)]
    exact ih

/-- **Every end of a conditional ends a block or is reported as unmatched.** -/
theorem scanIfs_ends (i : Nat) (stack : List OpenIf) (steps : List Step) :
    ((scanIfs i stack steps).ifToEnd.map (·.2) ++
        (scanIfs i stack steps).issues.filterMap StructuralIssue.unmatchedIfEnd?).Perm (gather ifEndAt? i steps) := by
  fun_induction scanIfs i stack steps with
  | case1 i stack =>
    simp [List.filterMap_map, Function.comp_def, StructuralIssue.unmatchedIfEnd?]
  | case2 i stack s rest condition hkind ih =>
    rw [gather_none (by rw [hkind]; rfl)]
    exact ih
  | case3 i s rest hkind ih =>
    rw [gather_none (by rw [hkind]; rfl)]
    exact ih
  | case4 i s rest hkind f outer ih =>
    rw [gather_none (by rw [hkind]; rfl)]
    exact ih
  | case5 i s rest hkind f e outer ih =>
    rw [gather_none (by rw [hkind]; rfl)]
    exact ih
  | case6 i s rest hkind ih =>
    rw [gather_some (a := i) (by rw [hkind]; rfl)]
    exact List.perm_middle.trans (ih.cons i)
  | case7 i s rest hkind o outer ih =>
    rw [gather_some (a := i) (by rw [hkind]; rfl), IfPairs.issues_addBlock, IfPairs.ifToEnd_addBlock]
    exact ih.cons i
  | case8 i stack s rest hstart helse hend ih =>
    rw [gather_none (ifEndAt?_eq_none hend)]
    exact ih

theorem le_of_mem_scanIfs {i : Nat} {stack : List OpenIf} {steps : List Step} {p : Nat × Nat}
    (hp : p ∈ (scanIfs i stack steps).ifToEnd) : i ≤ p.2 :=
  locates_ifEndAt?.le_index <|
    (scanIfs_ends i stack steps).mem_iff.1 (List.mem_append_left _ (List.mem_map.2 ⟨p, hp, rfl⟩))

theorem start_of_mem_scanIfs {i : Nat} {stack : List OpenIf} {steps : List Step} {p : Nat × Nat}
    (hp : p ∈ (scanIfs i stack steps).ifToEnd) : (∃ o ∈ stack, o.index = p.1) ∨ i ≤ p.1 := by
  have hmem := (scanIfs_starts i stack steps).mem_iff.1 (List.mem_append_left _ (List.mem_map.2 ⟨p, hp, rfl⟩))
  rcases List.mem_append.1 hmem with ho | ho
  · exact .inl (List.mem_map.1 ho)
  · exact .inr (locates_ifAt?.le_index ho)

/-! ## The open conditionals -/

/-- The conditionals open at an index, the innermost first: each lies, with its else, before all that are inside it. -/
def Piled (i : Nat) (stack : List OpenIf) : Prop :=
  (∀ o ∈ stack, o.Before i) ∧ stack.Pairwise fun inner outer => outer.Before inner.index

namespace Piled

variable {i : Nat} {stack outer : List OpenIf} {o : OpenIf} {f : Nat}

theorem nil : Piled i [] := ⟨nofun, .nil⟩

theorem succ (h : Piled i stack) : Piled (i + 1) stack := ⟨fun o ho => (h.1 o ho).succ, h.2⟩

theorem push (h : Piled i stack) : Piled (i + 1) (⟨i, none⟩ :: stack) :=
  ⟨List.forall_mem_cons.2 ⟨⟨Nat.lt_succ_self i, nofun⟩, h.succ.1⟩, h.2.cons h.1⟩

theorem pop (h : Piled i (o :: outer)) : Piled i outer :=
  ⟨fun a ha => h.1 a (.tail _ ha), h.2.of_cons⟩

theorem setElse (h : Piled i (⟨f, none⟩ :: outer)) : Piled (i + 1) (⟨f, some i⟩ :: outer) := by
  obtain ⟨hf, -⟩ := h.1 _ (.head _)
  refine ⟨List.forall_mem_cons.2 ⟨⟨Nat.lt_succ_of_lt hf, fun e he => ?_⟩, h.pop.succ.1⟩, ?_⟩
  · cases he
    exact ⟨hf, Nat.lt_succ_self i⟩
  · exact List.pairwise_cons.2 (List.pairwise_cons.1 h.2)

theorem before_or (h : Piled i stack) {a b : OpenIf} (ha : a ∈ stack) (hb : b ∈ stack) :
    a = b ∨ a.Before b.index ∨ b.Before a.index := by
  obtain ⟨-, hpairwise⟩ := h
  induction stack with
  | nil => cases ha
  | cons c stack ih =>
    obtain ⟨hc, hrest⟩ := List.pairwise_cons.1 hpairwise
    rcases List.mem_cons.1 ha with rfl | ha' <;> rcases List.mem_cons.1 hb with rfl | hb'
    · exact .inl rfl
    · exact .inr (.inr (hc b hb'))
    · exact .inr (.inl (hc a ha'))
    · exact ih ha' hb' hrest

end Piled

/-- **Blocks nest.** -/
theorem scanIfs_nested {i : Nat} {stack : List OpenIf} {steps : List Step} (h : Piled i stack) :
    (scanIfs i stack steps).ifToEnd.Nested := by
  fun_induction scanIfs i stack steps with
  | case1 i stack => exact nofun
  | case2 i stack s rest condition hkind ih => exact ih h.push
  | case3 i s rest hkind ih => exact ih .nil
  | case4 i s rest hkind f outer ih => exact ih h.setElse
  | case5 i s rest hkind f e outer ih => exact ih h.succ
  | case6 i s rest hkind ih => exact ih .nil
  | case7 i s rest hkind o outer ih =>
    rw [IfPairs.ifToEnd_addBlock]
    refine (ih h.pop.succ).cons fun q hq => ⟨le_of_mem_scanIfs hq, ?_⟩
    rcases start_of_mem_scanIfs hq with ⟨a, ha, heq⟩ | hle
    · exact .inl (heq ▸ Nat.le_of_lt (List.rel_of_pairwise_cons h.2 ha).1)
    · exact .inr hle
  | case8 i stack s rest hstart helse hend ih => exact ih h.succ

/-! ## One else, one block -/

namespace IfPairs

@[simp] theorem ifToElse_addBlock (p : IfPairs) (o : OpenIf) (stop : Nat) :
    (p.addBlock o stop).ifToElse = o.elseIndex.toList.map (o.index, ·) ++ p.ifToElse := by
  unfold addBlock
  split <;> rename_i he <;> rw [he] <;> rfl

/-- The else of a block jumps to the end of the block, and no other step does. -/
structure Agrees (found : IfPairs) : Prop where
  elseEnd (a x : Nat) : (a, x) ∈ found.ifToElse → ∃ stop, (a, stop) ∈ found.ifToEnd ∧ (x, stop) ∈ found.elseToEnd
  elseStart (x stop : Nat) : (x, stop) ∈ found.elseToEnd → ∃ a, (a, x) ∈ found.ifToElse ∧ (a, stop) ∈ found.ifToEnd

theorem Agrees.addBlock {found : IfPairs} (h : found.Agrees) (o : OpenIf) (stop : Nat) :
    (found.addBlock o stop).Agrees := by
  constructor
  · intro a x hx
    rw [ifToElse_addBlock] at hx
    rw [ifToEnd_addBlock, elseToEnd_addBlock]
    rcases List.mem_append.1 hx with hx | hx
    · obtain ⟨e, he, heq⟩ := List.mem_map.1 hx
      cases heq
      exact ⟨stop, .head _, List.mem_append_left _ (List.mem_map.2 ⟨x, he, rfl⟩)⟩
    · obtain ⟨last, hend, helse⟩ := h.elseEnd a x hx
      exact ⟨last, .tail _ hend, List.mem_append_right _ helse⟩
  · intro x last hx
    rw [elseToEnd_addBlock] at hx
    rw [ifToEnd_addBlock, ifToElse_addBlock]
    rcases List.mem_append.1 hx with hx | hx
    · obtain ⟨e, he, heq⟩ := List.mem_map.1 hx
      cases heq
      exact ⟨o.index, List.mem_append_left _ (List.mem_map.2 ⟨x, he, rfl⟩), .head _⟩
    · obtain ⟨a, helse, hend⟩ := h.elseStart x last hx
      exact ⟨a, List.mem_append_right _ helse, .tail _ hend⟩

end IfPairs

theorem scanIfs_agrees (i : Nat) (stack : List OpenIf) (steps : List Step) : (scanIfs i stack steps).Agrees := by
  fun_induction scanIfs i stack steps with
  | case1 i stack => exact ⟨nofun, nofun⟩
  | case2 i stack s rest condition hkind ih => exact ih
  | case3 i s rest hkind ih => exact ⟨ih.elseEnd, ih.elseStart⟩
  | case4 i s rest hkind f outer ih => exact ih
  | case5 i s rest hkind f e outer ih => exact ⟨ih.elseEnd, ih.elseStart⟩
  | case6 i s rest hkind ih => exact ⟨ih.elseEnd, ih.elseStart⟩
  | case7 i s rest hkind o outer ih => exact ih.addBlock o i
  | case8 i stack s rest hstart helse hend ih => exact ih

/-! ## The innermost conditional -/

namespace Jumps

/-- Of the starts, `a` is the innermost one whose block is open at an index. -/
structure Innermost (blocks : Jumps) (starts : List Nat) (x a : Nat) : Prop where
  mem    : a ∈ starts
  before : a < x
  free   : ∀ stop, (a, stop) ∈ blocks → x < stop
  inner  : ∀ b ∈ starts, a < b → b < x → ∃ stop, (b, stop) ∈ blocks ∧ stop < x

structure FirstElse (blocks : Jumps) (starts elses : List Nat) (a x : Nat) : Prop where
  mem       : x ∈ elses
  innermost : blocks.Innermost starts x a
  first     : ∀ y ∈ elses, y < x → ¬blocks.Innermost starts y a

variable {blocks blocks' : Jumps} {starts starts' elses elses' : List Nat} {a b x y start stop : Nat}

theorem Innermost.unique (ha : blocks.Innermost starts x a) (hb : blocks.Innermost starts x b) : a = b := by
  -- the one that starts first would need the other one to be closed before the index
  have hle : ∀ {a b}, blocks.Innermost starts x a → blocks.Innermost starts x b → b ≤ a := by
    intro a b ha hb
    refine Nat.le_of_not_lt fun hlt => ?_
    obtain ⟨stop, hstop, hlast⟩ := ha.inner b hb.mem hlt hb.before
    exact Nat.lt_asymm hlast (hb.free stop hstop)
  exact Nat.le_antisymm (hle hb ha) (hle ha hb)

theorem FirstElse.unique (hx : blocks.FirstElse starts elses a x) (hy : blocks.FirstElse starts elses a y) : x = y := by
  have hle : ∀ {x y}, blocks.FirstElse starts elses a x → blocks.FirstElse starts elses a y → y ≤ x := fun hx hy =>
    Nat.le_of_not_lt fun hlt => hy.first _ hx.mem hlt hx.innermost
  exact Nat.le_antisymm (hle hy hx) (hle hx hy)

theorem Innermost.congr (h : blocks.Innermost starts x a) (hblocks : ∀ p, p ∈ blocks ↔ p ∈ blocks')
    (hstarts : ∀ a, a ∈ starts ↔ a ∈ starts') : blocks'.Innermost starts' x a := by
  refine ⟨(hstarts a).1 h.mem, h.before, fun stop hstop => h.free stop ((hblocks _).2 hstop), fun b hb hab hbx => ?_⟩
  obtain ⟨stop, hstop, hlt⟩ := h.inner b ((hstarts b).2 hb) hab hbx
  exact ⟨stop, (hblocks _).1 hstop, hlt⟩

theorem FirstElse.congr (h : blocks.FirstElse starts elses a x) (hblocks : ∀ p, p ∈ blocks ↔ p ∈ blocks')
    (hstarts : ∀ a, a ∈ starts ↔ a ∈ starts') (helses : ∀ x, x ∈ elses ↔ x ∈ elses') :
    blocks'.FirstElse starts' elses' a x :=
  ⟨(helses x).1 h.mem, h.innermost.congr hblocks hstarts, fun y hy hlt hinner =>
    h.first y ((helses y).2 hy) hlt (hinner.congr (fun p => (hblocks p).symm) fun a => (hstarts a).symm)⟩

theorem innermost_of_last (ha : a ∈ starts) (hlt : a < x) (hends : ∀ p ∈ blocks, x < p.2)
    (hbetween : ∀ b ∈ starts, b ≤ a ∨ x ≤ b) : blocks.Innermost starts x a := by
  refine ⟨ha, hlt, fun stop hstop => hends _ hstop, fun b hb hab hbx => ?_⟩
  rcases hbetween b hb with hle | hle
  · exact absurd hab (Nat.not_lt.2 hle)
  · exact absurd hbx (Nat.not_lt.2 hle)

theorem innermost_cons (hstarts : ∀ a, a ∈ starts ↔ a = start ∨ a ∈ starts') (hnot : start ∉ starts')
    (hx : start < x → stop < x) : Innermost ((start, stop) :: blocks) starts x a ↔ blocks.Innermost starts' x a := by
  constructor
  · rintro ⟨hmem, hbefore, hfree, hinner⟩
    have ha : a ≠ start := by
      rintro rfl
      exact Nat.lt_asymm (hx hbefore) (hfree stop (.head _))
    refine ⟨((hstarts a).1 hmem).resolve_left ha, hbefore, fun last h => hfree last (.tail _ h), fun b hb hab hbx => ?_⟩
    obtain ⟨last, hlast, hlt⟩ := hinner b ((hstarts b).2 (.inr hb)) hab hbx
    rcases List.mem_cons.1 hlast with heq | hlast
    · cases heq
      exact absurd hb hnot
    · exact ⟨last, hlast, hlt⟩
  · rintro ⟨hmem, hbefore, hfree, hinner⟩
    refine ⟨(hstarts a).2 (.inr hmem), hbefore, fun last hlast => ?_, fun b hb hab hbx => ?_⟩
    · rcases List.mem_cons.1 hlast with heq | hlast
      · cases heq
        exact absurd hmem hnot
      · exact hfree last hlast
    · rcases (hstarts b).1 hb with rfl | hb
      · exact ⟨stop, .head _, hx hbx⟩
      · obtain ⟨last, hlast, hlt⟩ := hinner b hb hab hbx
        exact ⟨last, .tail _ hlast, hlt⟩

theorem FirstElse.cons (h : blocks.FirstElse starts elses a x)
    (hextra : ∀ a, blocks.Innermost starts y a → ∃ z ∈ elses, z < y ∧ blocks.Innermost starts z a) :
    blocks.FirstElse starts (y :: elses) a x := by
  refine ⟨.tail _ h.mem, h.innermost, List.forall_mem_cons.2 ⟨fun hlt hy => ?_, h.first⟩⟩
  obtain ⟨z, hz, hzy, hinner⟩ := hextra a hy
  exact h.first z hz (Nat.lt_trans hzy hlt) hinner

end Jumps

theorem Piled.firstElse {i : Nat} {stack : List OpenIf} {o : OpenIf} {e : Nat} {blocks : Jumps} {ifs elses : List Nat}
    (h : Piled i stack) (ho : o ∈ stack) (he : e ∈ o.elseIndex) (hends : ∀ p ∈ blocks, i ≤ p.2)
    (hifs : ∀ a ∈ ifs, i ≤ a) (helses : ∀ x ∈ elses, i ≤ x) :
    blocks.FirstElse (stack.map (·.index) ++ ifs) (stack.filterMap (·.elseIndex) ++ elses) o.index e := by
  obtain ⟨hoe, hei⟩ := (h.1 o ho).2 e he
  refine ⟨List.mem_append_left _ (List.mem_filterMap.2 ⟨o, ho, he⟩), ?_, fun y hy hlt hinner => ?_⟩
  · refine Jumps.innermost_of_last (List.mem_append_left _ (List.mem_map.2 ⟨o, ho, rfl⟩)) hoe
      (fun p hp => Nat.lt_of_lt_of_le hei (hends p hp)) fun b hb => ?_
    rcases List.mem_append.1 hb with hb | hb
    · obtain ⟨other, hother, rfl⟩ := List.mem_map.1 hb
      rcases h.before_or ho hother with rfl | hbefore | hbefore
      · exact .inl (Nat.le_refl _)
      · exact .inr (Nat.le_of_lt (hbefore.2 e he).2)
      · exact .inl (Nat.le_of_lt hbefore.1)
    · exact .inr (Nat.le_trans (Nat.le_of_lt hei) (hifs b hb))
  · rcases List.mem_append.1 hy with hy | hy
    · obtain ⟨other, hother, hy⟩ := List.mem_filterMap.1 hy
      rcases h.before_or ho hother with rfl | hbefore | hbefore
      · exact absurd hlt (Option.mem_unique hy he ▸ Nat.lt_irrefl _)
      · exact Nat.lt_asymm (Nat.lt_trans hlt (hbefore.2 e he).2) ((h.1 other hother).2 y hy).1
      · exact Nat.lt_asymm (hbefore.2 y hy).2 hinner.before
    · exact Nat.lt_asymm (Nat.lt_of_lt_of_le hei (helses y hy)) hlt

/-- At the index of a scan the first conditional of the stack is innermost. -/
theorem Piled.innermost {i : Nat} {outer : List OpenIf} {o : OpenIf} {blocks : Jumps} {ifs : List Nat}
    (h : Piled i (o :: outer)) (hends : ∀ p ∈ blocks, i < p.2) (hifs : ∀ a ∈ ifs, i < a) :
    blocks.Innermost ((o :: outer).map (·.index) ++ ifs) i o.index := by
  refine Jumps.innermost_of_last (.head _) (h.1 o (.head _)).1 hends fun b hb => ?_
  rcases List.mem_append.1 hb with hb | hb
  · obtain ⟨other, hother, rfl⟩ := List.mem_map.1 hb
    rcases List.mem_cons.1 hother with rfl | hother
    · exact .inl (Nat.le_refl _)
    · exact .inl (Nat.le_of_lt (List.rel_of_pairwise_cons h.2 hother).1)
  · exact .inr (Nat.le_of_lt (hifs b hb))

/-! ## What becomes of each else -/

namespace IfPairs

/-- What is said of each else: that it is on record, in no conditional, or not the first one of its conditional; or else
it is the first one of a conditional that is said to be unclosed. -/
structure TellsElses (found : IfPairs) (ifs elses : List Nat) : Prop where
  recorded (a x : Nat) : (a, x) ∈ found.ifToElse → found.ifToEnd.FirstElse ifs elses a x
  unmatched (x : Nat) : .unmatchedElse x ∈ found.issues → x ∈ elses ∧ ∀ a, ¬found.ifToEnd.Innermost ifs x a
  duplicate (x a : Nat) : .duplicateElse x a ∈ found.issues → x ∈ elses ∧ found.ifToEnd.Innermost ifs x a ∧
    ∃ y ∈ elses, y < x ∧ found.ifToEnd.Innermost ifs y a
  told (x : Nat) : x ∈ elses → (∃ a, (a, x) ∈ found.ifToElse) ∨ .unmatchedElse x ∈ found.issues ∨
    (∃ a, .duplicateElse x a ∈ found.issues) ∨ ∃ a, .unclosedIf a ∈ found.issues ∧ found.ifToEnd.FirstElse ifs elses a x

namespace TellsElses

variable {found : IfPairs} {ifs ifs' elses elses' : List Nat} {o : OpenIf} {i y : Nat}

theorem congr {found' : IfPairs} (h : found.TellsElses ifs elses) (hifElse : ∀ p, p ∈ found.ifToElse ↔ p ∈ found'.ifToElse)
    (hifEnd : ∀ p, p ∈ found.ifToEnd ↔ p ∈ found'.ifToEnd) (hissues : found.issues = found'.issues)
    (hifs : ∀ a, a ∈ ifs ↔ a ∈ ifs') (helses : ∀ x, x ∈ elses ↔ x ∈ elses') : found'.TellsElses ifs' elses' := by
  constructor
  · exact fun a x hx => (h.recorded a x ((hifElse _).2 hx)).congr hifEnd hifs helses
  · intro x hx
    obtain ⟨hmem, hnone⟩ := h.unmatched x (hissues ▸ hx)
    exact ⟨(helses x).1 hmem, fun a ha => hnone a (ha.congr (fun p => (hifEnd p).symm) fun a => (hifs a).symm)⟩
  · intro x a hx
    obtain ⟨hmem, ha, y, hy, hlt, hya⟩ := h.duplicate x a (hissues ▸ hx)
    exact ⟨(helses x).1 hmem, ha.congr hifEnd hifs, y, (helses y).1 hy, hlt, hya.congr hifEnd hifs⟩
  · intro x hx
    rw [← hissues]
    rcases h.told x ((helses x).2 hx) with ⟨a, hrec⟩ | hun | hdup | ⟨a, ha, hfirst⟩
    · exact .inl ⟨a, (hifElse _).1 hrec⟩
    · exact .inr (.inl hun)
    · exact .inr (.inr (.inl hdup))
    · exact .inr (.inr (.inr ⟨a, ha, hfirst.congr hifEnd hifs helses⟩))

theorem perm (h : found.TellsElses ifs elses) (hifs : ifs.Perm ifs') (helses : elses.Perm elses') :
    found.TellsElses ifs' elses' :=
  h.congr (fun _ => Iff.rfl) (fun _ => Iff.rfl) rfl (fun _ => hifs.mem_iff) fun _ => helses.mem_iff

theorem addIssue {issue : StructuralIssue} (h : found.TellsElses ifs elses) (hun : ∀ x, issue ≠ .unmatchedElse x)
    (hdup : ∀ x a, issue ≠ .duplicateElse x a) : (found.addIssue issue).TellsElses ifs elses := by
  constructor
  · exact h.recorded
  · exact fun x hx => h.unmatched x ((List.mem_cons.1 hx).resolve_left fun heq => hun x heq.symm)
  · exact fun x a hx => h.duplicate x a ((List.mem_cons.1 hx).resolve_left fun heq => hdup x a heq.symm)
  · intro x hx
    rcases h.told x hx with hrec | hx | ⟨a, ha⟩ | ⟨a, ha, hfirst⟩
    · exact .inl hrec
    · exact .inr (.inl (.tail _ hx))
    · exact .inr (.inr (.inl ⟨a, .tail _ ha⟩))
    · exact .inr (.inr (.inr ⟨a, .tail _ ha, hfirst⟩))

theorem addElse {issue : StructuralIssue} (h : found.TellsElses ifs elses)
    (hissue : (issue = .unmatchedElse y ∧ ∀ a, ¬found.ifToEnd.Innermost ifs y a) ∨
      ∃ a, issue = .duplicateElse y a ∧ found.ifToEnd.Innermost ifs y a ∧
        ∃ z ∈ elses, z < y ∧ found.ifToEnd.Innermost ifs z a) :
    (found.addIssue issue).TellsElses ifs (y :: elses) := by
  have hextra : ∀ a, found.ifToEnd.Innermost ifs y a → ∃ z ∈ elses, z < y ∧ found.ifToEnd.Innermost ifs z a := by
    intro a ha
    rcases hissue with ⟨-, hnone⟩ | ⟨b, -, hb, hearlier⟩
    · exact absurd ha (hnone a)
    · exact hb.unique ha ▸ hearlier
  constructor
  · exact fun a x hx => (h.recorded a x hx).cons hextra
  · intro x hx
    rcases List.mem_cons.1 hx with heq | hx
    · rcases hissue with ⟨rfl, hnone⟩ | ⟨b, rfl, -⟩ <;> cases heq
      exact ⟨.head _, hnone⟩
    · obtain ⟨hmem, hnone⟩ := h.unmatched x hx
      exact ⟨.tail _ hmem, hnone⟩
  · intro x a hx
    rcases List.mem_cons.1 hx with heq | hx
    · rcases hissue with ⟨rfl, -⟩ | ⟨b, rfl, hb, z, hz, hearlier⟩ <;> cases heq
      exact ⟨.head _, hb, z, .tail _ hz, hearlier⟩
    · obtain ⟨hmem, ha, z, hz, hearlier⟩ := h.duplicate x a hx
      exact ⟨.tail _ hmem, ha, z, .tail _ hz, hearlier⟩
  · intro x hx
    rcases List.mem_cons.1 hx with rfl | hx
    · rcases hissue with ⟨rfl, -⟩ | ⟨b, rfl, -⟩
      · exact .inr (.inl (.head _))
      · exact .inr (.inr (.inl ⟨b, .head _⟩))
    · rcases h.told x hx with hrec | hx | ⟨a, ha⟩ | ⟨a, ha, hfirst⟩
      · exact .inl hrec
      · exact .inr (.inl (.tail _ hx))
      · exact .inr (.inr (.inl ⟨a, .tail _ ha⟩))
      · exact .inr (.inr (.inr ⟨a, .tail _ ha, hfirst.cons hextra⟩))

theorem addBlock (h : found.TellsElses ifs' elses') (hifs : ∀ a, a ∈ ifs ↔ a = o.index ∨ a ∈ ifs')
    (helses : ∀ x, x ∈ elses ↔ x ∈ o.elseIndex ∨ x ∈ elses') (hnot : o.index ∉ ifs')
    (hout : ∀ x ∈ elses', o.index < x → i < x)
    (hown : ∀ e ∈ o.elseIndex, (found.addBlock o i).ifToEnd.FirstElse ifs elses o.index e) :
    (found.addBlock o i).TellsElses ifs elses := by
  have hinner : ∀ x ∈ elses', ∀ a, (found.addBlock o i).ifToEnd.Innermost ifs x a ↔ found.ifToEnd.Innermost ifs' x a := by
    intro x hx a
    rw [ifToEnd_addBlock]
    exact Jumps.innermost_cons hifs hnot (hout x hx)
  have hfirst : ∀ a x, found.ifToEnd.FirstElse ifs' elses' a x →
      (found.addBlock o i).ifToEnd.FirstElse ifs elses a x := by
    rintro a x ⟨hmem, hx, hfirst⟩
    refine ⟨(helses x).2 (.inr hmem), (hinner x hmem a).2 hx, fun y hy hlt hya => ?_⟩
    rcases (helses y).1 hy with hy | hy
    · exact hnot ((hown y hy).innermost.unique hya ▸ hx.mem)
    · exact hfirst y hy hlt ((hinner y hy a).1 hya)
  constructor
  · intro a x hx
    rw [ifToElse_addBlock] at hx
    rcases List.mem_append.1 hx with hx | hx
    · obtain ⟨e, he, heq⟩ := List.mem_map.1 hx
      cases heq
      exact hown x (Option.mem_toList.1 he)
    · exact hfirst a x (h.recorded a x hx)
  · intro x hx
    rw [issues_addBlock] at hx
    obtain ⟨hmem, hnone⟩ := h.unmatched x hx
    exact ⟨(helses x).2 (.inr hmem), fun a ha => hnone a ((hinner x hmem a).1 ha)⟩
  · intro x a hx
    rw [issues_addBlock] at hx
    obtain ⟨hmem, ha, y, hy, hlt, hya⟩ := h.duplicate x a hx
    exact ⟨(helses x).2 (.inr hmem), (hinner x hmem a).2 ha, y, (helses y).2 (.inr hy), hlt, (hinner y hy a).2 hya⟩
  · intro x hx
    rw [issues_addBlock, ifToElse_addBlock]
    rcases (helses x).1 hx with hx | hx
    · exact .inl ⟨o.index, List.mem_append_left _ (List.mem_map.2 ⟨x, Option.mem_toList.2 hx, rfl⟩)⟩
    · rcases h.told x hx with ⟨a, ha⟩ | hun | hdup | ⟨a, ha, hx⟩
      · exact .inl ⟨a, List.mem_append_right _ ha⟩
      · exact .inr (.inl hun)
      · exact .inr (.inr (.inl hdup))
      · exact .inr (.inr (.inr ⟨a, ha, hfirst a x hx⟩))

end TellsElses

end IfPairs

/-- **Each else is on record, or is said to be missing from it.** -/
theorem scanIfs_tellsElses {i : Nat} {stack : List OpenIf} {steps : List Step} (h : Piled i stack) :
    (scanIfs i stack steps).TellsElses (stack.map (·.index) ++ gather ifAt? i steps)
      (stack.filterMap (·.elseIndex) ++ gather elseAt? i steps) := by
  fun_induction scanIfs i stack steps with
  | case1 i stack =>
    constructor
    · exact nofun
    · intro x hx
      obtain ⟨o, -, heq⟩ := List.mem_map.1 hx
      cases heq
    · intro x a hx
      obtain ⟨o, -, heq⟩ := List.mem_map.1 hx
      cases heq
    · intro x hx
      rw [gather_nil, List.append_nil] at hx
      obtain ⟨o, ho, he⟩ := List.mem_filterMap.1 hx
      exact .inr (.inr (.inr ⟨o.index, List.mem_map.2 ⟨o, List.mem_reverse.2 ho, rfl⟩,
        h.firstElse ho he nofun nofun nofun⟩))
  | case2 i stack s rest condition hkind ih =>
    rw [gather_some (a := i) (by rw [hkind]; rfl), gather_none (by rw [hkind]; rfl)]
    exact (ih h.push).perm List.perm_middle.symm (.refl _)
  | case3 i s rest hkind ih =>
    rw [gather_none (by rw [hkind]; rfl), gather_some (a := i) (by rw [hkind]; rfl)]
    refine (ih .nil).addElse (.inl ⟨rfl, fun a ha => ?_⟩)
    exact Nat.lt_asymm ha.before (locates_ifAt?.le_index ha.mem)
  | case4 i s rest hkind f outer ih =>
    rw [gather_none (by rw [hkind]; rfl), gather_some (a := i) (by rw [hkind]; rfl)]
    exact (ih h.setElse).perm (.refl _) List.perm_middle.symm
  | case5 i s rest hkind f e outer ih =>
    rw [gather_none (by rw [hkind]; rfl), gather_some (a := i) (by rw [hkind]; rfl)]
    have hends : ∀ p ∈ (scanIfs (i + 1) (⟨f, some e⟩ :: outer) rest).ifToEnd, i < p.2 := fun p hp => le_of_mem_scanIfs hp
    have hifs : ∀ a ∈ gather ifAt? (i + 1) rest, i < a := fun a ha => locates_ifAt?.le_index ha
    have helses : ∀ x ∈ gather elseAt? (i + 1) rest, i < x := fun x hx => locates_elseAt?.le_index hx
    have hfirst := h.firstElse (.head _) (Option.mem_some_self e) (fun p hp => Nat.le_of_lt (hends p hp))
      (fun a ha => Nat.le_of_lt (hifs a ha)) fun x hx => Nat.le_of_lt (helses x hx)
    have hei : e < i := ((h.1 _ (.head _)).2 e rfl).2
    have hissue := (ih h.succ).addElse (.inr ⟨f, rfl, h.innermost hends hifs, e, hfirst.mem, hei, hfirst.innermost⟩)
    exact hissue.perm (.refl _) List.perm_middle.symm
  | case6 i s rest hkind ih =>
    rw [gather_none (by rw [hkind]; rfl), gather_none (by rw [hkind]; rfl)]
    exact (ih .nil).addIssue nofun nofun
  | case7 i s rest hkind o outer ih =>
    rw [gather_none (by rw [hkind]; rfl), gather_none (by rw [hkind]; rfl)]
    have ho : o.index < i := (h.1 o (.head _)).1
    have hifs : ∀ a ∈ gather ifAt? (i + 1) rest, i < a := fun a ha => locates_ifAt?.le_index ha
    have helses : ∀ x ∈ gather elseAt? (i + 1) rest, i < x := fun x hx => locates_elseAt?.le_index hx
    have houter : ∀ a ∈ outer, a.Before o.index := fun a ha => List.rel_of_pairwise_cons h.2 ha
    refine (ih h.pop.succ).addBlock (fun a => List.mem_cons) (fun x => ?_) (fun hmem => ?_) (fun x hx hlt => ?_)
      fun e he => h.firstElse (.head _) he ?_ (fun a ha => Nat.le_of_lt (hifs a ha)) fun x hx => Nat.le_of_lt (helses x hx)
    · cases he : o.elseIndex with
      | none => simp [he]
      | some e => simp [he, eq_comm]
    · rcases List.mem_append.1 hmem with hmem | hmem
      · obtain ⟨a, ha, heq⟩ := List.mem_map.1 hmem
        exact Nat.ne_of_lt (houter a ha).1 heq
      · exact Nat.lt_asymm ho (hifs _ hmem)
    · rcases List.mem_append.1 hx with hx | hx
      · obtain ⟨a, ha, hx⟩ := List.mem_filterMap.1 hx
        exact absurd hlt (Nat.lt_asymm ((houter a ha).2 x hx).2)
      · exact helses x hx
    · rw [IfPairs.ifToEnd_addBlock]
      exact List.forall_mem_cons.2 ⟨Nat.le_refl i, fun p hp => Nat.le_of_lt (le_of_mem_scanIfs hp)⟩
  | case8 i stack s rest hstart helse hend ih =>
    rw [gather_none (ifAt?_eq_none hstart), gather_none (elseAt?_eq_none helse)]
    exact ih h.succ

/-! ## All conditionals of a step list -/

def ifStarts (steps : List Step) : List Nat := gather ifAt? 0 steps

def elses (steps : List Step) : List Nat := gather elseAt? 0 steps

def ifEnds (steps : List Step) : List Nat := gather ifEndAt? 0 steps

/-- What it is to pair the conditionals of a step list exactly: in blocks that nest, each with the first else for which
it is the innermost block, and with every start, end and else in the tables or in an issue. -/
structure IfPairs.Exact (found : IfPairs) (steps : List Step) : Prop where
  branch (a x : Nat) : found.ifToElse.target? a = some x →
    ∃ stop, found.ifToEnd.target? a = some stop ∧ a < x ∧ x < stop ∧ found.elseToEnd.target? x = some stop
  elseStart (x stop : Nat) : found.elseToEnd.target? x = some stop → ∃ a, found.ifToElse.target? a = some x
  oneIfPerElse (a b x : Nat) : found.ifToElse.target? a = some x → found.ifToElse.target? b = some x → a = b
  oneIfPerEnd (a b stop : Nat) : found.ifToEnd.target? a = some stop → found.ifToEnd.target? b = some stop → a = b
  oneElsePerEnd (x y stop : Nat) : found.elseToEnd.target? x = some stop → found.elseToEnd.target? y = some stop → x = y
  nested : found.ifToEnd.Nested
  innermost (a x : Nat) : found.ifToElse.target? a = some x →
    ∀ b stop, found.ifToEnd.target? b = some stop → b < x → x < stop → b ≤ a
  starts : (found.ifToEnd.map (·.1) ++ found.issues.filterMap StructuralIssue.unclosedIf?).Perm (ifStarts steps)
  ends : (found.ifToEnd.map (·.2) ++ found.issues.filterMap StructuralIssue.unmatchedIfEnd?).Perm (ifEnds steps)
  told : found.TellsElses (ifStarts steps) (elses steps)

/-- **The conditionals of every step list are paired exactly.** -/
theorem exact_findIfPairs (steps : List Step) : (findIfPairs steps).Exact steps := by
  have hagrees := scanIfs_agrees 0 [] steps
  have htold : (scanIfs 0 [] steps).TellsElses (ifStarts steps) (elses steps) := scanIfs_tellsElses .nil
  have hstarts := scanIfs_starts 0 [] steps
  have hends := scanIfs_ends 0 [] steps
  have hsorted : (findIfPairs steps).ifToEnd.Perm (scanIfs 0 [] steps).ifToEnd := sortBy_perm _ _
  have hifEnd : (scanIfs 0 [] steps).ifToEnd.Functional :=
    Jumps.functional_of_nodup (List.nodup_append.1 (hstarts.nodup_iff.2 (locates_ifAt?.rising.imp Nat.ne_of_lt))).1
  have hendIf : (scanIfs 0 [] steps).ifToEnd.Injective :=
    Jumps.injective_of_nodup (List.nodup_append.1 (hends.nodup_iff.2 (locates_ifEndAt?.rising.imp Nat.ne_of_lt))).1
  have hifElse : (scanIfs 0 [] steps).ifToElse.Functional := fun a x y hx hy =>
    (htold.recorded a x hx).unique (htold.recorded a y hy)
  have helseIf : (scanIfs 0 [] steps).ifToElse.Injective := fun a b x ha hb =>
    (htold.recorded a x ha).innermost.unique (htold.recorded b x hb).innermost
  have helseEnd : (scanIfs 0 [] steps).elseToEnd.Functional := by
    intro x stop last hstop hlast
    obtain ⟨a, hax, ha⟩ := hagrees.elseStart x stop hstop
    obtain ⟨b, hbx, hb⟩ := hagrees.elseStart x last hlast
    exact hifEnd a stop last ha (helseIf b a x hbx hax ▸ hb)
  constructor
  · intro a x hx
    have hx := hifElse.target?_sorted.1 hx
    obtain ⟨stop, hend, helse⟩ := hagrees.elseEnd a x hx
    have hfirst := (htold.recorded a x hx).innermost
    exact ⟨stop, hifEnd.target?_sorted.2 hend, hfirst.before, hfirst.free stop hend, helseEnd.target?_sorted.2 helse⟩
  · intro x stop hstop
    obtain ⟨a, hax, -⟩ := hagrees.elseStart x stop (helseEnd.target?_sorted.1 hstop)
    exact ⟨a, hifElse.target?_sorted.2 hax⟩
  · exact fun a b x ha hb => helseIf a b x (hifElse.target?_sorted.1 ha) (hifElse.target?_sorted.1 hb)
  · exact fun a b stop ha hb => hendIf a b stop (hifEnd.target?_sorted.1 ha) (hifEnd.target?_sorted.1 hb)
  · intro x y stop hx hy
    obtain ⟨a, hax, ha⟩ := hagrees.elseStart x stop (helseEnd.target?_sorted.1 hx)
    obtain ⟨b, hby, hb⟩ := hagrees.elseStart y stop (helseEnd.target?_sorted.1 hy)
    exact hifElse a x y hax (hendIf b a stop hb ha ▸ hby)
  · exact Jumps.nested_sorted.2 (scanIfs_nested .nil)
  · intro a x hx b stop hstop hbx hxstop
    have hfirst := (htold.recorded a x (hifElse.target?_sorted.1 hx)).innermost
    have hb := hifEnd.target?_sorted.1 hstop
    have hmem : b ∈ ifStarts steps :=
      hstarts.mem_iff.1 (List.mem_append_left _ (List.mem_map.2 ⟨_, hb, rfl⟩))
    -- a block that starts later would end before the else
    refine Nat.le_of_not_lt fun hab => ?_
    obtain ⟨last, hlast, hlt⟩ := hfirst.inner b hmem hab hbx
    exact Nat.lt_asymm hxstop (hifEnd b last stop hlast hb ▸ hlt)
  · exact ((hsorted.map _).append_right _).trans hstarts
  · exact ((hsorted.map _).append_right _).trans hends
  · exact htold.congr (fun _ => Jumps.mem_sorted.symm) (fun _ => Jumps.mem_sorted.symm) rfl (fun _ => Iff.rfl)
      fun _ => Iff.rfl

end FormReplay
