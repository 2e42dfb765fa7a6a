import FormReplay.Proofs.Block.Basic
import FormReplay.Proofs.Structure.Tables
/-!
# The analysis of a block laid flat

Every scan runs through a block and leaves its stack as it was: it finds the jumps of the block, in some order,
and no issue.  Sorted, they are the tables of the block (`analyze_flatten`).
-/
namespace FormReplay

/-! ## Rising jumps -/

namespace Jumps

structure RiseIn (jumps : Jumps) (lo hi : Nat) : Prop where
  rise : jumps.Pairwise fun p q => p.1 < q.1
  range : ∀ p ∈ jumps, lo ≤ p.1 ∧ p.1 < hi

theorem RiseIn.nil {lo hi : Nat} : RiseIn [] lo hi := ⟨.nil, nofun⟩

theorem RiseIn.mono {jumps : Jumps} {lo hi lo' hi' : Nat} (h : jumps.RiseIn lo hi) (hlo : lo' ≤ lo) (hhi : hi ≤ hi') :
    jumps.RiseIn lo' hi' := by
  refine ⟨h.rise, fun p hp => ?_⟩
  have := h.range p hp
  omega

theorem RiseIn.append {x y : Jumps} {lo mid mid' hi : Nat} (hx : x.RiseIn lo mid) (hy : y.RiseIn mid' hi)
    (hmid : mid ≤ mid') (hlo : lo ≤ mid') (hhi : mid ≤ hi) : (x ++ y).RiseIn lo hi := by
  refine ⟨List.pairwise_append.2 ⟨hx.rise, hy.rise, fun p hp q hq => ?_⟩, fun p hp => ?_⟩
  · have := hx.range p hp
    have := hy.range q hq
    omega
  · rcases List.mem_append.1 hp with hp | hp
    · exact (hx.mono (Nat.le_refl lo) hhi).range p hp
    · exact (hy.mono hlo (Nat.le_refl hi)).range p hp

/-- Jumps found in whatever order are sorted into the rising ones. -/
theorem RiseIn.sorted_eq {found jumps : Jumps} {lo hi : Nat} (h : jumps.RiseIn lo hi) (hperm : found.Perm jumps) :
    found.sorted = jumps := by
  have hsorted : found.sorted.Perm jumps := (sortBy_perm _ found).trans hperm
  have hrise : jumps.Pairwise fun p q => p.1 ≤ q.1 := h.rise.imp Nat.le_of_lt
  refine List.Perm.eq_of_pairwise (fun p q hp hq hle hge => ?_) (sorted_sortBy _ found) hrise hsorted
  -- Two jumps of one start: the starts of the rising ones differ.
  obtain ⟨n, hn, rfl⟩ := List.getElem_of_mem (hsorted.subset hp)
  obtain ⟨m, hm, rfl⟩ := List.getElem_of_mem hq
  have hlt := List.pairwise_iff_getElem.1 h.rise
  rcases Nat.lt_trichotomy n m with hnm | rfl | hmn
  · exact absurd (hlt n m hn hm hnm) (by omega)
  · rfl
  · exact absurd (hlt m n hm hn hmn) (by omega)

end Jumps

namespace Block

theorem pick_riseIn (link own : Link) (start stop : Nat) : (pick link own start stop).RiseIn start (start + 1) := by
  unfold pick
  split
  · exact ⟨List.pairwise_singleton _ _, List.forall_mem_singleton.2 ⟨Nat.le_refl _, Nat.lt_succ_self _⟩⟩
  · exact .nil

theorem pick_append_riseIn (link : Link) (start middle stop : Nat) :
    (pick link .ifToElse start middle ++ pick link .ifToEnd start stop).RiseIn start (start + 1) := by
  cases link with
  | ifToElse => exact pick_riseIn .ifToElse .ifToElse start middle
  | ifToEnd  => exact pick_riseIn .ifToEnd .ifToEnd start stop
  | _        => exact .nil

theorem enclosed_riseIn (link own : Link) {body rest : Block} {i : Nat}
    (hbody : (body.jumps link (i + 1)).RiseIn (i + 1) (i + 1 + body.size))
    (hrest : (rest.jumps link (i + body.size + 2)).RiseIn (i + body.size + 2) (i + body.size + 2 + rest.size)) :
    (pick link own i (i + body.size + 1) ++ body.jumps link (i + 1) ++ rest.jumps link (i + body.size + 2)).RiseIn i
      (i + (body.size + rest.size + 2)) := by
  have hstart := (pick_riseIn link own i (i + body.size + 1)).append hbody (by omega) (by omega) (by omega)
  exact (hstart.append hrest (by omega) (by omega) (by omega)).mono (Nat.le_refl i) (by omega)

theorem jumps_riseIn (link : Link) (b : Block) (i : Nat) : (b.jumps link i).RiseIn i (i + b.size) := by
  induction b generalizing i with
  | done => exact .nil
  | action _ _ _ _ ih | label _ _ _ ih | leap _ _ _ ih =>
    exact (ih (i + 1)).mono (by omega) (by simp only [size]; omega)
  | ifThen _ _ _ body rest ihBody ihRest => exact enclosed_riseIn link .ifToEnd (ihBody _) (ihRest _)
  | loop _ _ _ _ body rest ihBody ihRest => exact enclosed_riseIn link .loopToEnd (ihBody _) (ihRest _)
  | ifElse _ _ _ _ body other rest ihBody ihOther ihRest =>
    let middle := i + body.size + 1
    let stop := middle + other.size + 1
    have hstart := (pick_append_riseIn link i middle stop).append (ihBody (i + 1)) (by omega) (by omega) (by omega)
    have hmiddle := hstart.append (pick_riseIn link .elseToEnd middle stop) (by omega) (by omega) (by omega)
    have hother := hmiddle.append (ihOther (middle + 1)) (by omega) (by omega) (by omega)
    refine (hother.append (ihRest (stop + 1)) (by omega) (by omega) (by omega)).mono (Nat.le_refl i) ?_
    simp only [size]
    omega

end Block

/-! ## Scans -/

namespace Block

/-- The jumps of one kind in the order in which a scan finds them: each construct as it ends. -/
def ends (link : Link) (i : Nat) : Block → Jumps
  | done => []
  | action _ _ _ rest | label _ _ rest | leap _ _ rest => rest.ends link (i + 1)
  | ifThen _ _ _ body rest =>
    let stop := i + body.size + 1
    body.ends link (i + 1) ++ pick link .ifToEnd i stop ++ rest.ends link (stop + 1)
  | ifElse _ _ _ _ body other rest =>
    let middle := i + body.size + 1
    let stop := middle + other.size + 1
    body.ends link (i + 1) ++ other.ends link (middle + 1) ++ pick link .ifToElse i middle ++ pick link .ifToEnd i stop ++
      pick link .elseToEnd middle stop ++ rest.ends link (stop + 1)
  | loop _ _ _ _ body rest =>
    let stop := i + body.size + 1
    body.ends link (i + 1) ++ pick link .loopToEnd i stop ++ rest.ends link (stop + 1)

theorem ends_perm (link : Link) (b : Block) (i : Nat) : (b.ends link i).Perm (b.jumps link i) := by
  induction b generalizing i with
  | done => exact .refl _
  | action _ _ _ _ ih | label _ _ _ ih | leap _ _ _ ih => exact ih (i + 1)
  | ifThen _ _ _ _ _ ihBody ihRest | loop _ _ _ _ _ _ ihBody ihRest =>
    exact (List.perm_append_comm.trans ((ihBody _).append_left _)).append (ihRest _)
  | ifElse _ _ _ _ _ _ _ ihBody ihOther ihRest =>
    refine List.perm_iff_count.2 fun p => ?_
    simp only [ends, jumps, List.count_append, (ihBody _).count_eq, (ihOther _).count_eq, (ihRest _).count_eq]
    omega

theorem sorted_ends (link : Link) (b : Block) (i : Nat) : (b.ends link i).sorted = b.jumps link i :=
  (jumps_riseIn link b i).sorted_eq (ends_perm link b i)

end Block

def LoopPairs.more (found : Jumps) (r : LoopPairs) : LoopPairs := { r with pairs := found ++ r.pairs }

def IfPairs.more (found : Link → Jumps) (r : IfPairs) : IfPairs where
  ifToElse  := found .ifToElse ++ r.ifToElse
  ifToEnd   := found .ifToEnd ++ r.ifToEnd
  elseToEnd := found .elseToEnd ++ r.elseToEnd
  issues    := r.issues

@[simp] theorem LoopPairs.more_more (x y : Jumps) (r : LoopPairs) : (r.more y).more x = r.more (x ++ y) := by
  rw [more, more, more, List.append_assoc]

@[simp] theorem IfPairs.more_more (x y : Link → Jumps) (r : IfPairs) :
    (r.more y).more x = r.more fun link => x link ++ y link := by
  simp only [more, List.append_assoc]

namespace Block

theorem flatten_ifThen_append (m stop : Mark) (c : Condition) (body rest : Block) (tail : List Step) :
    (ifThen m stop c body rest).flatten ++ tail =
      m.step (.ifStart c) :: (body.flatten ++ stop.step .ifEnd :: (rest.flatten ++ tail)) := by
  simp [flatten]

theorem flatten_ifElse_append (m middle stop : Mark) (c : Condition) (body other rest : Block) (tail : List Step) :
    (ifElse m middle stop c body other rest).flatten ++ tail =
      m.step (.ifStart c) :: (body.flatten ++ middle.step .otherwise ::
        (other.flatten ++ stop.step .ifEnd :: (rest.flatten ++ tail))) := by
  simp [flatten]

theorem flatten_loop_append (m stop : Mark) (spec : LoopSpec) (named : Bool) (body rest : Block) (tail : List Step) :
    (loop m stop spec named body rest).flatten ++ tail =
      m.step (.loopStart spec) :: (body.flatten ++
        stop.step (.loopEnd (if named then spec.id else none)) :: (rest.flatten ++ tail)) := by
  simp [flatten]

theorem closeLoop_own (spec : LoopSpec) (named : Bool) (i : Nat) (stack : List OpenLoop) :
    closeLoop (if named then spec.id else none) (⟨i, spec.id⟩ :: stack) = some (⟨i, spec.id⟩, stack) := by
  cases named with
  | false => exact if_pos (.inl rfl)
  | true  => exact if_pos (.inr rfl)

theorem scanLoops_loopEnd (i : Nat) (stack : List OpenLoop) (stop : Mark) (loopRef : Option String) (o : OpenLoop)
    (rest : List OpenLoop) (steps : List Step) (h : closeLoop loopRef stack = some (o, rest)) :
    scanLoops i stack (stop.step (.loopEnd loopRef) :: steps) = (scanLoops (i + 1) rest steps).more [(o.index, i)] := by
  simp [scanLoops, Mark.step, h, LoopPairs.more]

theorem scanLoops_flatten (b : Block) (i : Nat) (stack : List OpenLoop) (tail : List Step) :
    scanLoops i stack (b.flatten ++ tail) = (scanLoops (i + b.size) stack tail).more (b.ends .loopToEnd i) := by
  induction b generalizing i stack tail with
  | done => rfl
  | action m kind spec rest ih | label m name rest ih =>
    have hend : i + 1 + rest.size = i + (rest.size + 1) := by omega
    have hrest := ih (i + 1) stack tail
    rw [hend] at hrest
    exact hrest
  | leap m way rest ih =>
    have hend : i + 1 + rest.size = i + (rest.size + 1) := by omega
    have hrest := ih (i + 1) stack tail
    rw [hend] at hrest
    cases way <;> exact hrest
  | ifThen m stop c body rest ihBody ihRest =>
    have hstop : i + 1 + body.size = i + body.size + 1 := by omega
    have hend : i + body.size + 2 + rest.size = i + (body.size + rest.size + 2) := by omega
    calc scanLoops i stack ((ifThen m stop c body rest).flatten ++ tail)
        = scanLoops (i + 1) stack (body.flatten ++ stop.step .ifEnd :: (rest.flatten ++ tail)) := by
          rw [flatten_ifThen_append]
          rfl
      _ = (scanLoops (i + body.size + 2) stack (rest.flatten ++ tail)).more (body.ends .loopToEnd (i + 1)) := by
          rw [ihBody, hstop]
          rfl
      _ = _ := by
          rw [ihRest, LoopPairs.more_more, hend]
          simp [ends, pick, size]
  | ifElse m middle stop c body other rest ihBody ihOther ihRest =>
    have hmiddle : i + 1 + body.size = i + body.size + 1 := by omega
    have hstop : i + body.size + 2 + other.size = i + body.size + 1 + other.size + 1 := by omega
    have hend : i + body.size + 1 + other.size + 2 + rest.size = i + (body.size + other.size + rest.size + 3) := by omega
    calc scanLoops i stack ((ifElse m middle stop c body other rest).flatten ++ tail)
        = scanLoops (i + 1) stack (body.flatten ++ middle.step .otherwise ::
            (other.flatten ++ stop.step .ifEnd :: (rest.flatten ++ tail))) := by
          rw [flatten_ifElse_append]
          rfl
      _ = (scanLoops (i + body.size + 2) stack (other.flatten ++ stop.step .ifEnd :: (rest.flatten ++ tail))).more
            (body.ends .loopToEnd (i + 1)) := by
          rw [ihBody, hmiddle]
          rfl
      _ = ((scanLoops (i + body.size + 1 + other.size + 2) stack (rest.flatten ++ tail)).more
            (other.ends .loopToEnd (i + body.size + 2))).more (body.ends .loopToEnd (i + 1)) := by
          rw [ihOther, hstop]
          rfl
      _ = _ := by
          rw [ihRest, LoopPairs.more_more, LoopPairs.more_more, hend]
          simp [ends, pick, size]
  | loop m stop spec named body rest ihBody ihRest =>
    have hstop : i + 1 + body.size = i + body.size + 1 := by omega
    have hend : i + body.size + 2 + rest.size = i + (body.size + rest.size + 2) := by omega
    calc scanLoops i stack ((loop m stop spec named body rest).flatten ++ tail)
        = scanLoops (i + 1) (⟨i, spec.id⟩ :: stack) (body.flatten ++
            stop.step (.loopEnd (if named then spec.id else none)) :: (rest.flatten ++ tail)) := by
          rw [flatten_loop_append]
          rfl
      _ = ((scanLoops (i + body.size + 2) stack (rest.flatten ++ tail)).more [(i, i + body.size + 1)]).more
            (body.ends .loopToEnd (i + 1)) := by
          rw [ihBody, hstop, scanLoops_loopEnd _ _ _ _ _ _ _ (closeLoop_own spec named i stack)]
      _ = _ := by
          rw [ihRest, LoopPairs.more_more, LoopPairs.more_more, hend]
          simp [ends, pick, size]

theorem scanIfs_flatten (b : Block) (i : Nat) (stack : List OpenIf) (tail : List Step) :
    scanIfs i stack (b.flatten ++ tail) = (scanIfs (i + b.size) stack tail).more fun link => b.ends link i := by
  induction b generalizing i stack tail with
  | done => rfl
  | action m kind spec rest ih | label m name rest ih =>
    have hend : i + 1 + rest.size = i + (rest.size + 1) := by omega
    have hrest := ih (i + 1) stack tail
    rw [hend] at hrest
    exact hrest
  | leap m way rest ih =>
    have hend : i + 1 + rest.size = i + (rest.size + 1) := by omega
    have hrest := ih (i + 1) stack tail
    rw [hend] at hrest
    cases way <;> exact hrest
  | ifThen m stop c body rest ihBody ihRest =>
    have hstop : i + 1 + body.size = i + body.size + 1 := by omega
    have hend : i + body.size + 2 + rest.size = i + (body.size + rest.size + 2) := by omega
    calc scanIfs i stack ((ifThen m stop c body rest).flatten ++ tail)
        = scanIfs (i + 1) (⟨i, none⟩ :: stack) (body.flatten ++ stop.step .ifEnd :: (rest.flatten ++ tail)) := by
          rw [flatten_ifThen_append]
          rfl
      _ = ((scanIfs (i + body.size + 2) stack (rest.flatten ++ tail)).more
            fun link => pick link .ifToEnd i (i + body.size + 1)).more fun link => body.ends link (i + 1) := by
          rw [ihBody, hstop]
          rfl
      _ = _ := by
          rw [ihRest, IfPairs.more_more, IfPairs.more_more, hend]
          simp [ends, size]
  | ifElse m middle stop c body other rest ihBody ihOther ihRest =>
    have hmiddle : i + 1 + body.size = i + body.size + 1 := by omega
    have hstop : i + body.size + 2 + other.size = i + body.size + 1 + other.size + 1 := by omega
    have hend : i + body.size + 1 + other.size + 2 + rest.size = i + (body.size + other.size + rest.size + 3) := by omega
    calc scanIfs i stack ((ifElse m middle stop c body other rest).flatten ++ tail)
        = scanIfs (i + 1) (⟨i, none⟩ :: stack) (body.flatten ++ middle.step .otherwise ::
            (other.flatten ++ stop.step .ifEnd :: (rest.flatten ++ tail))) := by
          rw [flatten_ifElse_append]
          rfl
      _ = (scanIfs (i + body.size + 2) (⟨i, some (i + body.size + 1)⟩ :: stack)
            (other.flatten ++ stop.step .ifEnd :: (rest.flatten ++ tail))).more fun link => body.ends link (i + 1) := by
          rw [ihBody, hmiddle]
          rfl
      _ = (((scanIfs (i + body.size + 1 + other.size + 2) stack (rest.flatten ++ tail)).more fun link =>
            pick link .ifToElse i (i + body.size + 1) ++ pick link .ifToEnd i (i + body.size + 1 + other.size + 1) ++
              pick link .elseToEnd (i + body.size + 1) (i + body.size + 1 + other.size + 1)).more
            fun link => other.ends link (i + body.size + 2)).more fun link => body.ends link (i + 1) := by
          rw [ihOther, hstop]
          rfl
      _ = _ := by
          rw [ihRest, IfPairs.more_more, IfPairs.more_more, IfPairs.more_more, hend]
          simp [ends, size]
  | loop m stop spec named body rest ihBody ihRest =>
    have hstop : i + 1 + body.size = i + body.size + 1 := by omega
    have hend : i + body.size + 2 + rest.size = i + (body.size + rest.size + 2) := by omega
    calc scanIfs i stack ((loop m stop spec named body rest).flatten ++ tail)
        = scanIfs (i + 1) stack (body.flatten ++
            stop.step (.loopEnd (if named then spec.id else none)) :: (rest.flatten ++ tail)) := by
          rw [flatten_loop_append]
          rfl
      _ = (scanIfs (i + body.size + 2) stack (rest.flatten ++ tail)).more fun link => body.ends link (i + 1) := by
          rw [ihBody, hstop]
          rfl
      _ = _ := by
          rw [ihRest, IfPairs.more_more, hend]
          simp [IfPairs.more, ends, pick, size]

end Block

/-! ## Labels, gotos and policies -/

theorem scanLabels_eq (i : Nat) (known : Labels) (steps : List Step)
    (h : ((known ++ labelsFrom i steps).map (·.1)).Nodup) : scanLabels i known steps = (known ++ labelsFrom i steps, []) := by
  induction steps generalizing i known with
  | nil => simp [scanLabels, labelsFrom]
  | cons s rest ih =>
    rw [labelsFrom] at h ⊢
    rw [scanLabels]
    cases hkind : s.kind with
    | label name =>
      simp only [hkind] at h ⊢
      have hnew : field? name known = none := by
        cases hfound : field? name known with
        | none   => rfl
        | some j =>
          have hmem : name ∈ known.map (·.1) := List.mem_map.2 ⟨_, mem_of_field? hfound, rfl⟩
          rw [List.map_append, List.nodup_append] at h
          exact absurd rfl (h.2.2 name hmem name (.head _))
      rw [List.append_cons known (name, i) (labelsFrom (i + 1) rest)] at h ⊢
      rw [hnew]
      exact ih (i + 1) (known ++ [(name, i)]) h
    | _ =>
      simp only [hkind] at h ⊢
      exact ih (i + 1) known h

namespace Block

theorem kind_ne_goto {b : Block} {s : Step} (h : s ∈ b.flatten) (label : String) : s.kind ≠ .goto label := by
  intro hkind
  induction b with
  | done => cases h
  | action m kind spec rest ih | label m name rest ih =>
    rcases List.mem_cons.1 h with rfl | h
    · cases hkind
    · exact ih h
  | leap m way rest ih =>
    rcases List.mem_cons.1 h with rfl | h
    · cases way <;> cases hkind
    · exact ih h
  | ifThen m stop c body rest ihBody ihRest =>
    simp only [flatten, List.mem_append, List.mem_cons] at h
    rcases h with rfl | h | rfl | h
    · cases hkind
    · exact ihBody h
    · cases hkind
    · exact ihRest h
  | ifElse m middle stop c body other rest ihBody ihOther ihRest =>
    simp only [flatten, List.mem_append, List.mem_cons] at h
    rcases h with rfl | h | rfl | h | rfl | h
    · cases hkind
    · exact ihBody h
    · cases hkind
    · exact ihOther h
    · cases hkind
    · exact ihRest h
  | loop m stop spec named body rest ihBody ihRest =>
    simp only [flatten, List.mem_append, List.mem_cons] at h
    rcases h with rfl | h | rfl | h
    · cases hkind
    · exact ihBody h
    · cases hkind
    · exact ihRest h

theorem gotoIssues_flatten (b : Block) (labels : Labels) : gotoIssues labels b.flatten = [] := by
  refine List.filterMap_eq_nil_iff.2 fun (s, i) hs => ?_
  have hmem : s ∈ b.flatten := List.mem_of_getElem? (List.mem_zipIdx_iff_getElem?.1 hs)
  dsimp only
  split
  · exact absurd ‹_› (kind_ne_goto hmem _)
  · rfl

end Block

/-- No ordinary step of a workflow goes anywhere when it fails. -/
def Workflow.StaysOnError (w : Workflow) : Prop :=
  ∀ step ∈ w.steps, step.isAction = true → (w.effectivePolicy step).mode ≠ .goto

theorem policyIssues_eq_nil {w : Workflow} (h : w.StaysOnError) (labels : Labels) : policyIssues w labels = [] := by
  refine List.filterMap_eq_nil_iff.2 fun (s, i) hs => ?_
  have hmem : s ∈ w.steps := List.mem_of_getElem? (List.mem_zipIdx_iff_getElem?.1 hs)
  dsimp only
  split
  · rename_i hissue
    simp only [Bool.and_eq_true, beq_iff_eq] at hissue
    exact absurd hissue.1.2 (h s hmem hissue.1.1)
  · rfl

/-! ## The whole analysis -/

/-- **A block laid flat is paired as it was built**, each construct with its own else and its own end, and no issue
is found. -/
theorem analyze_flatten {w : Workflow} {b : Block} (hsteps : w.steps = b.flatten)
    (hlabels : ((labelsFrom 0 w.steps).map (·.1)).Nodup) (hpolicies : w.StaysOnError) : w.analyze = (b.tables, []) := by
  have hscanLoops : scanLoops 0 [] b.flatten = ⟨b.ends .loopToEnd 0, []⟩ := by
    have := b.scanLoops_flatten 0 [] []
    rw [List.append_nil] at this
    rw [this]
    simp [LoopPairs.more, scanLoops]
  have hscanIfs : scanIfs 0 [] b.flatten = ⟨b.ends .ifToElse 0, b.ends .ifToEnd 0, b.ends .elseToEnd 0, []⟩ := by
    have := b.scanIfs_flatten 0 [] []
    rw [List.append_nil] at this
    rw [this]
    simp [IfPairs.more, scanIfs]
  have hscanLabels : scanLabels 0 [] b.flatten = (labelsFrom 0 b.flatten, []) := scanLabels_eq 0 [] _ (hsteps ▸ hlabels)
  simp only [Workflow.analyze, analyzeSteps, findLoopPairs, findIfPairs, findLabels, hsteps, hscanLoops, hscanIfs,
    hscanLabels, Block.gotoIssues_flatten, policyIssues_eq_nil hpolicies, Block.sorted_ends, Block.tables, List.append_nil]

end FormReplay
