import FormReplay.Proofs.Structure.Tables
/-!
# Markers and jumps

The steps of one kind in a step list, each with its index, and jumps that do not cross.
-/
namespace FormReplay

/-! ## Steps of a kind -/

section Gather

variable {α : Type}

def gather (read : Nat → StepKind → Option α) (i : Nat) (steps : List Step) : List α :=
  (steps.zipIdx i).filterMap fun (s, k) => read k s.kind

variable {read : Nat → StepKind → Option α} {i : Nat} {s : Step} {steps : List Step} {a : α}

@[simp] theorem gather_nil : gather read i [] = [] := rfl

theorem gather_some (h : read i s.kind = some a) : gather read i (s :: steps) = a :: gather read (i + 1) steps := by
  simp [gather, List.zipIdx_cons, h]

theorem gather_none (h : read i s.kind = none) : gather read i (s :: steps) = gather read (i + 1) steps := by
  simp [gather, List.zipIdx_cons, h]

theorem mem_gather : a ∈ gather read i steps ↔ ∃ k step, steps[k]? = some step ∧ read (i + k) step.kind = some a := by
  rw [gather, List.mem_filterMap]
  constructor
  · rintro ⟨⟨step, k⟩, hmem, hread⟩
    obtain ⟨hle, hk⟩ := List.mk_mem_zipIdx_iff_le_and_getElem?_sub.1 hmem
    exact ⟨k - i, step, hk, by rwa [Nat.add_sub_cancel' hle]⟩
  · rintro ⟨k, step, hk, hread⟩
    refine ⟨(step, i + k), List.mk_mem_zipIdx_iff_le_and_getElem?_sub.2 ⟨Nat.le_add_right i k, ?_⟩, hread⟩
    rwa [Nat.add_sub_cancel_left]

def Locates (read : Nat → StepKind → Option α) (index : α → Nat) : Prop := ∀ i kind a, read i kind = some a → index a = i

variable {index : α → Nat} (hread : Locates read index)
include hread

theorem Locates.le_index (ha : a ∈ gather read i steps) : i ≤ index a := by
  obtain ⟨k, step, -, hk⟩ := mem_gather.1 ha
  rw [hread _ _ a hk]
  exact Nat.le_add_right i k

theorem Locates.rising : (gather read i steps).Pairwise fun a b => index a < index b := by
  induction steps generalizing i with
  | nil => exact .nil
  | cons s steps ih =>
    cases hs : read i s.kind with
    | none => rw [gather_none hs]; exact ih
    | some a =>
      rw [gather_some hs, List.pairwise_cons]
      refine ⟨fun b hb => ?_, ih⟩
      rw [hread i _ a hs]
      exact hread.le_index hb

end Gather

/-! ## Jumps that do not meet or cross -/

theorem eq_of_nodup_map {α β : Type} {f : α → β} {l : List α} (h : (l.map f).Nodup) {a b : α} (ha : a ∈ l) (hb : b ∈ l)
    (heq : f a = f b) : a = b := by
  induction l with
  | nil => cases ha
  | cons c l ih =>
    rw [List.map_cons, List.nodup_cons] at h
    rcases List.mem_cons.1 ha with rfl | ha' <;> rcases List.mem_cons.1 hb with rfl | hb'
    · rfl
    · exact absurd (heq ▸ List.mem_map_of_mem hb') h.1
    · exact absurd (heq ▸ List.mem_map_of_mem ha') h.1
    · exact ih h.2 ha' hb'

namespace Jumps

def Functional (jumps : Jumps) : Prop := ∀ a x y, (a, x) ∈ jumps → (a, y) ∈ jumps → x = y

def Injective (jumps : Jumps) : Prop := ∀ a b x, (a, x) ∈ jumps → (b, x) ∈ jumps → a = b

theorem functional_of_nodup {jumps : Jumps} (h : (jumps.map (·.1)).Nodup) : jumps.Functional :=
  fun _ _ _ hx hy => congrArg Prod.snd (eq_of_nodup_map h hx hy rfl)

theorem injective_of_nodup {jumps : Jumps} (h : (jumps.map (·.2)).Nodup) : jumps.Injective :=
  fun _ _ _ ha hb => congrArg Prod.fst (eq_of_nodup_map h ha hb rfl)

theorem Functional.target?_sorted {jumps : Jumps} (h : jumps.Functional) {a x : Nat} :
    jumps.sorted.target? a = some x ↔ (a, x) ∈ jumps := by
  constructor
  · exact fun hx => mem_sorted.1 (mem_of_target? hx)
  · intro hx
    obtain ⟨y, hy⟩ := Option.ne_none_iff_exists'.1 (Covers.target? ⟨x, mem_sorted.2 hx⟩)
    rw [hy, h a y x (mem_sorted.1 (mem_of_target? hy)) hx]

/-- Of two jumps that start apart, the later one starts after the earlier one or ends within it. -/
def Nested (jumps : Jumps) : Prop := ∀ p ∈ jumps, ∀ q ∈ jumps, p.1 < q.1 → p.2 < q.1 ∨ q.2 < p.2

theorem Nested.cons {jumps : Jumps} {start stop : Nat} (h : jumps.Nested)
    (hout : ∀ q ∈ jumps, stop < q.2 ∧ (q.1 ≤ start ∨ stop < q.1)) : Nested ((start, stop) :: jumps) := by
  intro p hp q hq hlt
  rcases List.mem_cons.1 hp with rfl | hp <;> rcases List.mem_cons.1 hq with rfl | hq
  · exact absurd hlt (Nat.lt_irrefl _)
  · rcases (hout q hq).2 with hle | hgt
    · exact absurd hlt (Nat.not_lt.2 hle)
    · exact .inl hgt
  · exact .inr (hout p hp).1
  · exact h p hp q hq hlt

theorem nested_sorted {jumps : Jumps} : jumps.sorted.Nested ↔ jumps.Nested := by
  simp only [Nested, mem_sorted]

theorem sorted_rising {jumps : Jumps} (h : (jumps.map (·.1)).Nodup) : jumps.sorted.Pairwise fun p q => p.1 < q.1 := by
  have hnodup : (jumps.sorted.map (·.1)).Nodup := ((sortBy_perm _ jumps).map _).nodup_iff.2 h
  have hne : jumps.sorted.Pairwise fun p q => p.1 ≠ q.1 := List.pairwise_map.1 hnodup
  exact ((sorted_sortBy _ jumps).and hne).imp fun ⟨hle, hne⟩ => Nat.lt_of_le_of_ne hle hne

end Jumps

end FormReplay
