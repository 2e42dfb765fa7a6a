/-!
# Sorting by a key

A stable sort: the items by rising key, those of one key in the order they were given.
-/
namespace FormReplay

variable {α : Type}

/-- Puts an item before the first one whose key is not less. -/
def insertBy (key : α → Nat) (a : α) : List α → List α
  | [] => [a]
  | b :: rest => if key a ≤ key b then a :: b :: rest else b :: insertBy key a rest

def sortBy (key : α → Nat) : List α → List α
  | [] => []
  | a :: rest => insertBy key a (sortBy key rest)

theorem insertBy_perm (key : α → Nat) (a : α) (l : List α) : (insertBy key a l).Perm (a :: l) := by
  induction l with
  | nil => exact .refl _
  | cons b rest ih =>
    unfold insertBy
    split
    · exact .refl _
    · exact (ih.cons b).trans (.swap a b rest)

theorem sortBy_perm (key : α → Nat) (l : List α) : (sortBy key l).Perm l := by
  induction l with
  | nil => exact .refl _
  | cons a rest ih => exact (insertBy_perm key a _).trans (ih.cons a)

theorem mem_sortBy {key : α → Nat} {l : List α} {a : α} : a ∈ sortBy key l ↔ a ∈ l :=
  (sortBy_perm key l).mem_iff

theorem sorted_insertBy (key : α → Nat) (a : α) {l : List α}
    (h : l.Pairwise fun b c => key b ≤ key c) :
    (insertBy key a l).Pairwise fun b c => key b ≤ key c := by
  induction l with
  | nil => simp [insertBy]
  | cons b rest ih =>
    obtain ⟨hb, hrest⟩ := List.pairwise_cons.1 h
    unfold insertBy
    split
    · rename_i hle
      refine List.pairwise_cons.2 ⟨fun c hc => ?_, h⟩
      rcases List.mem_cons.1 hc with rfl | hc
      · exact hle
      · exact Nat.le_trans hle (hb c hc)
    · rename_i hle
      refine List.pairwise_cons.2 ⟨fun c hc => ?_, ih hrest⟩
      rcases List.mem_cons.1 ((insertBy_perm key a rest).mem_iff.1 hc) with rfl | hc
      · omega
      · exact hb c hc

theorem sorted_sortBy (key : α → Nat) (l : List α) :
    (sortBy key l).Pairwise fun b c => key b ≤ key c := by
  induction l with
  | nil => exact .nil
  | cons a rest ih => exact sorted_insertBy key a ih

end FormReplay
