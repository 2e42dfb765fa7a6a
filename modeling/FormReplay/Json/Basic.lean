import FormReplay.Decimal.Binary64
/-!
# JSON values

The values of workflow documents, data rows and reports.  A number written without point and
exponent that fits 64 bits is a whole number; any other is a double.

The fields of an object are a list of pairs; the first field of a name counts.  `putField` keeps
such a list sorted by name with each name once, and whatever is read from text is built by it.
-/
namespace FormReplay

inductive Json where
  | null
  | bool (b : Bool)
  | int (n : Int)
  | real (x : Binary64)
  | str (s : String)
  | arr (items : List Json)
  | obj (fields : List (String × Json))
  deriving Repr, Inhabited

def field? {β : Type} (name : String) : List (String × β) → Option β
  | [] => none
  | (k, v) :: rest => if k = name then some v else field? name rest

def putField {β : Type} (name : String) (v : β) : List (String × β) → List (String × β)
  | [] => [(name, v)]
  | (k, w) :: rest =>
    if name < k then (name, v) :: (k, w) :: rest
    else if name = k then (name, v) :: rest
    else (k, w) :: putField name v rest

/-- The fields sorted by name, the last of each name. -/
def sortFields {β : Type} (fields : List (String × β)) : List (String × β) :=
  fields.foldl (fun done (k, v) => putField k v done) []

theorem field?_putField {β : Type} (name : String) (v : β) (fields : List (String × β)) (key : String) :
    field? key (putField name v fields) = if name = key then some v else field? key fields := by
  induction fields with
  | nil => simp [putField, field?]
  | cons p rest ih =>
    obtain ⟨k, w⟩ := p
    unfold putField
    by_cases hlt : name < k
    · simp [hlt, field?]
    · by_cases heq : name = k
      · subst heq
        simp only [hlt, if_false, if_true, field?]
        split <;> rfl
      · simp only [hlt, heq, if_false, field?, ih]
        by_cases hk : k = key
        · subst hk; simp [heq]
        · simp [hk]

def SortedFields {β : Type} (fields : List (String × β)) : Prop :=
  fields.Pairwise fun a b => a.1 < b.1

theorem mem_putField {β : Type} {name : String} {v : β} {fields : List (String × β)} {p : String × β}
    (h : p ∈ putField name v fields) : p = (name, v) ∨ p ∈ fields := by
  induction fields with
  | nil => left; simpa [putField] using h
  | cons q rest ih =>
    obtain ⟨k, w⟩ := q
    unfold putField at h
    by_cases hlt : name < k
    · simp only [hlt, if_true, List.mem_cons] at h
      rcases h with h | h | h
      · exact .inl h
      · exact .inr (by simp [h])
      · exact .inr (by simp [h])
    · by_cases heq : name = k
      · subst heq
        simp only [hlt, if_false, if_true, List.mem_cons] at h
        rcases h with h | h
        · exact .inl h
        · exact .inr (by simp [h])
      · simp only [hlt, heq, if_false, List.mem_cons] at h
        rcases h with h | h
        · exact .inr (by simp [h])
        · rcases ih h with h | h
          · exact .inl h
          · exact .inr (by simp [h])

theorem sorted_putField {β : Type} (name : String) (v : β) {fields : List (String × β)}
    (h : SortedFields fields) : SortedFields (putField name v fields) := by
  induction fields with
  | nil => simp [putField, SortedFields]
  | cons q rest ih =>
    obtain ⟨k, w⟩ := q
    obtain ⟨hk, hrest⟩ := List.pairwise_cons.1 h
    unfold putField
    by_cases hlt : name < k
    · simp only [hlt, if_true]
      refine List.pairwise_cons.2 ⟨fun p hp => ?_, h⟩
      rcases List.mem_cons.1 hp with rfl | hp
      · exact hlt
      · exact String.lt_trans hlt (hk p hp)
    · by_cases heq : name = k
      · subst heq
        simp only [hlt, if_false, if_true]
        exact List.pairwise_cons.2 ⟨hk, hrest⟩
      · simp only [hlt, heq, if_false]
        refine List.pairwise_cons.2 ⟨fun p hp => ?_, ih hrest⟩
        rcases mem_putField hp with rfl | hp
        · exact Std.lt_of_le_of_ne (Std.not_lt.1 hlt) (Ne.symm heq)
        · exact hk p hp

end FormReplay
