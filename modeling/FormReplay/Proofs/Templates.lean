import FormReplay.Proofs.SavedRules
/-!
# Templates cover variants

Two texts that differ in a run of digits, or in what stands in the first double quotes, have one template.  The passes
over quotes look for quotes and for what opens them, and no digit is among these: of two texts that differ in runs of
digits they make two such texts again (`LooksPast.substituteFrom`).  The pass over tokens then puts the same placeholder
for a token with digits, whichever these are, and ends the difference (`substituteFrom_token`).
-/
namespace FormReplay

/-! ## Replacing from left to right -/

section Substitution

variable {find : Bool → List Char → Option Stretch} {start : Bool} {c : Char} {rest : List Char}

theorem substituteFrom_drop (n : Nat) (cs : List Char) :
    substituteFrom find false n cs = substituteFrom find false 0 (cs.drop n) := by
  induction cs generalizing n with
  | nil => rw [List.drop_nil, substituteFrom, substituteFrom]
  | cons c rest ih =>
    cases n with
    | zero   => rfl
    | succ n => exact ih n

theorem substituteFrom_some {s : Stretch} (h : find start (c :: rest) = some s) :
    substituteFrom find start 0 (c :: rest) = s.value ++ substituteFrom find false 0 (rest.drop s.more) := by
  rw [substituteFrom, h, ← substituteFrom_drop]

theorem substituteFrom_none (h : find start (c :: rest) = none) :
    substituteFrom find start 0 (c :: rest) = c :: substituteFrom find false 0 rest := by
  rw [substituteFrom, h]

theorem substituteFrom_append {kept : List Char} (hkept : kept ≠ [])
    (h : ∀ c ∈ kept, ∀ start rest, find start (c :: rest) = none) (start : Bool) (rest : List Char) :
    substituteFrom find start 0 (kept ++ rest) = kept ++ substituteFrom find false 0 rest := by
  induction kept generalizing start with
  | nil => exact absurd rfl hkept
  | cons c kept ih =>
    rw [List.cons_append, substituteFrom_none (h c (.head _) _ _)]
    by_cases hnil : kept = []
    · rw [hnil]
      rfl
    · rw [ih hnil (fun c hc => h c (.tail _ hc)) false, List.cons_append]

end Substitution

theorem idxOf?_append {q : Char} {d : List Char} (hq : q ∉ d) (l : List Char) :
    (d ++ l).idxOf? q = (l.idxOf? q).map (· + d.length) := by
  have hnone : d.idxOf? q = none := List.idxOf?_eq_none_iff.2 hq
  unfold List.idxOf? at hnone ⊢
  rw [List.findIdx?_append, hnone, Option.none_or]

/-! ## Texts that differ in runs of digits -/

def IsNumber (d : List Char) : Prop := d ≠ [] ∧ ∀ c ∈ d, isDigit c = true

instance : DecidablePred IsNumber := fun d =>
  decidable_of_iff (d.isEmpty = false ∧ d.all isDigit = true) <| by
    rw [IsNumber, List.isEmpty_eq_false_iff, List.all_eq_true]

theorem IsNumber.not_mem {d : List Char} (h : IsNumber d) {q : Char} (hq : isDigit q = false) : q ∉ d :=
  fun hmem => Bool.eq_false_iff.1 hq (h.2 q hmem)

inductive Renumbered : List Char → List Char → Prop
  | nil : Renumbered [] []
  | keep (c : Char) {l l' : List Char} : Renumbered l l' → Renumbered (c :: l) (c :: l')
  | digits {d d' l l' : List Char} : IsNumber d → IsNumber d' → Renumbered l l' → Renumbered (d ++ l) (d' ++ l')

namespace Renumbered

variable {l l' m m' : List Char}

theorem refl (l : List Char) : Renumbered l l := by
  induction l with
  | nil           => exact .nil
  | cons c l ih => exact .keep c ih

theorem append (h : Renumbered l l') (hm : Renumbered m m') : Renumbered (l ++ m) (l' ++ m') := by
  induction h with
  | nil             => exact hm
  | keep c _ ih     => exact .keep c ih
  | digits hd hd' _ ih =>
    rw [List.append_assoc, List.append_assoc]
    exact .digits hd hd' ih

theorem head (h : Renumbered l l') :
    (l = [] ∧ l' = []) ∨ (∃ c r r', l = c :: r ∧ l' = c :: r' ∧ Renumbered r r') ∨
      ∃ c r c' r', l = c :: r ∧ l' = c' :: r' ∧ isDigit c = true ∧ isDigit c' = true := by
  cases h with
  | nil      => exact .inl ⟨rfl, rfl⟩
  | keep c h => exact .inr (.inl ⟨c, _, _, rfl, rfl, h⟩)
  | @digits d d' r r' hd hd' h =>
    obtain ⟨c, d, rfl⟩ := List.exists_cons_of_ne_nil hd.1
    obtain ⟨c', d', rfl⟩ := List.exists_cons_of_ne_nil hd'.1
    exact .inr (.inr ⟨c, d ++ r, c', d' ++ r', rfl, rfl, hd.2 c (.head _), hd'.2 c' (.head _)⟩)

theorem eq_nil (h : Renumbered l []) : l = [] := by
  obtain ⟨rfl, -⟩ | ⟨_, _, _, _, h, -⟩ | ⟨_, _, _, _, _, h, -⟩ := h.head
  · rfl
  · cases h
  · cases h

theorem idxOf? (h : Renumbered l l') {q : Char} (hq : isDigit q = false) :
    (l.idxOf? q = none ∧ l'.idxOf? q = none) ∨
      ∃ n n', l.idxOf? q = some n ∧ l'.idxOf? q = some n' ∧ Renumbered (l.drop (n + 1)) (l'.drop (n' + 1)) := by
  induction h with
  | nil => exact .inl ⟨rfl, rfl⟩
  | @keep c l l' h ih =>
    rw [List.idxOf?_cons, List.idxOf?_cons]
    split
    · exact .inr ⟨0, 0, rfl, rfl, h⟩
    · obtain ⟨hl, hl'⟩ | ⟨n, n', hl, hl', hdrop⟩ := ih
      · exact .inl ⟨by rw [hl]; rfl, by rw [hl']; rfl⟩
      · exact .inr ⟨n + 1, n' + 1, by rw [hl]; rfl, by rw [hl']; rfl, hdrop⟩
  | @digits d d' l l' hd hd' h ih =>
    rw [idxOf?_append (hd.not_mem hq), idxOf?_append (hd'.not_mem hq)]
    obtain ⟨hl, hl'⟩ | ⟨n, n', hl, hl', hdrop⟩ := ih
    · exact .inl ⟨by rw [hl]; rfl, by rw [hl']; rfl⟩
    · refine .inr ⟨n + d.length, n' + d'.length, by rw [hl]; rfl, by rw [hl']; rfl, ?_⟩
      rwa [Nat.add_right_comm, Nat.add_right_comm n', Nat.add_comm _ d.length, Nat.add_comm _ d'.length,
        List.drop_length_add_append, List.drop_length_add_append]

theorem span (h : Renumbered l l') {p : Char → Bool} (hp : ∀ c, isDigit c = true → p c = true) :
    Renumbered (l.takeWhile p) (l'.takeWhile p) ∧ Renumbered (l.dropWhile p) (l'.dropWhile p) := by
  induction h with
  | nil => exact ⟨.nil, .nil⟩
  | @keep c l l' h ih =>
    cases hc : p c with
    | true =>
      simp only [List.takeWhile_cons_of_pos hc, List.dropWhile_cons_of_pos hc]
      exact ⟨.keep c ih.1, ih.2⟩
    | false =>
      have hc' : ¬p c = true := by rw [hc]; nofun
      simp only [List.takeWhile_cons_of_neg hc', List.dropWhile_cons_of_neg hc']
      exact ⟨.nil, .keep c h⟩
  | @digits d d' l l' hd hd' _ ih =>
    have hall : ∀ c ∈ d, p c = true := fun c hc => hp c (hd.2 c hc)
    have hall' : ∀ c ∈ d', p c = true := fun c hc => hp c (hd'.2 c hc)
    rw [List.takeWhile_append_of_pos hall, List.takeWhile_append_of_pos hall', List.dropWhile_append_of_pos hall,
      List.dropWhile_append_of_pos hall']
    exact ⟨.digits hd hd' ih.1, ih.2⟩

end Renumbered

/-! ## Passes over quotes -/

/-- Nothing is found in two texts, or what is found is replaced by the same and leaves texts that differ in runs of
digits only.  The texts are what follows the first character. -/
def FoundAlike (l l' : List Char) (found found' : Option Stretch) : Prop :=
  (found = none ∧ found' = none) ∨ ∃ s s', found = some s ∧ found' = some s' ∧ s.value = s'.value ∧
    Renumbered (l.drop s.more) (l'.drop s'.more)

/-- A search that finds nothing at a digit, and tells no run of digits from another. -/
structure LooksPast (find : Bool → List Char → Option Stretch) : Prop where
  digit (start : Bool) (c : Char) (rest : List Char) : isDigit c = true → find start (c :: rest) = none
  alike (start : Bool) (c : Char) {l l' : List Char} : Renumbered l l' →
    FoundAlike l l' (find start (c :: l)) (find start (c :: l'))

/-- **Of texts that differ in runs of digits such a pass makes texts that differ in runs of digits.** -/
theorem LooksPast.substituteFrom {find : Bool → List Char → Option Stretch} (h : LooksPast find) (start : Bool)
    {l l' : List Char} (hl : Renumbered l l') :
    Renumbered (substituteFrom find start 0 l) (substituteFrom find start 0 l') := by
  induction hn : l.length using Nat.strongRecOn generalizing start l l' with
  | ind n ih =>
    subst hn
    cases hl with
    | nil => exact .nil
    | keep c hl =>
      obtain ⟨hnone, hnone'⟩ | ⟨s, s', hsome, hsome', hvalue, hdrop⟩ := h.alike start c hl
      · rw [substituteFrom_none hnone, substituteFrom_none hnone']
        exact .keep c (ih _ (Nat.lt_succ_self _) false hl rfl)
      · rw [substituteFrom_some hsome, substituteFrom_some hsome', hvalue]
        refine (Renumbered.refl _).append (ih _ ?_ false hdrop rfl)
        exact Nat.lt_succ_of_le (List.drop_sublist _ _).length_le
    | digits hd hd' hl =>
      rw [substituteFrom_append hd.1 fun c hc start rest => h.digit start c rest (hd.2 c hc),
        substituteFrom_append hd'.1 fun c hc start rest => h.digit start c rest (hd'.2 c hc)]
      refine .digits hd hd' (ih _ ?_ false hl rfl)
      rw [List.length_append]
      exact Nat.lt_add_of_pos_left (List.length_pos_iff.2 hd.1)

theorem isDigit_eq_false_of_closingQuote {c q : Char} (h : closingQuote c = some q) :
    isDigit c = false ∧ isDigit q = false := by
  unfold closingQuote at h
  split at h <;> cases h <;> decide

theorem doubleQuoted_none {start : Bool} {c : Char} {rest : List Char} (h : closingQuote c = none) :
    doubleQuoted start (c :: rest) = none := by
  rw [doubleQuoted, h]
  rfl

theorem doubleQuoted_some {start : Bool} {c q : Char} {rest : List Char} (h : closingQuote c = some q) :
    doubleQuoted start (c :: rest) = (rest.idxOf? q).map fun n => ⟨n + 1, textPlaceholder⟩ := by
  rw [doubleQuoted, h]
  show (rest.idxOf? q).bind _ = _
  cases rest.idxOf? q <;> rfl

theorem Renumbered.quoted {l l' : List Char} (h : Renumbered l l') {q : Char} (hq : isDigit q = false)
    (before value : List Char) :
    FoundAlike (before ++ l) (before ++ l') ((l.idxOf? q).map fun n => ⟨n + 1 + before.length, value⟩)
      ((l'.idxOf? q).map fun n => ⟨n + 1 + before.length, value⟩) := by
  obtain ⟨hnone, hnone'⟩ | ⟨n, n', hsome, hsome', hdrop⟩ := h.idxOf? hq
  · exact .inl ⟨by rw [hnone]; rfl, by rw [hnone']; rfl⟩
  · refine .inr ⟨⟨n + 1 + before.length, value⟩, ⟨n' + 1 + before.length, value⟩, by rw [hsome]; rfl,
      by rw [hsome']; rfl, rfl, ?_⟩
    rwa [Nat.add_comm (n + 1), Nat.add_comm (n' + 1), List.drop_length_add_append, List.drop_length_add_append]

theorem looksPast_doubleQuoted : LooksPast doubleQuoted where
  digit start c rest hc := by
    cases hq : closingQuote c with
    | none   => exact doubleQuoted_none hq
    | some q =>
      rw [(isDigit_eq_false_of_closingQuote hq).1] at hc
      cases hc
  alike start c l l' hl := by
    cases hq : closingQuote c with
    | none   => exact .inl ⟨doubleQuoted_none hq, doubleQuoted_none hq⟩
    | some q =>
      rw [doubleQuoted_some hq, doubleQuoted_some hq]
      exact hl.quoted (isDigit_eq_false_of_closingQuote hq).2 [] _

/-! ### Single quotes -/

def CodeTable.apart (a b : CodeTable) : Bool := a.all fun r => b.all fun q => decide (r.2 < q.1) || decide (q.2 < r.1)

theorem CodeTable.exists_of_holds {a : CodeTable} {c : Nat} (h : a.holds c = true) : ∃ r ∈ a, r.1 ≤ c ∧ c ≤ r.2 := by
  induction a with
  | nil => cases h
  | cons r a ih =>
    simp only [CodeTable.holds, Bool.and_eq_true, Bool.or_eq_true, decide_eq_true_eq] at h
    obtain ⟨hlo, hhi | hrest⟩ := h
    · exact ⟨r, .head _, hlo, hhi⟩
    · obtain ⟨r', hmem, hr'⟩ := ih hrest
      exact ⟨r', .tail _ hmem, hr'⟩

theorem CodeTable.holds_eq_false_of_apart {a b : CodeTable} (h : a.apart b = true) {c : Nat} (hc : a.holds c = true) :
    b.holds c = false := by
  refine Bool.eq_false_iff.2 fun hb => ?_
  obtain ⟨r, hr, hlo, hhi⟩ := exists_of_holds hc
  obtain ⟨q, hq, hlo', hhi'⟩ := exists_of_holds hb
  have hapart : r.2 < q.1 ∨ q.2 < r.1 := by simpa using List.all_eq_true.1 (List.all_eq_true.1 h r hr) q hq
  omega

theorem opensQuote_eq_false_of_isDigit {c : Char} (h : isDigit c = true) : opensQuote c = false := by
  have hapart : digitTable.apart blankTable = true := by decide +kernel
  have hblank : isBlank c = false := CodeTable.holds_eq_false_of_apart hapart h
  have hne : ∀ d : Char, isDigit d = false → (c == d) = false := fun d hd => beq_false_of_ne fun heq => by
    rw [heq, hd] at h
    cases h
  rw [opensQuote, hblank, hne '(' (by decide), hne '[' (by decide), hne ':' (by decide)]
  rfl

theorem singleQuoted_opened {start : Bool} {c : Char} {rest : List Char} (hc : c ≠ '\'') :
    singleQuoted start (c :: '\'' :: rest) =
      if opensQuote c then (rest.idxOf? '\'').map fun n => ⟨n + 2, c :: textPlaceholder⟩ else none := by
  unfold singleQuoted
  split
  · rename_i heq
    cases heq
    exact absurd rfl hc
  · rename_i heq
    cases heq
    rfl
  · rename_i hne
    exact absurd rfl (hne c rest)

theorem singleQuoted_other {start : Bool} {c : Char} {rest : List Char} (hc : c ≠ '\'')
    (hrest : ∀ r, rest ≠ '\'' :: r) : singleQuoted start (c :: rest) = none := by
  unfold singleQuoted
  split
  · rename_i heq
    cases heq
    exact absurd rfl hc
  · rename_i heq
    cases heq
    exact absurd rfl (hrest _)
  · rfl

theorem looksPast_singleQuoted : LooksPast singleQuoted where
  digit start c rest hc := by
    have hquote : c ≠ '\'' := fun heq => by
      subst heq
      exact absurd hc (by decide)
    by_cases hrest : ∃ r, rest = '\'' :: r
    · obtain ⟨r, rfl⟩ := hrest
      rw [singleQuoted_opened hquote, opensQuote_eq_false_of_isDigit hc]
      rfl
    · exact singleQuoted_other hquote fun r heq => hrest ⟨r, heq⟩
  alike start c l l' hl := by
    have hquote : isDigit '\'' = false := by decide
    have hnone : ∀ r : List Char, ∀ d, isDigit d = true → ∀ r', d :: r ≠ '\'' :: r' := fun r d hd r' heq => by
      cases heq
      rw [hquote] at hd
      cases hd
    by_cases hc : c = '\''
    · subst hc
      cases start with
      | true  => exact hl.quoted hquote [] _
      | false => exact .inl ⟨rfl, rfl⟩
    obtain ⟨rfl, rfl⟩ | ⟨d, r, r', rfl, rfl, hr⟩ | ⟨d, r, d', r', rfl, rfl, hd, hd'⟩ := hl.head
    · exact .inl ⟨singleQuoted_other hc nofun, singleQuoted_other hc nofun⟩
    · by_cases hd : d = '\''
      · subst hd
        rw [singleQuoted_opened hc, singleQuoted_opened hc]
        cases opensQuote c with
        | true  => exact hr.quoted hquote ['\''] _
        | false => exact .inl ⟨rfl, rfl⟩
      · have hne : ∀ r : List Char, ∀ r', d :: r ≠ '\'' :: r' := fun r r' heq => hd (List.cons.inj heq).1
        exact .inl ⟨singleQuoted_other hc (hne r), singleQuoted_other hc (hne r')⟩
    · exact .inl ⟨singleQuoted_other hc (hnone r d hd), singleQuoted_other hc (hnone r' d' hd')⟩

/-! ## The pass over tokens -/

theorem joinsToken_of_isDigit {c : Char} (h : isDigit c = true) : joinsToken c = true := by
  simp only [joinsToken, isWord, h, Bool.true_or]

theorem afterLastDigit_append (d l : List Char) :
    afterLastDigit (d ++ l) = (afterLastDigit l).or ((afterLastDigit d).map (· ++ l)) := by
  induction d with
  | nil => exact Option.or_none.symm
  | cons c d ih =>
    rw [List.cons_append, afterLastDigit, afterLastDigit, ih]
    cases afterLastDigit l with
    | some tail => rfl
    | none =>
      cases afterLastDigit d with
      | some tail => rfl
      | none      => cases isDigit c <;> rfl

theorem IsNumber.afterLastDigit {d : List Char} (h : IsNumber d) : afterLastDigit d = some [] := by
  obtain ⟨hne, hall⟩ := h
  induction d with
  | nil => exact absurd rfl hne
  | cons c d ih =>
    rw [FormReplay.afterLastDigit]
    cases d with
    | nil      => exact if_pos (hall c (.head _))
    | cons e d => rw [ih nofun fun c hc => hall c (.tail _ hc)]

theorem afterLastDigit_suffix {c : Char} {more tail : List Char} (h : afterLastDigit (c :: more) = some tail) :
    tail <:+ more := by
  induction more generalizing c with
  | nil =>
    cases hc : isDigit c <;> rw [afterLastDigit, hc] at h <;> cases h
    exact List.suffix_rfl
  | cons e more ih =>
    rw [afterLastDigit] at h
    cases hmore : afterLastDigit (e :: more) with
    | some tail' =>
      rw [hmore] at h
      cases h
      exact (ih hmore).trans (List.suffix_cons e more)
    | none =>
      rw [hmore] at h
      cases hc : isDigit c <;> rw [hc] at h <;> cases h
      exact List.suffix_rfl

theorem Renumbered.afterLastDigit {l l' : List Char} (h : Renumbered l l') :
    (afterLastDigit l = none ∧ l' = l) ∨ ∃ tail, afterLastDigit l = some tail ∧ afterLastDigit l' = some tail := by
  induction h with
  | nil => exact .inl ⟨rfl, rfl⟩
  | @keep c l l' h ih =>
    obtain ⟨hnone, rfl⟩ | ⟨tail, hsome, hsome'⟩ := ih
    · cases hall : FormReplay.afterLastDigit (c :: l') with
      | none      => exact .inl ⟨rfl, rfl⟩
      | some tail => exact .inr ⟨tail, rfl, rfl⟩
    · exact .inr ⟨tail, by rw [FormReplay.afterLastDigit, hsome], by rw [FormReplay.afterLastDigit, hsome']⟩
  | @digits d d' l l' hd hd' h ih =>
    rw [afterLastDigit_append, afterLastDigit_append, hd.afterLastDigit, hd'.afterLastDigit]
    obtain ⟨hnone, rfl⟩ | ⟨tail, hsome, hsome'⟩ := ih
    · exact .inr ⟨l', by rw [hnone]; rfl, by rw [hnone]; rfl⟩
    · exact .inr ⟨tail, by rw [hsome]; rfl, by rw [hsome']; rfl⟩

/-- **A token is replaced as a whole**, or stays as a whole if it has no digit. -/
theorem substituteFrom_token (start : Bool) {l : List Char} (hrun : l.takeWhile joinsToken ≠ []) :
    substituteFrom token start 0 l =
      match afterLastDigit (l.takeWhile joinsToken) with
      | none      => l.takeWhile joinsToken ++ substituteFrom token false 0 (l.dropWhile joinsToken)
      | some tail =>
        numberPlaceholder ++ substituteFrom token false 0 (tail.dropWhile endsToken ++ l.dropWhile joinsToken) := by
  obtain _ | ⟨c, rest⟩ := l
  · exact absurd rfl hrun
  have hc : joinsToken c = true := by
    refine Decidable.by_contra fun hc => hrun ?_
    exact List.takeWhile_cons_of_neg hc
  have htoken : token start (c :: rest) =
      match afterLastDigit (c :: rest.takeWhile joinsToken) with
      | none      => some ⟨(rest.takeWhile joinsToken).length, c :: rest.takeWhile joinsToken⟩
      | some tail =>
        some ⟨(rest.takeWhile joinsToken).length - (tail.dropWhile endsToken).length, numberPlaceholder⟩ := by
    simp only [token, List.takeWhile_cons_of_pos hc]
    cases afterLastDigit (c :: rest.takeWhile joinsToken) <;> rfl
  -- What is left of the run at its end stays in front of what follows the run.
  have hdrop : ∀ left, left <:+ rest.takeWhile joinsToken →
      rest.drop ((rest.takeWhile joinsToken).length - left.length) = left ++ rest.dropWhile joinsToken := by
    rintro left ⟨before, hbefore⟩
    have hrest : rest = before ++ (left ++ rest.dropWhile joinsToken) := by
      rw [← List.append_assoc, hbefore, List.takeWhile_append_dropWhile]
    have hlength : (rest.takeWhile joinsToken).length - left.length = before.length := by
      rw [← hbefore, List.length_append, Nat.add_sub_cancel]
    rw [hlength]
    exact (congrArg (List.drop before.length) hrest).trans List.drop_left
  rw [List.takeWhile_cons_of_pos hc, List.dropWhile_cons_of_pos hc]
  cases hdigit : afterLastDigit (c :: rest.takeWhile joinsToken) with
  | none =>
    rw [hdigit] at htoken
    rw [substituteFrom_some htoken]
    exact congrArg (fun l => _ ++ substituteFrom token false 0 l) (hdrop [] List.nil_suffix)
  | some tail =>
    rw [hdigit] at htoken
    rw [substituteFrom_some htoken]
    exact congrArg (fun l => _ ++ substituteFrom token false 0 l)
      (hdrop _ ((List.dropWhile_suffix endsToken).trans (afterLastDigit_suffix hdigit)))

/-- **Tokens with digits lose them**, so texts that differ in runs of digits become one. -/
theorem Renumbered.substituteFrom_token {l l' : List Char} (h : Renumbered l l') (start : Bool) :
    substituteFrom token start 0 l = substituteFrom token start 0 l' := by
  induction hn : l.length using Nat.strongRecOn generalizing start l l' with
  | ind n ih =>
    subst hn
    by_cases hnil : l.takeWhile joinsToken = []
    · obtain ⟨rfl, rfl⟩ | ⟨c, r, r', rfl, rfl, hr⟩ | ⟨c, r, c', r', rfl, rfl, hc, -⟩ := h.head
      · rfl
      · have hc : ¬joinsToken c = true := fun hc => by
          rw [List.takeWhile_cons_of_pos hc] at hnil
          cases hnil
        have hnone : ∀ r, token start (c :: r) = none := fun r => by
          simp only [token, List.takeWhile_cons_of_neg hc]
        rw [substituteFrom_none (hnone r), substituteFrom_none (hnone r'), ih _ (Nat.lt_succ_self _) hr false rfl]
      · rw [List.takeWhile_cons_of_pos (joinsToken_of_isDigit hc)] at hnil
        cases hnil
    · obtain ⟨hrun, hrest⟩ := h.span fun _ => joinsToken_of_isDigit
      have hnil' : l'.takeWhile joinsToken ≠ [] := fun heq => hnil (heq ▸ hrun).eq_nil
      have hlength : (l.takeWhile joinsToken).length + (l.dropWhile joinsToken).length = l.length := by
        rw [← List.length_append, List.takeWhile_append_dropWhile]
      have hpos := List.length_pos_iff.2 hnil
      rw [FormReplay.substituteFrom_token start hnil, FormReplay.substituteFrom_token start hnil']
      obtain ⟨hnone, heq⟩ | ⟨tail, hsome, hsome'⟩ := hrun.afterLastDigit
      · rw [heq, hnone, ih _ (by omega) hrest false rfl]
      · have htail : (tail.dropWhile endsToken).length < (l.takeWhile joinsToken).length := by
          obtain ⟨c, more, hrun⟩ := List.exists_cons_of_ne_nil hnil
          rw [hrun] at hsome ⊢
          refine Nat.lt_succ_of_le ?_
          exact ((List.dropWhile_suffix endsToken).trans (afterLastDigit_suffix hsome)).length_le
        have hleft : (tail.dropWhile endsToken ++ l.dropWhile joinsToken).length < l.length := by
          rw [List.length_append]
          omega
        rw [hsome, hsome']
        exact congrArg (numberPlaceholder ++ ·) (ih _ hleft ((Renumbered.refl _).append hrest) false rfl)

/-- **Texts that differ in runs of digits have one template.** -/
theorem Renumbered.generalizeChars {l l' : List Char} (h : Renumbered l l') :
    generalizeChars l = generalizeChars l' := by
  have hdouble := looksPast_doubleQuoted.substituteFrom true h
  have hsingle := looksPast_singleQuoted.substituteFrom true hdouble
  exact congrArg squeeze (hsingle.substituteFrom_token true)

/-! ## What stands in double quotes -/

theorem substituteFrom_doubleQuoted {before quoted : List Char} (hbefore : ∀ c ∈ before, closingQuote c = none)
    (hquoted : '"' ∉ quoted) (start : Bool) (after : List Char) :
    substituteFrom doubleQuoted start 0 (before ++ '"' :: (quoted ++ '"' :: after)) =
      before ++ (textPlaceholder ++ substituteFrom doubleQuoted false 0 after) := by
  induction before generalizing start with
  | nil =>
    have hfound : doubleQuoted start ('"' :: (quoted ++ '"' :: after)) = some ⟨quoted.length + 1, textPlaceholder⟩ := by
      rw [doubleQuoted_some rfl, idxOf?_append hquoted, List.idxOf?_cons]
      simp
    rw [List.nil_append, substituteFrom_some hfound, List.drop_length_add_append]
    rfl
  | cons c before ih =>
    rw [List.cons_append, substituteFrom_none (doubleQuoted_none (hbefore c (.head _))),
      ih (fun c hc => hbefore c (.tail _ hc)) false, List.cons_append]

/-- **What stands in the first double quotes makes no difference.** -/
theorem generalizeChars_quoted {before quoted quoted' : List Char} (hbefore : ∀ c ∈ before, closingQuote c = none)
    (hquoted : '"' ∉ quoted) (hquoted' : '"' ∉ quoted') (after : List Char) :
    generalizeChars (before ++ '"' :: (quoted ++ '"' :: after)) =
      generalizeChars (before ++ '"' :: (quoted' ++ '"' :: after)) := by
  unfold generalizeChars substitute
  rw [substituteFrom_doubleQuoted hbefore hquoted, substituteFrom_doubleQuoted hbefore hquoted']

/-! ## Variants -/

def doubleQuotes : List Char := ['"', '“', '”']

/-- A text with another run of digits in place of one, or with something else in the first double quotes. -/
inductive Variant : String → String → Prop
  | number (before d d' after : String) : IsNumber d.toList → IsNumber d'.toList →
      Variant (before ++ d ++ after) (before ++ d' ++ after)
  | quoted (before c c' after : String) : (∀ q ∈ doubleQuotes, q ∉ before.toList) → '"' ∉ c.toList →
      (∀ q ∈ doubleQuotes, q ∉ c'.toList) →
      Variant (before ++ "\"" ++ c ++ "\"" ++ after) (before ++ "\"" ++ c' ++ "\"" ++ after)

theorem closingQuote_eq_none {c : Char} (h : c ∉ doubleQuotes) : closingQuote c = none := by
  unfold closingQuote
  split
  · exact absurd (by decide) h
  · exact absurd (by decide) h
  · rfl

/-- **Variants have one template.** -/
theorem Variant.generalize {t t' : String} (h : Variant t t') : generalize t = generalize t' := by
  refine congrArg String.ofList ?_
  cases h with
  | number before d d' after hd hd' =>
    simp only [String.toList_append, List.append_assoc]
    exact ((Renumbered.refl _).append (.digits hd hd' (.refl _))).generalizeChars
  | quoted before c c' after hbefore hc hc' =>
    have hmark : "\"".toList = ['"'] := rfl
    simp only [String.toList_append, hmark, List.append_assoc, List.singleton_append]
    refine generalizeChars_quoted (fun x hx => closingQuote_eq_none fun hq => hbefore x hq hx) hc ?_ _
    exact hc' '"' (.head _)

theorem Variant.alike {t t' : String} (h : Variant t t') (kind : EventKind) (controls : List String) :
    (Event.ofText kind t controls).Alike (Event.ofText kind t' controls) :=
  ⟨rfl, h.generalize.symm, rfl⟩

/-- Without patterns the same handler is found for events that are alike. -/
theorem Event.Alike.findHandler_eq {e e' : Event} (h : e.Alike e') {handlers : List Handler}
    (hregex : ∀ g ∈ handlers, g.trigger.matchMode ≠ .regex) : findHandler handlers e' = findHandler handlers e := by
  have happlies : handlers.filter (·.applies e') = handlers.filter (·.applies e) :=
    List.filter_congr fun g hg => congrArg (g.enabled && ·) (h.fires (hregex g hg))
  unfold findHandler
  rw [happlies]

/-- **Generalization covers variants.**  Variants of a text have its template.  Events made of them have one pattern
key, and without patterns the same handler is found for them. -/
theorem variants_covered {t t' : String} (h : Variant t t') :
    generalize t = generalize t' ∧ ∀ kind controls,
      let event := Event.ofText kind t controls
      let event' := Event.ofText kind t' controls
      event.patternKey = event'.patternKey ∧ ∀ handlers : List Handler,
        (∀ g ∈ handlers, g.trigger.matchMode ≠ .regex) → findHandler handlers event = findHandler handlers event' := by
  refine ⟨h.generalize, fun kind controls => ⟨?_, fun handlers hregex => ?_⟩⟩
  · unfold Event.patternKey Event.ofText
    rw [h.generalize]
  · exact ((h.alike kind controls).findHandler_eq hregex).symm

/-- The rule for one locked record holds for another, and for another person who locked it. -/
theorem locked_records_covered :
    let rules : List Handler := [{ id := "locked", trigger := ⟨.dialog, "is locked by", .contains, ["OK"]⟩ }]
    let first := Event.ofText .dialog "Record 10452 is locked by \"Ann\"." ["OK"]
    let second := Event.ofText .dialog "Record 9 is locked by \"Ann\"." ["OK"]
    let third := Event.ofText .dialog "Record 9 is locked by \"Bob 2\"." ["OK"]
    (findHandler rules first).map (·.id) = some "locked" ∧
      (first.patternKey = second.patternKey ∧ findHandler rules first = findHandler rules second) ∧
      (second.patternKey = third.patternKey ∧ findHandler rules second = findHandler rules third) := by
  intro rules first second third
  have hregex : ∀ g ∈ rules, g.trigger.matchMode ≠ .regex := by decide
  have hnumber : Variant "Record 10452 is locked by \"Ann\"." "Record 9 is locked by \"Ann\"." :=
    .number "Record " "10452" "9" " is locked by \"Ann\"." (by decide) (by decide)
  have hquoted : Variant "Record 9 is locked by \"Ann\"." "Record 9 is locked by \"Bob 2\"." :=
    .quoted "Record 9 is locked by " "Ann" "Bob 2" "." (by simp [doubleQuotes]) (by decide) (by simp [doubleQuotes])
  obtain ⟨hkey, hrules⟩ := (variants_covered hnumber).2 .dialog ["OK"]
  obtain ⟨hkey', hrules'⟩ := (variants_covered hquoted).2 .dialog ["OK"]
  exact ⟨by decide +kernel, ⟨hkey, hrules rules hregex⟩, hkey', hrules' rules hregex⟩

end FormReplay
