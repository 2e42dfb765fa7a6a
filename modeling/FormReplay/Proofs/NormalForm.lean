import FormReplay.Proofs.Templates
import Mathlib.Data.List.Chain
/-!
# Templates are their own templates

A template has no digit, its words stand one space apart, and it is its own template.  The last does not follow from
what each pass does to its own text, because a later pass could bring forth what an earlier one looks for.  It does
not: the later passes put placeholders and spaces in place of what they take away, which adds no quote and lets none
open that could not open before (`Pruned`).  So what the passes over quotes leave behind (`NonePaired`, `NoneOpened`)
is there in the end, and no pass finds anything in a text that has it all (`Normal.generalizeChars`).
-/
namespace FormReplay

/-- All that a replacement from left to right can do: a place where nothing is found, or a stretch found and replaced,
and then the rest, which is not at the start. -/
@[elab_as_elim]
theorem substituteFrom_induct (find : Bool → List Char → Option Stretch) {motive : Bool → List Char → Prop}
    (nil : ∀ start, motive start [])
    (kept : ∀ start c rest, find start (c :: rest) = none → motive false rest → motive start (c :: rest))
    (found : ∀ start c rest s, find start (c :: rest) = some s → motive false (rest.drop s.more) →
      motive start (c :: rest))
    (start : Bool) (cs : List Char) : motive start cs := by
  induction hn : cs.length using Nat.strongRecOn generalizing start cs with
  | ind n ih =>
    subst hn
    cases cs with
    | nil => exact nil start
    | cons c rest =>
      cases hfind : find start (c :: rest) with
      | none   => exact kept start c rest hfind (ih _ (Nat.lt_succ_self _) false rest rfl)
      | some s =>
        exact found start c rest s hfind
          (ih _ (Nat.lt_succ_of_le (List.drop_sublist _ _).length_le) false (rest.drop s.more) rfl)

/-! ## What the passes over quotes leave -/

def NonePaired (cs : List Char) : Prop := cs.Pairwise fun a b => closingQuote a ≠ some b

/-- No single quote is closed that may open.  `opened` tells whether one may at the head. -/
def NoneOpened : Bool → List Char → Prop
  | _, [] => True
  | opened, c :: rest => (c = '\'' → opened = true → '\'' ∉ rest) ∧ NoneOpened (opensQuote c) rest

theorem doubleQuoted_eq_none_iff {start : Bool} {c : Char} {rest : List Char} :
    doubleQuoted start (c :: rest) = none ↔ ∀ q, closingQuote c = some q → q ∉ rest := by
  cases hclosing : closingQuote c with
  | none   => exact iff_of_true (doubleQuoted_none hclosing) nofun
  | some q =>
    rw [doubleQuoted_some hclosing, Option.map_eq_none_iff, List.idxOf?_eq_none_iff]
    exact ⟨fun hq _ heq => Option.some.inj heq ▸ hq, fun h => h q rfl⟩

theorem opensQuote_quote : opensQuote '\'' = false := by decide

theorem singleQuoted_eq_none_iff {start : Bool} {c : Char} {rest : List Char} :
    singleQuoted start (c :: rest) = none ↔
      (c = '\'' → start = true → '\'' ∉ rest) ∧ (opensQuote c = true → ∀ r, rest = '\'' :: r → '\'' ∉ r) := by
  by_cases hc : c = '\''
  · subst hc
    rw [opensQuote_quote]
    cases start with
    | true  => simp [singleQuoted]
    | false => simp [singleQuoted]
  · by_cases hrest : ∃ r, rest = '\'' :: r
    · obtain ⟨r, rfl⟩ := hrest
      rw [singleQuoted_opened hc]
      cases opensQuote c with
      | true  => simp [hc]
      | false => simp [hc]
    · have hother : ∀ r, rest ≠ '\'' :: r := fun r heq => hrest ⟨r, heq⟩
      exact iff_of_true (singleQuoted_other hc hother) ⟨fun heq => absurd heq hc, fun _ r heq => absurd heq (hother r)⟩

/-- **Where no double quote is closed nothing is replaced.** -/
theorem NonePaired.substituteFrom {cs : List Char} (h : NonePaired cs) (start : Bool) :
    substituteFrom doubleQuoted start 0 cs = cs := by
  induction cs generalizing start with
  | nil => rfl
  | cons c rest ih =>
    obtain ⟨hc, hrest⟩ := List.pairwise_cons.1 h
    have hnone : doubleQuoted start (c :: rest) = none :=
      doubleQuoted_eq_none_iff.2 fun q hclosing hq => hc q hq hclosing
    rw [substituteFrom_none hnone, ih hrest]

namespace NoneOpened

variable {opened opened' : Bool} {l : List Char}

theorem mono (h : NoneOpened opened l) (hle : opened' = true → opened = true) : NoneOpened opened' l := by
  cases l with
  | nil => trivial
  | cons c l => exact ⟨fun hc hopened => h.1 hc (hle hopened), h.2⟩

/-- **Where no single quote is closed that may open nothing is replaced.** -/
theorem substituteFrom (h : NoneOpened opened l) : substituteFrom singleQuoted opened 0 l = l := by
  induction l generalizing opened with
  | nil => rfl
  | cons c rest ih =>
    have hnone : singleQuoted opened (c :: rest) = none := by
      refine singleQuoted_eq_none_iff.2 ⟨h.1, fun hopens r hr => ?_⟩
      subst hr
      exact h.2.1 rfl hopens
    rw [substituteFrom_none hnone, ih (h.2.mono fun hfalse => absurd hfalse Bool.false_ne_true)]

end NoneOpened

/-! ## Texts with less in them -/

def quoteMarks : List Char := '\'' :: doubleQuotes

/-- Whether a single quote may open after these characters.  `opened` tells whether it may before them. -/
def opensAfter (opened : Bool) (cs : List Char) : Bool := cs.foldl (fun _ c => opensQuote c) opened

/-- What may be put in place of a stretch: it has no quote, and none may open after it that could not before. -/
structure StandsFor (value stretch : List Char) : Prop where
  plain : ∀ c ∈ value, c ∉ quoteMarks
  opens (opened : Bool) : opensAfter opened value = true → opensAfter opened stretch = true

/-- A text, and what is left of it where stretches gave way to others with no quotes. -/
inductive Pruned : List Char → List Char → Prop
  | nil : Pruned [] []
  | keep (c : Char) {l m : List Char} : Pruned l m → Pruned (c :: l) (c :: m)
  | put {value stretch l m : List Char} : StandsFor value stretch → Pruned l m → Pruned (stretch ++ l) (value ++ m)

theorem not_mem_quoteMarks_of_opensQuote {c : Char} (h : opensQuote c = true) : c ∉ quoteMarks := by
  intro hc
  have hnone : quoteMarks.any opensQuote = false := by decide
  exact List.any_eq_false.1 hnone c hc h

theorem mem_quoteMarks_of_closingQuote {c q : Char} (h : closingQuote c = some q) : q ∈ quoteMarks := by
  unfold closingQuote at h
  split at h <;> cases h <;> decide

theorem NonePaired.append {d l : List Char} (hplain : ∀ c ∈ d, c ∉ quoteMarks) (h : NonePaired l) :
    NonePaired (d ++ l) := by
  have hd : ∀ c ∈ d, ∀ q, closingQuote c ≠ some q := fun c hc q heq => by
    rw [closingQuote_eq_none fun hmem => hplain c hc (.tail _ hmem)] at heq
    cases heq
  exact List.pairwise_append.2
    ⟨List.pairwise_of_forall_mem_list fun c hc q _ => hd c hc q, h, fun c hc q _ => hd c hc q⟩

namespace NoneOpened

variable {opened : Bool} {d l : List Char}

theorem drop (h : NoneOpened opened (d ++ l)) : NoneOpened (opensAfter opened d) l := by
  induction d generalizing opened with
  | nil => exact h
  | cons c d ih => exact ih h.2

theorem append (hplain : ∀ c ∈ d, c ∉ quoteMarks) (h : NoneOpened (opensAfter opened d) l) :
    NoneOpened opened (d ++ l) := by
  induction d generalizing opened with
  | nil => exact h
  | cons c d ih =>
    have hc : c ≠ '\'' := fun heq => hplain c (.head _) (heq ▸ .head _)
    exact ⟨fun heq => absurd heq hc, ih (fun c hc => hplain c (.tail _ hc)) h⟩

end NoneOpened

namespace Pruned

variable {l m : List Char}

theorem keepAll (kept : List Char) (h : Pruned l m) : Pruned (kept ++ l) (kept ++ m) := by
  induction kept with
  | nil => exact h
  | cons c kept ih => exact .keep c ih

theorem mem (h : Pruned l m) {q : Char} (hq : q ∈ quoteMarks) (hmem : q ∈ m) : q ∈ l := by
  induction h with
  | nil => exact hmem
  | keep c _ ih =>
    obtain rfl | hmem := List.mem_cons.1 hmem
    · exact .head _
    · exact .tail _ (ih hmem)
  | put hstands _ ih =>
    obtain hvalue | hmem := List.mem_append.1 hmem
    · exact absurd hq (hstands.plain q hvalue)
    · exact List.mem_append_right _ (ih hmem)

theorem nonePaired (h : Pruned l m) (hnone : NonePaired l) : NonePaired m := by
  induction h with
  | nil => exact hnone
  | keep c h ih =>
    obtain ⟨hc, hrest⟩ := List.pairwise_cons.1 hnone
    exact List.pairwise_cons.2
      ⟨fun q hq hclosing => hc q (h.mem (mem_quoteMarks_of_closingQuote hclosing) hq) hclosing, ih hrest⟩
  | put hstands _ ih => exact .append hstands.plain (ih (List.pairwise_append.1 hnone).2.1)

theorem noneOpened (h : Pruned l m) {opened : Bool} (hnone : NoneOpened opened l) : NoneOpened opened m := by
  induction h generalizing opened with
  | nil => exact hnone
  | keep c h ih => exact ⟨fun hc hopened hmem => hnone.1 hc hopened (h.mem (.head _) hmem), ih hnone.2⟩
  | put hstands _ ih => exact .append hstands.plain ((ih hnone.drop).mono (hstands.opens opened))

end Pruned

/-! ## What each pass does to the text -/

/-- A search whose finds are replaced by what may be put in their place. -/
def Prunes (find : Bool → List Char → Option Stretch) : Prop :=
  ∀ ⦃start c rest s⦄, find start (c :: rest) = some s → ∀ ⦃m⦄, Pruned (rest.drop s.more) m →
    Pruned (c :: rest) (s.value ++ m)

theorem Prunes.substituteFrom {find : Bool → List Char → Option Stretch} (h : Prunes find) (start : Bool)
    (cs : List Char) : Pruned cs (substituteFrom find start 0 cs) := by
  induction start, cs using substituteFrom_induct find with
  | nil start => exact .nil
  | kept start c rest hfind ih =>
    rw [substituteFrom_none hfind]
    exact .keep c ih
  | found start c rest s hfind ih =>
    rw [substituteFrom_some hfind]
    exact h hfind ih

def placeholders : List (List Char) := [textPlaceholder, numberPlaceholder]

theorem plain_of_mem_placeholders {value : List Char} (h : value ∈ placeholders) {c : Char} (hc : c ∈ value) :
    c ∉ quoteMarks ∧ isDigit c = false := by
  have hall : placeholders.all (·.all fun c => !quoteMarks.contains c && !isDigit c) = true := by decide
  simpa using List.all_eq_true.1 (List.all_eq_true.1 hall value h) c hc

theorem opensAfter_placeholder :
    ∀ value ∈ placeholders, ∀ opened, opensAfter opened value = false := by decide

theorem standsFor_placeholder {value : List Char} (h : value ∈ placeholders) (stretch : List Char) :
    StandsFor value stretch where
  plain _ hc := (plain_of_mem_placeholders h hc).1
  opens opened hopens := absurd hopens (Bool.eq_false_iff.1 (opensAfter_placeholder value h opened))

theorem Pruned.placeholder {cs value m : List Char} (h : value ∈ placeholders) (n : Nat)
    (hm : Pruned (cs.drop n) m) : Pruned cs (value ++ m) := by
  have hput : Pruned (cs.take n ++ cs.drop n) (value ++ m) := .put (standsFor_placeholder h _) hm
  rwa [List.take_append_drop] at hput

/-! ### Double quotes -/

theorem doubleQuoted_value {start : Bool} {c : Char} {rest : List Char} {s : Stretch}
    (h : doubleQuoted start (c :: rest) = some s) : s.value = textPlaceholder := by
  cases hclosing : closingQuote c with
  | none =>
    rw [doubleQuoted_none hclosing] at h
    cases h
  | some q =>
    rw [doubleQuoted_some hclosing] at h
    obtain ⟨n, -, rfl⟩ := Option.map_eq_some_iff.1 h
    rfl

theorem prunes_doubleQuoted : Prunes doubleQuoted := by
  intro start c rest s hfound m h
  rw [doubleQuoted_value hfound]
  exact .placeholder (.head _) (s.more + 1) h

/-- **The pass over double quotes leaves none that is closed.** -/
theorem nonePaired_substituteFrom (start : Bool) (cs : List Char) :
    NonePaired (substituteFrom doubleQuoted start 0 cs) := by
  induction start, cs using substituteFrom_induct doubleQuoted with
  | nil start => exact .nil
  | kept start c rest hfind ih =>
    rw [substituteFrom_none hfind]
    refine List.pairwise_cons.2 ⟨fun q hq hclosing => doubleQuoted_eq_none_iff.1 hfind q hclosing ?_, ih⟩
    exact (prunes_doubleQuoted.substituteFrom false rest).mem (mem_quoteMarks_of_closingQuote hclosing) hq
  | found start c rest s hfind ih =>
    rw [substituteFrom_some hfind, doubleQuoted_value hfind]
    exact .append (standsFor_placeholder (.head _) []).plain ih

/-! ### Single quotes -/

theorem singleQuoted_value {start : Bool} {c : Char} {rest : List Char} {s : Stretch}
    (h : singleQuoted start (c :: rest) = some s) :
    s.value = textPlaceholder ∨ c ∉ quoteMarks ∧ s.value = c :: textPlaceholder := by
  by_cases hc : c = '\''
  · subst hc
    cases start with
    | true =>
      obtain ⟨n, -, rfl⟩ := Option.map_eq_some_iff.1 h
      exact .inl rfl
    | false => cases h
  · by_cases hrest : ∃ r, rest = '\'' :: r
    · obtain ⟨r, rfl⟩ := hrest
      rw [singleQuoted_opened hc] at h
      cases hopens : opensQuote c with
      | true =>
        rw [hopens, if_pos rfl] at h
        obtain ⟨n, -, rfl⟩ := Option.map_eq_some_iff.1 h
        exact .inr ⟨not_mem_quoteMarks_of_opensQuote hopens, rfl⟩
      | false =>
        rw [hopens] at h
        cases h
    · rw [singleQuoted_other hc fun r heq => hrest ⟨r, heq⟩] at h
      cases h

theorem prunes_singleQuoted : Prunes singleQuoted := by
  intro start c rest s hfound m h
  obtain hvalue | ⟨-, hvalue⟩ := singleQuoted_value hfound
  · rw [hvalue]
    exact .placeholder (.head _) (s.more + 1) h
  · rw [hvalue]
    exact .keep c (.placeholder (.head _) s.more h)

/-- **The pass over single quotes leaves none that is closed and may open.**  At its start one may open only if the pass
looks for one there, or would find none. -/
theorem noneOpened_substituteFrom (start : Bool) (cs : List Char) :
    ∀ opened, (opened = true → start = true ∨ ∀ r, cs = '\'' :: r → '\'' ∉ r) →
      NoneOpened opened (substituteFrom singleQuoted start 0 cs) := by
  induction start, cs using substituteFrom_induct singleQuoted with
  | nil start => exact fun _ _ => trivial
  | kept start c rest hfind ih =>
    intro opened hopened
    obtain ⟨hquote, hnext⟩ := singleQuoted_eq_none_iff.1 hfind
    rw [substituteFrom_none hfind]
    -- A quote that follows `c` was looked at together with `c`, if `c` opens one.
    refine ⟨fun hc hopen hmem => ?_, ih _ fun hopens => .inr (hnext hopens)⟩
    have hrest : '\'' ∈ rest := (prunes_singleQuoted.substituteFrom false rest).mem (.head _) hmem
    obtain hstart | hnone := hopened hopen
    · exact hquote hc hstart hrest
    · exact hnone rest (congrArg (· :: rest) hc) hrest
  | found start c rest s hfind ih =>
    intro opened hopened
    have hrest := ih false fun hfalse => absurd hfalse Bool.false_ne_true
    have hplain := (standsFor_placeholder (.head _) []).plain
    rw [substituteFrom_some hfind]
    obtain hvalue | ⟨hc, hvalue⟩ := singleQuoted_value hfind
    · rw [hvalue]
      exact .append hplain hrest
    · rw [hvalue]
      exact .append (List.forall_mem_cons.2 ⟨hc, hplain⟩) hrest

/-! ### Digits -/

theorem afterLastDigit_eq_none_iff {cs : List Char} : afterLastDigit cs = none ↔ ∀ c ∈ cs, isDigit c = false := by
  induction cs with
  | nil => exact iff_of_true rfl nofun
  | cons c rest ih =>
    rw [afterLastDigit, List.forall_mem_cons, ← ih]
    cases afterLastDigit rest with
    | none      => cases isDigit c <;> simp
    | some tail => simp

theorem token_eq_none {start : Bool} {c : Char} {rest : List Char} (h : token start (c :: rest) = none) :
    isDigit c = false := by
  refine Bool.eq_false_iff.2 fun hc => ?_
  simp only [token, List.takeWhile_cons_of_pos (joinsToken_of_isDigit hc)] at h
  cases hdigit : afterLastDigit (c :: rest.takeWhile joinsToken) <;> rw [hdigit] at h <;> cases h

theorem token_value {start : Bool} {c : Char} {rest : List Char} {s : Stretch}
    (h : token start (c :: rest) = some s) :
    (s.value = (c :: rest).take (s.more + 1) ∧ ∀ x ∈ s.value, isDigit x = false) ∨
      s.value = numberPlaceholder ∧ ∃ x ∈ c :: rest, isDigit x = true := by
  have hprefix := List.takeWhile_prefix joinsToken (l := c :: rest)
  cases hc : joinsToken c with
  | false =>
    simp only [token, List.takeWhile_cons_of_neg (Bool.eq_false_iff.1 hc)] at h
    cases h
  | true =>
    simp only [token, List.takeWhile_cons_of_pos hc] at h hprefix
    cases hdigit : afterLastDigit (c :: rest.takeWhile joinsToken) with
    | none =>
      rw [hdigit] at h
      cases h
      exact .inl ⟨List.prefix_iff_eq_take.1 hprefix, afterLastDigit_eq_none_iff.1 hdigit⟩
    | some tail =>
      rw [hdigit] at h
      cases h
      refine .inr ⟨rfl, Classical.byContradiction fun hnone => ?_⟩
      have hplain : ∀ x ∈ c :: rest.takeWhile joinsToken, isDigit x = false := fun x hx =>
        Bool.eq_false_iff.2 fun hx' => hnone ⟨x, hprefix.mem hx, hx'⟩
      rw [afterLastDigit_eq_none_iff.2 hplain] at hdigit
      cases hdigit

theorem prunes_token : Prunes token := by
  intro start c rest s hfound m h
  obtain ⟨hvalue, -⟩ | ⟨hvalue, -⟩ := token_value hfound
  · have hkept := h.keepAll ((c :: rest).take (s.more + 1))
    rw [hvalue]
    have hrest : rest.drop s.more = (c :: rest).drop (s.more + 1) := rfl
    rwa [hrest, List.take_append_drop] at hkept
  · rw [hvalue]
    exact .placeholder (.tail _ (.head _)) (s.more + 1) h

/-- **The pass over tokens leaves no digit.** -/
theorem isDigit_substituteFrom_token (start : Bool) (cs : List Char) :
    ∀ c ∈ substituteFrom token start 0 cs, isDigit c = false := by
  induction start, cs using substituteFrom_induct token with
  | nil start => exact nofun
  | kept start c rest hfind ih =>
    rw [substituteFrom_none hfind]
    exact List.forall_mem_cons.2 ⟨token_eq_none hfind, ih⟩
  | found start c rest s hfind ih =>
    rw [substituteFrom_some hfind]
    refine List.forall_mem_append.2 ⟨fun x hx => ?_, ih⟩
    obtain ⟨-, hdigits⟩ | ⟨hvalue, -⟩ := token_value hfind
    · exact hdigits x hx
    · exact (plain_of_mem_placeholders (.tail _ (.head _)) (hvalue ▸ hx)).2

/-- **Where there is no digit nothing is replaced.** -/
theorem substituteFrom_token_eq_self (start : Bool) (cs : List Char) (h : ∀ c ∈ cs, isDigit c = false) :
    substituteFrom token start 0 cs = cs := by
  induction start, cs using substituteFrom_induct token with
  | nil start => rfl
  | kept start c rest hfind ih => rw [substituteFrom_none hfind, ih fun c hc => h c (.tail _ hc)]
  | found start c rest s hfind ih =>
    obtain ⟨hvalue, -⟩ | ⟨-, x, hx, hdigit⟩ := token_value hfind
    · rw [substituteFrom_some hfind, hvalue, ih fun c hc => h c (.tail _ (List.mem_of_mem_drop hc))]
      exact List.take_append_drop (s.more + 1) (c :: rest)
    · rw [h x hx] at hdigit
      cases hdigit

/-! ### Blanks -/

/-- Words one space apart.  The flag tells whether a word precedes. -/
inductive Spaced : Bool → List Char → Prop
  | nil (inWord : Bool) : Spaced inWord []
  | word (inWord : Bool) {c : Char} {cs : List Char} : isBlank c = false → Spaced true cs → Spaced inWord (c :: cs)
  | space {cs : List Char} : cs ≠ [] → Spaced false cs → Spaced true (' ' :: cs)

theorem isBlank_space : isBlank ' ' = true := by decide

theorem squeezeFrom_word {inWord : Bool} {c : Char} {rest : List Char} (hc : isBlank c = false) :
    squeezeFrom inWord (c :: rest) = c :: squeezeFrom true rest := by
  rw [squeezeFrom, hc, if_neg Bool.false_ne_true]

theorem squeezeFrom_blank {inWord : Bool} {c : Char} {rest : List Char} (hc : isBlank c = true) :
    squeezeFrom inWord (c :: rest) =
      if inWord = true ∧ squeezeFrom false rest ≠ [] then ' ' :: squeezeFrom false rest
      else squeezeFrom false rest := by
  rw [squeezeFrom, hc, if_pos rfl]
  cases squeezeFrom false rest with
  | nil => simp
  | cons => cases inWord <;> simp

theorem spaced_squeezeFrom (inWord : Bool) (cs : List Char) : Spaced inWord (squeezeFrom inWord cs) := by
  induction cs generalizing inWord with
  | nil => exact .nil inWord
  | cons c rest ih =>
    cases hc : isBlank c with
    | false =>
      rw [squeezeFrom_word hc]
      exact .word inWord hc (ih true)
    | true =>
      rw [squeezeFrom_blank hc]
      split
      · rename_i hbetween
        rw [hbetween.1]
        exact .space hbetween.2 (ih false)
      · rename_i hout
        cases inWord with
        | false => exact ih false
        | true =>
          rw [Classical.not_not.1 fun hne => hout ⟨rfl, hne⟩]
          exact .nil true

namespace Spaced

variable {inWord : Bool} {cs : List Char}

theorem head (h : Spaced false cs) : ∀ c ∈ cs.head?, isBlank c = false := by
  cases h with
  | nil => exact nofun
  | word _ hc _ =>
    rintro _ ⟨⟩
    exact hc

theorem last (h : Spaced inWord cs) : ∀ c ∈ cs.getLast?, isBlank c = false := by
  induction h with
  | nil => exact nofun
  | @word _ c cs hc _ ih =>
    cases cs with
    | nil =>
      rintro _ ⟨⟩
      exact hc
    | cons d cs => rwa [List.getLast?_cons_of_ne_nil (List.cons_ne_nil d cs)]
  | space hne _ ih => rwa [List.getLast?_cons_of_ne_nil hne]

theorem eq_space (h : Spaced inWord cs) : ∀ c ∈ cs, isBlank c = true → c = ' ' := by
  induction h with
  | nil => exact nofun
  | word _ hc _ ih => exact List.forall_mem_cons.2 ⟨fun hblank => absurd hblank (Bool.eq_false_iff.1 hc), ih⟩
  | space _ _ ih => exact List.forall_mem_cons.2 ⟨fun _ => rfl, ih⟩

theorem apart (h : Spaced inWord cs) : cs.IsChain fun a b => isBlank a = false ∨ isBlank b = false := by
  induction h with
  | nil => exact .nil
  | word _ hc _ ih => exact List.isChain_cons.2 ⟨fun _ _ => .inl hc, ih⟩
  | space _ hrest ih => exact List.isChain_cons.2 ⟨fun c hc => .inr (hrest.head c hc), ih⟩

/-- **Words one space apart stay as they are.** -/
theorem squeezeFrom (h : Spaced inWord cs) : squeezeFrom inWord cs = cs := by
  induction h with
  | nil => rfl
  | word _ hc _ ih => rw [squeezeFrom_word hc, ih]
  | space hne _ ih => rw [squeezeFrom_blank isBlank_space, ih, if_pos ⟨rfl, hne⟩]

end Spaced

theorem standsFor_blank {c : Char} (hc : isBlank c = true) : StandsFor [' '] [c] ∧ StandsFor [] [c] := by
  have hopens : opensQuote c = true := by rw [opensQuote, hc]; rfl
  exact ⟨⟨List.forall_mem_singleton.2 (by decide), fun _ _ => hopens⟩, ⟨List.forall_mem_nil _, fun _ _ => hopens⟩⟩

theorem pruned_squeezeFrom (inWord : Bool) (cs : List Char) : Pruned cs (squeezeFrom inWord cs) := by
  induction cs generalizing inWord with
  | nil => exact .nil
  | cons c rest ih =>
    cases hc : isBlank c with
    | false =>
      rw [squeezeFrom_word hc]
      exact .keep c (ih true)
    | true =>
      rw [squeezeFrom_blank hc]
      split
      · exact .put (standsFor_blank hc).1 (ih false)
      · exact .put (standsFor_blank hc).2 (ih false)

theorem mem_squeezeFrom {inWord : Bool} {cs : List Char} {c : Char} (h : c ∈ squeezeFrom inWord cs) :
    c ∈ cs ∨ c = ' ' := by
  induction cs generalizing inWord with
  | nil => cases h
  | cons d rest ih =>
    have hlater : ∀ inWord, c ∈ squeezeFrom inWord rest → c ∈ d :: rest ∨ c = ' ' := fun _ hc =>
      (ih hc).imp_left (.tail d)
    cases hd : isBlank d with
    | false =>
      rw [squeezeFrom_word hd] at h
      obtain rfl | h := List.mem_cons.1 h
      · exact .inl (.head _)
      · exact hlater true h
    | true =>
      rw [squeezeFrom_blank hd] at h
      split at h
      · obtain rfl | h := List.mem_cons.1 h
        · exact .inr rfl
        · exact hlater false h
      · exact hlater false h

/-! ## The normal form -/

structure Normal (cs : List Char) : Prop where
  doubles : NonePaired cs
  singles : NoneOpened true cs
  digits  : ∀ c ∈ cs, isDigit c = false
  blanks  : Spaced false cs

/-- **A template is in normal form.** -/
theorem normal_generalizeChars (cs : List Char) : Normal (generalizeChars cs) := by
  unfold generalizeChars squeeze
  generalize hunquoted : substitute singleQuoted (substitute doubleQuoted cs) = unquoted
  have hdoubles : NonePaired unquoted :=
    hunquoted ▸ (prunes_singleQuoted.substituteFrom true _).nonePaired (nonePaired_substituteFrom true cs)
  have hsingles : NoneOpened true unquoted :=
    hunquoted ▸ noneOpened_substituteFrom true _ true fun _ => .inl rfl
  have hnumbered : Pruned unquoted (substitute token unquoted) := prunes_token.substituteFrom true unquoted
  have hsqueezed := pruned_squeezeFrom false (substitute token unquoted)
  refine ⟨hsqueezed.nonePaired (hnumbered.nonePaired hdoubles), hsqueezed.noneOpened (hnumbered.noneOpened hsingles),
    fun c hc => ?_, spaced_squeezeFrom false _⟩
  obtain hc | rfl := mem_squeezeFrom hc
  · exact isDigit_substituteFrom_token true unquoted c hc
  · decide

/-- **No pass changes a text in normal form.** -/
theorem Normal.generalizeChars {cs : List Char} (h : Normal cs) : generalizeChars cs = cs := by
  unfold FormReplay.generalizeChars substitute squeeze
  rw [h.doubles.substituteFrom, h.singles.substituteFrom, substituteFrom_token_eq_self true cs h.digits,
    h.blanks.squeezeFrom]

/-- A text with no digit of any script, no blank at its ends, and no blanks but spaces that stand alone. -/
structure Tidy (cs : List Char) : Prop where
  digits : ∀ c ∈ cs, isDigit c = false
  head   : ∀ c ∈ cs.head?, isBlank c = false
  last   : ∀ c ∈ cs.getLast?, isBlank c = false
  spaces : ∀ c ∈ cs, isBlank c = true → c = ' '
  apart  : cs.IsChain fun a b => isBlank a = false ∨ isBlank b = false

theorem Normal.tidy {cs : List Char} (h : Normal cs) : Tidy cs :=
  ⟨h.digits, h.blanks.head, h.blanks.last, h.blanks.eq_space, h.blanks.apart⟩

/-- **Generalization reaches a normal form.**  A template has no digits, its words stand one space apart, and it is its own
template. -/
theorem generalize_normal (t : String) :
    Tidy (generalize t).toList ∧ generalize (generalize t) = generalize t := by
  have htemplate : (generalize t).toList = generalizeChars t.toList := String.toList_ofList
  have hnormal : Normal (generalize t).toList := htemplate ▸ normal_generalizeChars t.toList
  refine ⟨hnormal.tidy, ?_⟩
  calc generalize (generalize t)
      = String.ofList (generalizeChars (generalize t).toList) := rfl
    _ = String.ofList (generalize t).toList                   := congrArg _ hnormal.generalizeChars
    _ = generalize t                                          := String.ofList_toList

end FormReplay
