import FormReplay.Proofs.Structure.Tables
import FormReplay.Run.Conduct
/-!
# Rows of detail loops

Which rows a loop over a detail dataset takes is settled by the first relationship that has the dataset as child and that
the row around resolves, and by nothing else (`Selects`).  Where the dataset is not known, or has relationships of which
the row resolves none, the loop takes no row and the walk goes on behind its end.
-/
namespace FormReplay

open DataRow (qualified isBlankText)

/-! ## Fields of parent and child -/

namespace FieldMapping

def Known (m : FieldMapping) (source : String) (row : DataRow) : Prop :=
  ∃ parent ∈ row.fields.get? (qualified source m.parentField), isBlankText parent.plain = false

/-- An item has the child field, with the text that the parent field has in the row, blanks around them apart. -/
def Joins (m : FieldMapping) (source : String) (row : DataRow) (item : Record) : Prop :=
  ∃ child ∈ item.get? m.childField, ∃ parent ∈ row.fields.get? (qualified source m.parentField),
    trimBlanks child.plain.toList = trimBlanks parent.plain.toList

instance (m : FieldMapping) (source : String) (row : DataRow) : DecidablePred (m.Joins source row) := fun item =>
  inferInstanceAs (Decidable (∃ child ∈ item.get? m.childField,
    ∃ parent ∈ row.fields.get? (qualified source m.parentField),
      trimBlanks child.plain.toList = trimBlanks parent.plain.toList))

end FieldMapping

namespace DataRow

variable {row : DataRow} {source field text : String}

theorem mem_lineage_of_parentValue? (h : row.parentValue? source field = some text) : source ∈ row.lineage := by
  unfold parentValue? at h
  split at h
  · exact List.contains_iff_mem.1 ‹_›
  · cases h

theorem parentValue?_eq_some (hsource : source ∈ row.lineage) :
    row.parentValue? source field = some text ↔
      ∃ parent ∈ row.fields.get? (qualified source field), isBlankText parent.plain = false ∧ parent.plain = text := by
  rw [parentValue?, descendsFrom, if_pos (List.contains_iff_mem.2 hsource), Option.filter_eq_some_iff]
  constructor
  · rintro ⟨htext, hblank⟩
    obtain ⟨parent, hparent, rfl⟩ := Option.map_eq_some_iff.1 htext
    exact ⟨parent, hparent, by simpa using hblank, rfl⟩
  · rintro ⟨parent, hparent, hblank, rfl⟩
    exact ⟨Option.map_eq_some_iff.2 ⟨parent, hparent, rfl⟩, by simpa using hblank⟩

end DataRow

/-! ## Relationships that a row resolves -/

namespace Relationship

/-- Whether a row resolves a relationship: a loop over its parent is around the row, and all of the fields that are
mapped, of which there is one at least, are known there. -/
structure Resolves (r : Relationship) (row : DataRow) : Prop where
  mapped : r.mappings ≠ []
  inside : r.parentSource ∈ row.lineage
  known  : ∀ m ∈ r.mappings, m.Known r.parentSource row

def Joins (r : Relationship) (row : DataRow) (item : Record) : Prop := ∀ m ∈ r.mappings, m.Joins r.parentSource row item

instance (r : Relationship) (row : DataRow) : DecidablePred (r.Joins row) := fun item =>
  inferInstanceAs (Decidable (∀ m ∈ r.mappings, m.Joins r.parentSource row item))

def key? (r : Relationship) (row : DataRow) (m : FieldMapping) : Option (String × String) :=
  (row.parentValue? r.parentSource m.parentField).map (m.childField, ·)

variable {r : Relationship} {row : DataRow} {m : FieldMapping} {item : Record}

theorem known_iff (hinside : r.parentSource ∈ row.lineage) :
    m.Known r.parentSource row ↔ ∃ key, r.key? row m = some key := by
  constructor
  · rintro ⟨parent, hparent, hblank⟩
    have htext := (DataRow.parentValue?_eq_some hinside).2 ⟨parent, hparent, hblank, rfl⟩
    exact ⟨(m.childField, parent.plain), by rw [key?, htext]; rfl⟩
  · rintro ⟨key, hkey⟩
    obtain ⟨text, htext, -⟩ := Option.map_eq_some_iff.1 hkey
    obtain ⟨parent, hparent, hblank, -⟩ := (DataRow.parentValue?_eq_some hinside).1 htext
    exact ⟨parent, hparent, hblank⟩

theorem agrees_key {key : String × String} (hkey : r.key? row m = some key) :
    item.agrees [key] = true ↔ m.Joins r.parentSource row item := by
  obtain ⟨text, htext, rfl⟩ := Option.map_eq_some_iff.1 hkey
  have hinside := DataRow.mem_lineage_of_parentValue? htext
  obtain ⟨parent, hparent, -, rfl⟩ := (DataRow.parentValue?_eq_some hinside).1 htext
  rw [Option.mem_def] at hparent
  unfold Record.agrees FieldMapping.Joins
  cases hchild : item.get? m.childField with
  | none       => simp [hchild]
  | some child => simp [hchild, hparent, sameTrimmed]

theorem mapM_key (hinside : r.parentSource ∈ row.lineage) (mappings : List FieldMapping) :
    (mappings.mapM (r.key? row) = none ∧ ¬∀ m ∈ mappings, m.Known r.parentSource row) ∨
      ∃ keys, mappings.mapM (r.key? row) = some keys ∧ (∀ m ∈ mappings, m.Known r.parentSource row) ∧
        ∀ item : Record, item.agrees keys = true ↔ ∀ m ∈ mappings, m.Joins r.parentSource row item := by
  induction mappings with
  | nil => exact .inr ⟨[], rfl, nofun, fun item => ⟨nofun, fun _ => rfl⟩⟩
  | cons m mappings ih =>
    rw [List.mapM_cons]
    cases hkey : r.key? row m with
    | none =>
      refine .inl ⟨rfl, fun h => ?_⟩
      obtain ⟨key, hsome⟩ := (known_iff hinside).1 (h m (.head _))
      rw [hkey] at hsome
      cases hsome
    | some key =>
      rcases ih with ⟨hnone, hunknown⟩ | ⟨keys, hkeys, hknown, hagrees⟩
      · refine .inl ⟨by rw [hnone]; rfl, fun h => hunknown fun m hm => h m (.tail _ hm)⟩
      · refine .inr ⟨key :: keys, by rw [hkeys]; rfl, ?_, fun item => ?_⟩
        · exact List.forall_mem_cons.2 ⟨(known_iff hinside).2 ⟨key, hkey⟩, hknown⟩
        · have hcons : item.agrees (key :: keys) = (item.agrees [key] && item.agrees keys) := by
            simp [Record.agrees]
          rw [hcons, Bool.and_eq_true, agrees_key hkey, hagrees, List.forall_mem_cons]

/-- **A relationship has its keys in the rows that resolve it**, and they pick the items that agree. -/
theorem keys?_spec (r : Relationship) (row : DataRow) :
    (r.keys? row = none ∧ ¬r.Resolves row) ∨
      ∃ keys, r.keys? row = some keys ∧ r.Resolves row ∧ ∀ item : Record, item.agrees keys = true ↔ r.Joins row item := by
  unfold keys?
  by_cases hmapped : r.mappings = []
  · exact .inl ⟨by rw [hmapped]; rfl, fun h => h.mapped hmapped⟩
  by_cases hinside : r.parentSource ∈ row.lineage
  · have hgo : ¬(r.mappings.isEmpty || !row.descendsFrom r.parentSource) = true := by
      simp [hmapped, DataRow.descendsFrom, hinside]
    rw [if_neg hgo]
    rcases mapM_key hinside r.mappings with ⟨hnone, hunknown⟩ | ⟨keys, hkeys, hknown, hagrees⟩
    · exact .inl ⟨hnone, fun h => hunknown h.known⟩
    · exact .inr ⟨keys, hkeys, ⟨hmapped, hinside, hknown⟩, hagrees⟩
  · refine .inl ⟨if_pos ?_, fun h => hinside h.inside⟩
    simp [DataRow.descendsFrom, hinside]

end Relationship

/-! ## The selection -/

section Selection

variable {relationships : List Relationship} {child : String} {row : DataRow} {i j start : Nat} {q r : Relationship}
  {dataset : Dataset} {selection other : DetailSelection}

/-- The first of some relationships, as declared, that has the child and that the row resolves. -/
structure FirstResolving (relationships : List Relationship) (child : String) (row : DataRow) (i : Nat)
    (r : Relationship) : Prop where
  declared : relationships[i]? = some r
  serves   : r.childSource = child
  resolves : r.Resolves row
  first    : ∀ j < i, ∀ q, relationships[j]? = some q → q.childSource = child → ¬q.Resolves row

theorem FirstResolving.cons (h : FirstResolving relationships child row i r)
    (hq : q.childSource = child → ¬q.Resolves row) : FirstResolving (q :: relationships) child row (i + 1) r := by
  refine ⟨h.declared, h.serves, h.resolves, fun j hj p hp hchild => ?_⟩
  cases j with
  | zero =>
    cases hp
    exact hq hchild
  | succ j => exact h.first j (Nat.lt_of_succ_lt_succ hj) p hp hchild

theorem FirstResolving.unique (hr : FirstResolving relationships child row i r)
    (hq : FirstResolving relationships child row j q) : i = j ∧ r = q := by
  have hij : i = j := by
    rcases Nat.lt_trichotomy i j with hlt | heq | hlt
    · exact absurd hr.resolves (hq.first i hlt r hr.declared hr.serves)
    · exact heq
    · exact absurd hq.resolves (hr.first j hlt q hq.declared hq.serves)
  subst hij
  exact ⟨rfl, Option.some.inj (hr.declared.symm.trans hq.declared)⟩

/-- What a search tells that counts from `start`: the keys of the first relationship that the row resolves, or that it
resolves none. -/
def FoundFirst (relationships : List Relationship) (child : String) (row : DataRow) (start : Nat) :
    Option (Nat × List (String × String)) → Prop
  | none           => ∀ r ∈ relationships, r.childSource = child → ¬r.Resolves row
  | some (k, keys) => ∃ i r, k = start + i ∧ FirstResolving relationships child row i r ∧
      ∀ item : Record, item.agrees keys = true ↔ r.Joins row item

theorem FoundFirst.cons {found : Option (Nat × List (String × String))}
    (h : FoundFirst relationships child row (start + 1) found) (hq : q.childSource = child → ¬q.Resolves row) :
    FoundFirst (q :: relationships) child row start found := by
  cases found with
  | none => exact List.forall_mem_cons.2 ⟨hq, h⟩
  | some found =>
    obtain ⟨i, r, hk, hfirst, hkeys⟩ := h
    exact ⟨i + 1, r, by rw [hk, Nat.add_right_comm, Nat.add_assoc], hfirst.cons hq, hkeys⟩

theorem foundFirst_firstResolved (child : String) (row : DataRow) (start : Nat) (relationships : List Relationship) :
    FoundFirst relationships child row start (firstResolved child row start relationships) := by
  induction relationships generalizing start with
  | nil => exact nofun
  | cons q relationships ih =>
    unfold firstResolved
    by_cases hchild : q.childSource = child
    · rw [if_pos hchild]
      rcases q.keys?_spec row with ⟨hnone, hq⟩ | ⟨keys, hkeys, hq, hagrees⟩
      · rw [hnone]
        exact (ih (start + 1)).cons fun _ => hq
      · rw [hkeys]
        exact ⟨0, q, rfl, ⟨rfl, hchild, hq, nofun⟩, hagrees⟩
    · rw [if_neg hchild]
      exact (ih (start + 1)).cons fun h => absurd h hchild

inductive Selects (dataset : Dataset) (relationships : List Relationship) (row : DataRow) : DetailSelection → Prop
  | unrelated : (∀ r ∈ relationships, r.childSource ≠ dataset.name) →
      Selects dataset relationships row (.unrelated dataset.rows)
  | filtered {i : Nat} {r : Relationship} : FirstResolving relationships dataset.name row i r →
      Selects dataset relationships row (.filtered i (dataset.rows.filter fun item => r.Joins row item))
  | unresolvable : (∃ r ∈ relationships, r.childSource = dataset.name) →
      (∀ r ∈ relationships, r.childSource = dataset.name → ¬r.Resolves row) →
      Selects dataset relationships row .unresolvable

theorem Selects.unique (h : Selects dataset relationships row selection) (h' : Selects dataset relationships row other) :
    selection = other := by
  have hmem : ∀ {i r}, FirstResolving relationships dataset.name row i r → r ∈ relationships := fun h =>
    List.mem_of_getElem? h.declared
  cases h with
  | unrelated hnone =>
    cases h' with
    | unrelated               => rfl
    | filtered hfirst         => exact absurd hfirst.serves (hnone _ (hmem hfirst))
    | unresolvable hsome hall =>
      obtain ⟨r, hr, hchild⟩ := hsome
      exact absurd hchild (hnone r hr)
  | filtered hfirst =>
    cases h' with
    | unrelated hnone       => exact absurd hfirst.serves (hnone _ (hmem hfirst))
    | filtered hother       =>
      obtain ⟨rfl, rfl⟩ := hfirst.unique hother
      rfl
    | unresolvable _ hall   => exact absurd hfirst.resolves (hall _ (hmem hfirst) hfirst.serves)
  | unresolvable hsome hall =>
    cases h' with
    | unrelated hnone =>
      obtain ⟨r, hr, hchild⟩ := hsome
      exact absurd hchild (hnone r hr)
    | filtered hfirst => exact absurd hfirst.resolves (hall _ (hmem hfirst) hfirst.serves)
    | unresolvable    => rfl

theorem selects_selectDetailRows (dataset : Dataset) (relationships : List Relationship) (row : DataRow) :
    Selects dataset relationships row (selectDetailRows dataset relationships row) := by
  unfold selectDetailRows
  by_cases hnone : ∀ r ∈ relationships, r.childSource ≠ dataset.name
  · rw [if_pos (by simpa using hnone)]
    exact .unrelated hnone
  · rw [if_neg (by simpa using hnone)]
    have hfound := foundFirst_firstResolved dataset.name row 0 relationships
    cases hsearch : firstResolved dataset.name row 0 relationships with
    | none =>
      rw [hsearch] at hfound
      exact .unresolvable (by simpa using hnone) hfound
    | some found =>
      rw [hsearch] at hfound
      obtain ⟨i, r, hk, hfirst, hagrees⟩ := hfound
      have hrows : dataset.rows.filter (·.agrees found.2) = dataset.rows.filter fun item => r.Joins row item :=
        List.filter_congr fun item _ => Bool.eq_iff_iff.2 ((hagrees item).trans decide_eq_true_iff.symm)
      simp only [hrows, hk, Nat.zero_add]
      exact .filtered hfirst

end Selection

/-! ## Loops without rows -/

/-- A loop over a source has no rows: the source is not the primary one, and either no dataset has its name, or there are
relationships for it of which the row resolves none. -/
structure Program.LacksRows (p : Program) (source : String) (row : DataRow) : Prop where
  notPrimary : source ≠ p.input.primary.name
  noneFound  : ∀ dataset ∈ p.input.detail? source,
    Selects dataset p.workflow.settings.relationships row .unresolvable

variable {σ : Type}

theorem Program.LacksRows.loopRows {p : Program} {source : String} {row : DataRow} (h : p.LacksRows source row) :
    p.loopRows (some source) row = ⟨source, false, []⟩ := by
  simp only [Program.loopRows]
  rw [if_neg h.notPrimary]
  cases hdetail : p.input.detail? source with
  | none => rfl
  | some dataset =>
    have hnone : selectDetailRows dataset p.workflow.settings.relationships row = .unresolvable :=
      (selects_selectDetailRows dataset _ row).unique (h.noneFound dataset hdetail)
    simp only [hnone, DetailSelection.rows]

/-- A loop without rows does nothing but set the row back, whatever its body. -/
theorem runLoop_lacksRows (env : Env σ) {p : Program} {start : Nat} {id : Option String} {source : String}
    {limit : Option UInt64} {row : DataRow} (h : p.LacksRows source row) (body : DataRow → Engine σ Signal) :
    runLoop env p start ⟨id, .data (some source) limit⟩ row body = do
      modifyContext fun c => { c with row := row }
      return .next := by
  have hitems : (limited limit (p.loopRows (some source) row).items).toArray.size = 0 := by
    rw [h.loopRows]
    cases limit <;> simp [limited]
  simp only [runLoop]
  rw [hitems]
  rfl

/-- A loop that is passed by: it ends without an error or a turn, whatever is inside it, and the walk goes on behind its
end. -/
structure PassesBy (env : Env σ) (p : Program) (index : Nat) (spec : LoopSpec) (row : DataRow) : Prop where
  noTurn (body : DataRow → Engine σ Signal) (s : Session σ) :
    runLoop env p index spec row body s = .ok .next { s with context := { s.context with row := row } }
  goesOn : ∃ stop, p.tables.loopToEnd.target? index = some stop ∧ ∀ fuel first last, index < last →
    walk env p (fuel + 1) first last index row = (do
      checkpoint env
      visit index
      modifyContext fun c => { c with row := row }
      walk env p fuel first last (stop + 1) row)

theorem passesBy_of_lacksRows (env : Env σ) {p : Program} (hcovers : p.tables.Covers p.workflow) {index : Nat}
    {step : Step} {spec : LoopSpec} {source : String} {limit : Option UInt64} {row : DataRow}
    (hstep : p.workflow.steps[index]? = some step) (hkind : step.kind = .loopStart spec)
    (hmode : spec.mode = .data (some source) limit) (h : p.LacksRows source row) : PassesBy env p index spec row := by
  obtain ⟨id, mode⟩ := spec
  obtain rfl : mode = .data (some source) limit := hmode
  obtain ⟨stop, hstop⟩ := Option.ne_none_iff_exists'.1 (hcovers.loopEnd index step _ hstep hkind)
  refine ⟨fun body s => ?_, stop, hstop, fun fuel first last hindex => ?_⟩
  · rw [runLoop_lacksRows env h]
    rfl
  · rw [walk, if_neg (Nat.not_le.2 hindex)]
    simp only [hstep, dispatch, hkind, target, hstop, runLoop_lacksRows env h, pure_bind, bind_assoc, Signal.moveAfterLoop]

/-- **The rows of detail loops.**  The rows of a dataset are selected as the first relationship has it that the row around
resolves.  In a program that is executed, a loop over a source that has no rows for the row around is passed by. -/
theorem detail_loops_take_the_rows_selected (env : Env σ) (w : Workflow) (input : RunInput) (o : RunOptions)
    (row : DataRow) :
    (∀ (dataset : Dataset) (relationships : List Relationship) (selection : DetailSelection),
      selectDetailRows dataset relationships row = selection ↔ Selects dataset relationships row selection) ∧
    (w.analyze.2 = [] → ∀ index step spec source limit, w.steps[index]? = some step → step.kind = .loopStart spec →
      spec.mode = .data (some source) limit → (w.program w.analyze.1 input o).LacksRows source row →
      PassesBy env (w.program w.analyze.1 input o) index spec row) := by
  constructor
  · intro dataset relationships selection
    constructor
    · rintro rfl
      exact selects_selectDetailRows dataset relationships row
    · exact (selects_selectDetailRows dataset relationships row).unique
  · intro hsound index step spec source limit hstep hkind hmode hlacks
    exact passesBy_of_lacksRows env (w.covers_analyze hsound) hstep hkind hmode hlacks

def ordersByCustomer : Workflow where
  steps := [{ kind := .loopStart { mode := .data (some "orders") none } }, { kind := .action .click {} },
    { kind := .loopEnd none }, { kind := .label "behind" }]
  settings := { relationships := [⟨"customers", "orders", [⟨"id", "customer"⟩]⟩] }

/-- There are orders, and yet the loop over those of a customer without an id is passed by. -/
theorem orders_passed_by :
    let p := ordersByCustomer.program ordersByCustomer.analyze.1
      ⟨⟨"customers", []⟩, [⟨"orders", [.ofFields [("customer", .str "7")]]⟩]⟩ {}
    let ada : DataRow := .ofItem "customers" (.ofFields [("name", .str "Ada")])
    ordersByCustomer.analyze.2 = [] ∧ p.LacksRows "orders" ada ∧
    PassesBy (⟨.inert, {}, {}, 10, ⟨0, 0⟩⟩ : Env Unit) p 0 { mode := .data (some "orders") none } ada := by
  intro p ada
  have hsound : ordersByCustomer.analyze.2 = [] := by decide +kernel
  have hunknown : ada.fields.get? (qualified "customers" "id") = none := by decide +kernel
  have hnone : ∀ r ∈ ordersByCustomer.settings.relationships, r.childSource = "orders" → ¬r.Resolves ada := by
    intro r hr _ hresolves
    obtain rfl := List.mem_singleton.1 hr
    obtain ⟨parent, hparent, -⟩ := hresolves.known _ (.head _)
    cases hunknown.symm.trans hparent
  have hlacks : p.LacksRows "orders" ada := by
    refine ⟨by decide, fun dataset hdataset => ?_⟩
    cases hdataset
    exact .unresolvable ⟨_, .head _, rfl⟩ hnone
  exact ⟨hsound, hlacks, (detail_loops_take_the_rows_selected _ ordersByCustomer _ _ ada).2 hsound 0 _ _ "orders" none
    rfl rfl rfl hlacks⟩

-- the loop over a dataset that is not there is left for the step behind its end
example :
    let loop : Workflow := { steps := [
      { kind := .loopStart { mode := .data (some "orders") none } }, { kind := .action .click {} },
      { kind := .loopEnd none }, { kind := .label "behind" }] }
    (run ⟨.inert, {}, {}, 10, ⟨0, 0⟩⟩ loop ⟨⟨"customers", []⟩, []⟩ { host := () }).map
      (fun done => done.trace.filterMap fun e => match e.moment with
        | .visited i => some i
        | _          => none) = some [0, 3] := by
  decide +kernel

end FormReplay
