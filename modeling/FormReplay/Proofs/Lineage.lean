import FormReplay.Data.Detail
/-!
# Fields of the loops around

The row inside a chain of data loops keeps all their fields in one map, each under its own name and under that with its
source.  What stands there under a name is what was written last, whoever wrote it (`DataRow.get?_inside`).  So a
relationship finds the fields of its own parent, however deep it is nested, unless another field of the chain is
written under the same name: one whose own name has the source in it, or one of a source whose name has a colon.
-/
namespace FormReplay

/-! ## The last value written -/

theorem field?_append {β : Type} (name : String) (a b : List (String × β)) :
    field? name (a ++ b) = (field? name a).or (field? name b) := by
  induction a with
  | nil => rfl
  | cons p a ih =>
    rw [List.cons_append, field?, field?, ih]
    split <;> rfl

theorem field?_eq_none {β : Type} {name : String} {fields : List (String × β)} (h : ∀ p ∈ fields, p.1 ≠ name) :
    field? name fields = none := by
  induction fields with
  | nil => rfl
  | cons p fields ih =>
    rw [field?, if_neg (h p (.head _))]
    exact ih fun p hp => h p (.tail _ hp)

theorem Record.get?_foldl_put (r : Record) (fields : List (String × Json)) (name : String) :
    (fields.foldl (fun r p => r.put p.1 p.2) r).get? name = (field? name fields.reverse).or (r.get? name) := by
  induction fields generalizing r with
  | nil => rfl
  | cons p fields ih =>
    rw [List.foldl_cons, ih, get?_put, List.reverse_cons, field?_append, Option.or_assoc, field?, field?]
    split <;> rfl

namespace DataRow

/-! ## The row inside a chain of loops -/

/-- The row inside a chain of loops, given by their sources and items, the outermost first. -/
def inside (chain : List (String × Record)) : DataRow :=
  chain.foldl (fun row link => row.mergeItem link.1 link.2) empty

/-- What an item writes: each field under its own name, and then under that with the source. -/
def written (source : String) (fields : List (String × Json)) : List (String × Json) :=
  fields.flatMap fun p => [p, (qualified source p.1, p.2)]

def allWritten (chain : List (String × Record)) : List (String × Json) :=
  chain.flatMap fun link => written link.1 link.2.entries

theorem mergeFields_eq (source : String) (r : Record) (fields : List (String × Json)) :
    mergeFields source r fields = (written source fields).foldl (fun r p => r.put p.1 p.2) r := by
  rw [written, List.foldl_flatMap]
  rfl

theorem fields_foldl_mergeItem (row : DataRow) (chain : List (String × Record)) :
    (chain.foldl (fun row link => row.mergeItem link.1 link.2) row).fields =
      (allWritten chain).foldl (fun r p => r.put p.1 p.2) row.fields := by
  induction chain generalizing row with
  | nil => rfl
  | cons link chain ih =>
    have hcons : allWritten (link :: chain) = written link.1 link.2.entries ++ allWritten chain := List.flatMap_cons
    rw [List.foldl_cons, ih, hcons, List.foldl_append, ← mergeFields_eq]
    rfl

theorem lineage_foldl_mergeItem (row : DataRow) (chain : List (String × Record)) :
    (chain.foldl (fun row link => row.mergeItem link.1 link.2) row).lineage = row.lineage ++ chain.map (·.1) := by
  induction chain generalizing row with
  | nil => rw [List.map_nil, List.append_nil]; rfl
  | cons link chain ih =>
    rw [List.foldl_cons, ih, mergeItem, List.append_assoc]
    rfl

/-- **What stands under a name is what the chain wrote there last.** -/
theorem get?_inside (chain : List (String × Record)) (name : String) :
    (inside chain).fields.get? name = field? name (allWritten chain).reverse := by
  have hempty : (empty.fields).get? name = none := rfl
  rw [inside, fields_foldl_mergeItem, Record.get?_foldl_put, hempty, Option.or_none]

/-! ## Names that clash -/

/-- The text of a field as a relationship takes it: none of a field that is absent or blank. -/
def shown (v : Option Json) : Option String := (v.map Json.plain).filter fun s => !isBlankText s

/-- Nothing in a chain but the field itself is written under the name of a source's field. -/
def Unclashed (chain : List (String × Record)) (source field : String) : Prop :=
  ∀ link ∈ chain, ∀ p ∈ link.2.entries,
    p.1 ≠ qualified source field ∧ (qualified link.1 p.1 = qualified source field → link.1 = source)

theorem qualified_inj {source a b : String} (h : qualified source a = qualified source b) : a = b := by
  have hlist := congrArg String.toList h
  simp only [qualified, String.toList_append, List.append_assoc, List.append_cancel_left_eq] at hlist
  exact String.toList_inj.1 hlist

theorem toList_qualified (source field : String) :
    (qualified source field).toList = source.toList ++ ':' :: field.toList := by
  simp [qualified]

theorem takeWhile_qualified {source : String} (h : ':' ∉ source.toList) (field : String) :
    (qualified source field).toList.takeWhile (· != ':') = source.toList := by
  have hbefore : ∀ c ∈ source.toList, (c != ':') = true := by
    intro c hc
    rw [bne_iff_ne]
    rintro rfl
    exact h hc
  rw [toList_qualified, List.takeWhile_append_of_pos hbefore, List.takeWhile_cons_of_neg (by simp), List.append_nil]

theorem unclashed_of_colonless {chain : List (String × Record)} {source : String} (hsource : ':' ∉ source.toList)
    (hchain : ∀ link ∈ chain, ':' ∉ link.1.toList ∧ ∀ p ∈ link.2.entries, ':' ∉ p.1.toList) (field : String) :
    Unclashed chain source field := by
  intro link hlink p hp
  obtain ⟨hother, hfields⟩ := hchain link hlink
  refine ⟨fun hname => hfields p hp ?_, fun hname => ?_⟩
  · rw [hname, toList_qualified]
    exact List.mem_append_right _ (.head _)
  · have hlist := congrArg (fun name => name.toList.takeWhile (· != ':')) hname
    rw [takeWhile_qualified hother, takeWhile_qualified hsource] at hlist
    exact String.toList_inj.1 hlist

section Lookup

variable {source field : String}

theorem field?_written {fields : List (String × Json)} (hsorted : SortedFields fields)
    (h : ∀ p ∈ fields, p.1 ≠ qualified source field) :
    field? (qualified source field) (written source fields).reverse = field? field fields := by
  induction fields with
  | nil => rfl
  | cons p fields ih =>
    obtain ⟨hlt, hsorted⟩ := List.pairwise_cons.1 hsorted
    rw [written, List.flatMap_cons, List.reverse_append, field?_append]
    refine (congrArg (Option.or · _) (ih hsorted fun p hp => h p (.tail _ hp))).trans ?_
    have hlast : field? (qualified source field) [p, (qualified source p.1, p.2)].reverse =
        if p.1 = field then some p.2 else none := by
      rw [List.reverse_cons, List.reverse_singleton, List.singleton_append, field?, field?, if_neg (h p (.head _)), field?]
      by_cases hp : p.1 = field
      · rw [if_pos hp, if_pos (congrArg _ hp)]
      · rw [if_neg hp, if_neg fun hq => hp (qualified_inj hq)]
    rw [hlast, field?]
    by_cases hp : p.1 = field
    · -- The names rise, so the field is not among those that follow.
      have hnone : field? field fields = none :=
        field?_eq_none fun q hq hname => absurd (hlt q hq) (by rw [hp, hname]; exact String.lt_irrefl _)
      rw [if_pos hp, if_pos hp, hnone, Option.none_or]
    · rw [if_neg hp, if_neg hp, Option.or_none]

theorem field?_allWritten_eq_none {chain : List (String × Record)} (hclash : Unclashed chain source field)
    (hothers : ∀ link ∈ chain, link.1 ≠ source) :
    field? (qualified source field) (allWritten chain).reverse = none := by
  refine field?_eq_none fun q hq => ?_
  obtain ⟨link, hlink, hwritten⟩ := List.mem_flatMap.1 (List.mem_reverse.1 hq)
  obtain ⟨p, hp, hq⟩ := List.mem_flatMap.1 hwritten
  obtain ⟨hbare, hqualified⟩ := hclash link hlink p hp
  rcases List.mem_cons.1 hq with rfl | hq
  · exact hbare
  · rw [List.mem_singleton.1 hq]
    exact fun hname => hothers link hlink (hqualified hname)

theorem get?_inside_own {chain : List (String × Record)} (hdistinct : (chain.map (·.1)).Nodup) {item : Record}
    (hlink : (source, item) ∈ chain) (hclash : Unclashed chain source field) :
    (inside chain).fields.get? (qualified source field) = item.get? field := by
  obtain ⟨outer, inner, rfl⟩ := List.append_of_mem hlink
  rw [List.map_append, List.map_cons, List.nodup_append, List.nodup_cons] at hdistinct
  obtain ⟨-, ⟨hinner, -⟩, houter⟩ := hdistinct
  have hout : field? (qualified source field) (allWritten outer).reverse = none :=
    field?_allWritten_eq_none (fun link hl => hclash link (List.mem_append_left _ hl)) fun link hl =>
      houter link.1 (List.mem_map_of_mem hl) source (.head _)
  have hin : field? (qualified source field) (allWritten inner).reverse = none :=
    field?_allWritten_eq_none (fun link hl => hclash link (List.mem_append_right _ (.tail _ hl))) fun link hl hsame =>
      hinner (List.mem_map.2 ⟨link, hl, hsame⟩)
  have hown : field? (qualified source field) (written source item.entries).reverse = field? field item.entries :=
    field?_written item.sorted fun p hp => (hclash _ (List.mem_append_right _ (.head _)) p hp).1
  rw [get?_inside, allWritten, List.flatMap_append, List.flatMap_cons, List.reverse_append, List.reverse_append,
    List.append_assoc, field?_append, field?_append]
  refine (congrArg (Option.or · _) hin).trans ?_
  rw [Option.none_or, hown]
  exact (congrArg (Option.or _) hout).trans Option.or_none

end Lookup

/-! ## Parents -/

theorem descendsFrom_inside {chain : List (String × Record)} {source : String} (hsource : source ∈ chain.map (·.1)) :
    (inside chain).descendsFrom source = true := by
  have hlineage : (inside chain).lineage = chain.map (·.1) := lineage_foldl_mergeItem empty chain
  rw [descendsFrom, hlineage]
  exact List.contains_iff_mem.2 hsource

theorem parentValue?_inside {chain : List (String × Record)} {source : String} (hsource : source ∈ chain.map (·.1))
    (field : String) :
    (inside chain).parentValue? source field = shown ((inside chain).fields.get? (qualified source field)) :=
  if_pos (descendsFrom_inside hsource)

end DataRow

open DataRow

theorem Relationship.keys?_eq {r : Relationship} {row : DataRow} (text? : String → Option String)
    (hparent : row.descendsFrom r.parentSource = true) (hmappings : r.mappings ≠ [])
    (h : ∀ m ∈ r.mappings, row.parentValue? r.parentSource m.parentField = text? m.parentField) :
    r.keys? row = r.mappings.mapM fun m => (text? m.parentField).map (m.childField, ·) := by
  have hgo : ¬(r.mappings.isEmpty || !row.descendsFrom r.parentSource) = true := by
    simp [hparent, hmappings]
  rw [keys?, if_neg hgo]
  generalize r.mappings = mappings at h
  induction mappings with
  | nil => rfl
  | cons m mappings ih =>
    rw [List.mapM_cons, List.mapM_cons, h m (.head _), ih fun m hm => h m (.tail _ hm)]

/-- **The fields of the loops around.**  In a chain of loops over distinct sources a parent field has the text of what
was written last under its name.  That is the parent's own field, and a relationship asks for it at any depth, if
nothing else in the chain is written under that name; and where no name has a colon, nothing is. -/
theorem parents_keep_their_fields {chain : List (String × Record)} (hdistinct : (chain.map (·.1)).Nodup)
    {source : String} {item : Record} (hlink : (source, item) ∈ chain) :
    (∀ field, (inside chain).parentValue? source field =
      shown (field? (qualified source field) (allWritten chain).reverse)) ∧
    (∀ field, Unclashed chain source field → (inside chain).parentValue? source field = shown (item.get? field)) ∧
    (∀ r : Relationship, r.parentSource = source → r.mappings ≠ [] →
      (∀ m ∈ r.mappings, Unclashed chain source m.parentField) →
      r.keys? (inside chain) = r.mappings.mapM fun m => (shown (item.get? m.parentField)).map (m.childField, ·)) ∧
    ((∀ link ∈ chain, ':' ∉ link.1.toList ∧ ∀ p ∈ link.2.entries, ':' ∉ p.1.toList) →
      ∀ field, Unclashed chain source field) := by
  have hsource : source ∈ chain.map (·.1) := List.mem_map_of_mem hlink
  have hown : ∀ field, Unclashed chain source field →
      (inside chain).parentValue? source field = shown (item.get? field) := fun field hclash => by
    rw [parentValue?_inside hsource, get?_inside_own hdistinct hlink hclash]
  refine ⟨fun field => ?_, hown, ?_, fun hchain field => ?_⟩
  · rw [parentValue?_inside hsource, get?_inside]
  · rintro r rfl hmappings hclash
    exact Relationship.keys?_eq (fun field => shown (item.get? field)) (descendsFrom_inside hsource) hmappings
      fun m hm => hown _ (hclash m hm)
  · exact unclashed_of_colonless (hchain _ hlink).1 hchain field

def partOfOrder : List (String × Record) :=
  [("orders", .ofFields [("id", .str "A")]), ("lines", .ofFields [("id", .int 7), ("sku", .str "S")]),
    ("parts", .ofFields [("id", .str "P")])]

/-- The order is found from the part of its line, though both have ids of their own. -/
theorem order_found_from_part :
    (partOfOrder.map (·.1)).Nodup ∧ ("orders", .ofFields [("id", .str "A")]) ∈ partOfOrder ∧
    (inside partOfOrder).parentValue? "orders" "id" = some "A" := by
  have hdistinct : (partOfOrder.map (·.1)).Nodup := by decide
  have hlink : ("orders", .ofFields [("id", .str "A")]) ∈ partOfOrder := .head _
  obtain ⟨-, hown, -, hcolonless⟩ := parents_keep_their_fields hdistinct hlink
  refine ⟨hdistinct, hlink, (hown "id" (hcolonless ?_ "id")).trans ?_⟩
  · decide +kernel
  · decide +kernel

/-- **A field of another source takes the place of the parent's own**: the id of the order is not what the relationship
of the parts goes by. -/
theorem foreign_field_overrides :
    let order : Record := .ofFields [("id", .str "A")]
    let chain := [("orders", order), ("lines", .ofFields [("orders:id", .str "B")])]
    let parts : Dataset := ⟨"parts", [.ofFields [("order", .str "A")], .ofFields [("order", .str "B")]]⟩
    (chain.map (·.1)).Nodup ∧ shown (order.get? "id") = some "A" ∧
    (inside chain).parentValue? "orders" "id" = some "B" ∧
    (selectDetailRows parts [⟨"orders", "parts", [⟨"id", "order"⟩]⟩] (inside chain)).rows.map
      (fun item => shown (item.get? "order")) = [some "B"] := by
  decide +kernel

end FormReplay
