import FormReplay.Workflow.Document
/-!
# Fields that were written

What was written as JSON is read back off the tree itself, or off a payload in which it was set aside.  Of both ways to
show a tree (`ReadsBack`) hold the same rules: a field that stands once among those written is read as it was written,
whether it must be there, has a default, or is left out where it is absent.
-/
namespace FormReplay

open Readable

variable {α β : Type}

def Fields.shown (tree : Json → β) (fs : Fields Json) : Fields β := fs.map fun p => (p.1, tree p.2)

/-- A notation in which a tree is shown as it is. -/
structure ReadsBack [Readable β] (tree : Json → β) : Prop where
  string (s : String) : string? (tree (.str s)) = some s
  bool (b : Bool) : bool? (tree (.bool b)) = some b
  nat (n : Nat) : nat? (tree (.ofNat n)) = some n
  int (n : Int) : int? (tree (.int n)) = some n
  items (l : List Json) : items? (tree (.arr l)) = some (l.map tree)
  entries (fs : Fields Json) : entries? (tree (.obj fs)) = some (fs.shown tree)
  fields (names : List String) (fs : Fields Json) : fields? names (tree (.obj fs)) = some (fs.shown tree)
  name (names : List String) (s : String) : name? names (tree (.str s)) = some s
  form (forms : List String) (s : String) : form? forms (tree (.str s)) = some s
  option (j : Json) : j ≠ .null → option? (tree j) = some (some (tree j))
  parts (fs : Fields Json) : parts? (tree (.obj fs)) = some (.map (fs.map fun p => (tree (.str p.1), tree p.2)))
  payload (j : Json) : payload? (tree j) = some (.value j)

theorem readsBack_json : ReadsBack (id : Json → Json) where
  string _ := rfl
  bool _ := rfl
  nat _ := rfl
  int _ := rfl
  items l := congrArg some (List.map_id l).symm
  entries fs := congrArg some (List.map_id fs).symm
  fields _ fs := congrArg some (List.map_id fs).symm
  name _ _ := rfl
  form _ _ := rfl
  option j hj := by cases j <;> first | rfl | exact absurd rfl hj
  parts _ := rfl
  payload _ := rfl

theorem mapM_map {γ δ : Type} {f : α → Option γ} {g : δ → α} {k : δ → γ} {l : List δ}
    (h : ∀ a ∈ l, f (g a) = some (k a)) : (l.map g).mapM f = some (l.map k) := by
  induction l with
  | nil => rfl
  | cons a l ih =>
    rw [List.map_cons, List.mapM_cons, h a (.head _), ih fun a ha => h a (.tail _ ha)]
    rfl

theorem mem_of_mapM {γ : Type} {f : α → Option γ} {l : List α} {m : List γ} (h : l.mapM f = some m) {c : γ}
    (hc : c ∈ m) : ∃ a ∈ l, f a = some c := by
  induction l generalizing m with
  | nil =>
    cases h
    cases hc
  | cons a l ih =>
    simp only [List.mapM_cons, Option.bind_eq_bind, Option.bind_eq_some_iff, Option.pure_def, Option.some.injEq] at h
    obtain ⟨first, hfirst, rest, hrest, rfl⟩ := h
    obtain rfl | hc := List.mem_cons.1 hc
    · exact ⟨a, .head _, hfirst⟩
    · obtain ⟨b, hb, hread⟩ := ih hrest hc
      exact ⟨b, .tail _ hb, hread⟩

theorem fields?_setAside (names : List String) (fs : Fields Json) :
    fields? names (Payload.map (fs.map fun p => (.value (.str p.1), .value p.2))) =
      some (fs.shown Payload.value) := by
  simp only [Readable.fields?, Payload.fields?, Payload.parts?, Option.bind_eq_bind, Option.bind_some]
  rw [mapM_map (k := fun p => (some p.1, Payload.value p.2))]
  · rw [Option.bind_some, List.filterMap_map]
    exact congrArg some (congrFun (List.filterMap_eq_map (f := fun p : String × Json => (p.1, Payload.value p.2))) fs)
  · exact fun _ _ => rfl

theorem readsBack_payload : ReadsBack Payload.value where
  string _ := rfl
  bool _ := rfl
  nat _ := rfl
  int _ := rfl
  items _ := rfl
  entries fs := mapM_map (l := fs) fun _ _ => rfl
  fields names fs := fields?_setAside names fs
  name _ _ := rfl
  form _ _ := rfl
  option j hj := by cases j <;> first | rfl | exact absurd rfl hj
  parts _ := rfl
  payload _ := rfl

/-! ## Fields -/

namespace Fields

theorem filter_ofOption (q : String → Bool) (key : String) (encode : α → Json) (o : Option α) :
    (Fields.ofOption key encode o).filter (fun p => q p.1) = if q key then Fields.ofOption key encode o else [] := by
  cases o with
  | none   => split <;> rfl
  | some a => cases h : q key <;> simp [Fields.ofOption, h]

theorem name_of_mem_ofOption {key : String} {encode : α → Json} {o : Option α} {p : String × Json}
    (h : p ∈ Fields.ofOption key encode o) : p.1 = key := by
  cases o with
  | none   => cases h
  | some a => rw [List.mem_singleton.1 h]

theorem filter_ofOption_eq_nil {names : List String} {key : String} (h : key ∈ names) (encode : α → Json)
    (o : Option α) : (Fields.ofOption key encode o).filter (fun p => !names.contains p.1) = [] := by
  rw [filter_ofOption fun k => !names.contains k, if_neg (by simpa using h)]

theorem filter_eq_self_of_notMem {names : List String} {fs : Fields Json} (h : ∀ p ∈ fs, p.1 ∉ names) :
    fs.filter (fun p => !names.contains p.1) = fs :=
  List.filter_eq_self.2 fun p hp => by simpa using h p hp

theorem filter_eq_nil_of_notMem {names : List String} {fs : Fields Json} (h : ∀ p ∈ fs, p.1 ∉ names) {name : String}
    (hname : name ∈ names) : fs.filter (·.1 == name) = [] :=
  List.filter_eq_nil_iff.2 fun p hp heq => h p hp (eq_of_beq heq ▸ hname)

@[simp] theorem filter_name_ofOption (key name : String) (encode : α → Json) (o : Option α) :
    (Fields.ofOption key encode o).filter (fun p => p.1 == name) =
      if key == name then Fields.ofOption key encode o else [] :=
  filter_ofOption (· == name) key encode o

variable {tree : Json → β} {fs : Fields Json} {name : String} {j : Json} {decode : β → Option α} {a : α}

theorem filter_shown (q : String → Bool) :
    (fs.shown tree).filter (fun p => q p.1) = shown tree (fs.filter fun p => q p.1) :=
  List.filter_map

theorem single?_of_filter (h : fs.filter (·.1 == name) = [(name, j)]) :
    (fs.shown tree).single? name = some (some (tree j)) := by
  unfold single?
  rw [filter_shown (· == name), h]
  rfl

theorem required_eq (h : fs.filter (·.1 == name) = [(name, j)]) (hdecode : decode (tree j) = some a) :
    (fs.shown tree).required name decode = some a := by
  unfold required
  rw [single?_of_filter h]
  exact hdecode

theorem withDefault_eq {default : α} (h : fs.filter (·.1 == name) = [(name, j)]) (hdecode : decode (tree j) = some a) :
    (fs.shown tree).withDefault name decode default = some a := by
  unfold withDefault
  rw [single?_of_filter h]
  exact hdecode

theorem optional_eq [Readable β] (htree : ReadsBack tree) (encode : α → Json) {o : Option α}
    (h : fs.filter (·.1 == name) = Fields.ofOption name encode o) (hnull : ∀ a, encode a ≠ .null)
    (hdecode : ∀ a ∈ o, decode (tree (encode a)) = some a) : (fs.shown tree).optional name decode = some o := by
  unfold optional
  cases o with
  | none =>
    have hsingle : (fs.shown tree).single? name = some none := by
      unfold single?
      rw [filter_shown (· == name), h]
      rfl
    rw [hsingle]
    rfl
  | some a =>
    rw [single?_of_filter h]
    simp only [Option.bind_eq_bind, Option.bind_some, htree.option _ (hnull a), hdecode a rfl, Option.map_some]

theorem of_withDefault {fs : Fields β} {default : α} (h : fs.withDefault name decode default = some a) :
    a = default ∨ ∃ b, decode b = some a := by
  unfold withDefault at h
  obtain ⟨found, -, hread⟩ := Option.bind_eq_some_iff.1 h
  cases found with
  | none   => exact .inl (Option.some.inj hread).symm
  | some b => exact .inr ⟨b, hread⟩

end Fields

theorem mem_of_list? [Readable β] {item : β → Option α} {b : β} {l : List α} (h : list? item b = some l) {a : α}
    (ha : a ∈ l) : ∃ c, item c = some a := by
  obtain ⟨items, -, hitems⟩ := Option.bind_eq_some_iff.1 h
  obtain ⟨c, -, hc⟩ := mem_of_mapM hitems ha
  exact ⟨c, hc⟩

/-! ## Values -/

namespace ReadsBack

variable [Readable β] {tree : Json → β} (h : ReadsBack tree)
include h

theorem oneOf {names : List (String × α)} {s : String} {a : α} (hname : field? s names = some a) :
    oneOf? names (tree (.str s)) = some a := by
  unfold oneOf?
  rw [h.name]
  exact hname

theorem list {decode : β → Option α} {encode : α → Json} {l : List α}
    (hdecode : ∀ a ∈ l, decode (tree (encode a)) = some a) : list? decode (tree (.arr (l.map encode))) = some l := by
  unfold list?
  rw [h.items, List.map_map]
  exact (mapM_map hdecode).trans (congrArg some (List.map_id l))

theorem uint32 (n : UInt32) : uint32? (tree (.ofUInt32 n)) = some n := by
  have hbelow : natBelow? (Nat.pow 2 32) (tree (.ofUInt32 n)) = some n.toNat := by
    unfold natBelow? Json.ofUInt32
    rw [h.nat, Option.filter_some, if_pos (decide_eq_true n.toNat_lt)]
  simp only [uint32?, hbelow, Option.bind_eq_bind, Option.bind_some, UInt32.ofNat_toNat, Option.pure_def]

theorem uint64 (n : UInt64) : uint64? (tree (.ofUInt64 n)) = some n := by
  have hbelow : nat64? (tree (.ofUInt64 n)) = some n.toNat := by
    unfold nat64? natBelow? Json.ofUInt64
    rw [h.nat, Option.filter_some, if_pos (decide_eq_true n.toNat_lt)]
  simp only [uint64?, hbelow, Option.bind_eq_bind, Option.bind_some, UInt64.ofNat_toNat, Option.pure_def]

theorem optionalString {fs : Fields Json} {name : String} {o : Option String}
    (ho : fs.filter (·.1 == name) = Fields.ofOption name Json.str o) :
    (fs.shown tree).optional name string? = some o :=
  Fields.optional_eq h Json.str ho (fun _ => nofun) fun s _ => h.string s

theorem optionalUInt64 {fs : Fields Json} {name : String} {o : Option UInt64}
    (ho : fs.filter (·.1 == name) = Fields.ofOption name Json.ofUInt64 o) :
    (fs.shown tree).optional name uint64? = some o :=
  Fields.optional_eq h Json.ofUInt64 ho (fun _ => nofun) fun n _ => h.uint64 n

theorem int32 (n : Int32) : int32? (tree (.int n.toInt)) = some n := by
  unfold int32?
  rw [h.int]
  have hbounds : -2147483648 ≤ n.toInt ∧ n.toInt ≤ 2147483647 := ⟨n.le_toInt, n.toInt_le⟩
  simp only [Option.bind_eq_bind, Option.bind_some, if_pos hbounds, Int32.ofInt_toInt]

/-- A value of one of several forms: what is left once its form is read is set aside. -/
theorem tagged {tag form : String} {forms : List String} (rest : Fields Json)
    (hrest : rest.filter (·.1 == tag) = []) :
    tagged? tag forms (tree (.obj ((tag, .str form) :: rest))) =
      some (form, .map (rest.map fun p => (.value (.str p.1), .value p.2))) := by
  let first := (tree (.str tag), tree (.str form))
  let entries := rest.map fun p => (tree (.str p.1), tree p.2)
  have hnamed : ∀ p : String × Json, isNamed tag (tree (.str p.1), tree p.2) = (p.1 == tag) := fun p => by
    unfold isNamed
    rw [h.payload]
  have hfirst : isNamed tag first = true := (hnamed (tag, .str form)).trans (beq_self_eq_true tag)
  have hentries : ∀ e ∈ entries, isNamed tag e = false := fun e he => by
    obtain ⟨p, hp, rfl⟩ := List.mem_map.1 he
    exact (hnamed p).trans (Bool.eq_false_iff.2 (List.filter_eq_nil_iff.1 hrest p hp))
  have hone : (first :: entries).filter (isNamed tag) = [first] := by
    rw [List.filter_cons_of_pos hfirst, List.filter_eq_nil_iff.2 fun e he => Bool.eq_false_iff.1 (hentries e he)]
  have hleft : (first :: entries).filter (fun e => !isNamed tag e) = entries := by
    rw [List.filter_cons_of_neg (by rw [hfirst]; nofun)]
    exact List.filter_eq_self.2 fun e he => by rw [hentries e he]; rfl
  have hset : setAside entries = some (rest.map fun p => (.value (.str p.1), .value p.2)) :=
    mapM_map fun p _ => by simp only [h.payload, Option.bind_eq_bind, Option.bind_some, Option.pure_def]
  unfold tagged?
  rw [h.parts]
  show Option.bind (some (Parts.map (first :: entries))) _ = _
  simp only [Option.bind_some, hone, hleft, Option.bind_eq_bind]
  rw [show form? forms first.2 = some form from h.form forms form, Option.bind_some, hset]
  rfl

end ReadsBack

end FormReplay
