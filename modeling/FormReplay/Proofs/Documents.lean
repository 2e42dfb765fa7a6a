import FormReplay.Proofs.Document.Fields
/-!
# Documents of workflows

A workflow is read back as it was written.  The fields of every part stand once among those written, so each is read as
it was; only the free fields of an ordinary step may be in the way, if they have the names that a step reads itself.
A workflow that was read has no such fields (`Workflow.unreserved_of_ofTree?`), and so is kept by writing and reading
again.  What is asked of instants is that their texts are read as they were.
-/
namespace FormReplay

open Readable

variable {β : Type} [Readable β] {tree : Json → β}

/-! ## Names -/

theorem ErrorMode.field?_names (m : ErrorMode) : field? m.name names = some m := by cases m <;> rfl

theorem UiCheck.field?_names (c : UiCheck) : field? c.name names = some c := by cases c <;> rfl

theorem DataOp.field?_names (o : DataOp) : field? o.name names = some o := by cases o <;> rfl

theorem WaitState.field?_names (w : WaitState) : field? w.name names = some w := by cases w <;> rfl

theorem EventKind.field?_names (k : EventKind) : field? k.name names = some k := by cases k <;> rfl

theorem HandlerMode.field?_names (m : HandlerMode) : field? m.name names = some m := by cases m <;> rfl

theorem MatchMode.field?_names (m : MatchMode) : field? m.name names = some m := by cases m <;> rfl

theorem Outcome.field?_names (o : Outcome) : field? o.name names = some o := by cases o <;> rfl

/-! ## Policies, conditions, values and waits -/

theorem ErrorPolicy.ofTree?_toJson (h : ReadsBack tree) (p : ErrorPolicy) : ofTree? (tree p.toJson) = some p := by
  let fs : Fields Json := [("mode", .str p.mode.name), ("retryCount", .ofUInt32 p.retryCount),
    ("retryDelayMs", .ofUInt64 p.retryDelay)] ++ Fields.ofOption "gotoLabel" .str p.gotoLabel
  have hmode : (fs.shown tree).withDefault "mode" (oneOf? ErrorMode.names) .fail = some p.mode :=
    Fields.withDefault_eq (by simp [fs]) (h.oneOf p.mode.field?_names)
  have hcount : (fs.shown tree).withDefault "retryCount" uint32? 0 = some p.retryCount :=
    Fields.withDefault_eq (by simp [fs]) (h.uint32 _)
  have hdelay : (fs.shown tree).withDefault "retryDelayMs" uint64? 0 = some p.retryDelay :=
    Fields.withDefault_eq (by simp [fs]) (h.uint64 _)
  have hlabel : (fs.shown tree).optional "gotoLabel" string? = some p.gotoLabel :=
    h.optionalString (by simp [fs])
  have hfields : fields? ["mode", "retryCount", "retryDelayMs", "gotoLabel"] (tree p.toJson) = some (fs.shown tree) :=
    h.fields _ fs
  simp only [ofTree?, hfields, Option.bind_eq_bind, Option.bind_some, hmode, hcount, hdelay, hlabel, Option.pure_def]

theorem Condition.ofTree?_toJson (h : ReadsBack tree) (c : Condition) : ofTree? (tree c.toJson) = some c := by
  cases c with
  | ui target check value =>
    let fs : Fields Json := [("target", .str target), ("check", .str check.name)] ++ Fields.ofOption "value" .str value
    have htarget : (fs.shown Payload.value).required "target" string? = some target :=
      Fields.required_eq (by simp [fs]) (readsBack_payload.string _)
    have hcheck : (fs.shown Payload.value).required "check" (oneOf? UiCheck.names) = some check :=
      Fields.required_eq (by simp [fs]) (readsBack_payload.oneOf check.field?_names)
    have hvalue : (fs.shown Payload.value).optional "value" string? = some value :=
      readsBack_payload.optionalString (by simp [fs])
    have htagged : tagged? "kind" ["ui", "data"] (tree (Condition.ui target check value).toJson) = some ("ui", _) :=
      h.tagged fs (by simp [fs])
    simp only [ofTree?, htagged, Option.bind_eq_bind, Option.bind_some, fields?_setAside, htarget, hcheck, hvalue,
      Option.pure_def]
  | data field op value =>
    let fs : Fields Json := [("field", .str field), ("op", .str op.name)] ++ Fields.ofOption "value" .str value
    have hfield : (fs.shown Payload.value).required "field" string? = some field :=
      Fields.required_eq (by simp [fs]) (readsBack_payload.string _)
    have hop : (fs.shown Payload.value).required "op" (oneOf? DataOp.names) = some op :=
      Fields.required_eq (by simp [fs]) (readsBack_payload.oneOf op.field?_names)
    have hvalue : (fs.shown Payload.value).optional "value" string? = some value :=
      readsBack_payload.optionalString (by simp [fs])
    have htagged : tagged? "kind" ["ui", "data"] (tree (Condition.data field op value).toJson) = some ("data", _) :=
      h.tagged fs (by simp [fs])
    simp only [ofTree?, htagged, Option.bind_eq_bind, Option.bind_some, fields?_setAside, hfield, hop, hvalue,
      Option.pure_def]

theorem ValueSource.ofTree?_toJson (h : ReadsBack tree) (v : ValueSource) : ofTree? (tree v.toJson) = some v := by
  cases v with
  | static value =>
    let fs : Fields Json := [("value", .str value)]
    have hvalue : (fs.shown Payload.value).required "value" string? = some value :=
      Fields.required_eq (by simp [fs]) (readsBack_payload.string _)
    have htagged : tagged? "source" ["static", "data", "clipboard"] (tree (static value).toJson) = some ("static", _) :=
      h.tagged fs (by simp [fs])
    simp only [ofTree?, htagged, Option.bind_eq_bind, Option.bind_some, fields?_setAside, hvalue, Option.pure_def]
  | data field =>
    let fs : Fields Json := [("field", .str field)]
    have hfield : (fs.shown Payload.value).required "field" string? = some field :=
      Fields.required_eq (by simp [fs]) (readsBack_payload.string _)
    have htagged : tagged? "source" ["static", "data", "clipboard"] (tree (data field).toJson) = some ("data", _) :=
      h.tagged fs (by simp [fs])
    simp only [ofTree?, htagged, Option.bind_eq_bind, Option.bind_some, fields?_setAside, hfield, Option.pure_def]
  | clipboard =>
    have htagged : tagged? "source" ["static", "data", "clipboard"] (tree clipboard.toJson) =
        some ("clipboard", .map []) := h.tagged [] rfl
    simp only [ofTree?, htagged, Option.bind_eq_bind, Option.bind_some, Payload.isBare, if_true]

theorem WaitSpec.ofTree?_toJson (h : ReadsBack tree) (w : WaitSpec) : ofTree? (tree w.toJson) = some w := by
  let fs : Fields Json := [("target", .str w.target), ("state", .str w.state.name)]
    ++ Fields.ofOption "timeoutMs" .ofUInt64 w.timeout
  have htarget : (fs.shown tree).required "target" string? = some w.target :=
    Fields.required_eq (by simp [fs]) (h.string _)
  have hstate : (fs.shown tree).required "state" (oneOf? WaitState.names) = some w.state :=
    Fields.required_eq (by simp [fs]) (h.oneOf w.state.field?_names)
  have htimeout : (fs.shown tree).optional "timeoutMs" uint64? = some w.timeout :=
    h.optionalUInt64 (by simp [fs])
  have hfields : fields? ["target", "state", "timeoutMs"] (tree w.toJson) = some (fs.shown tree) := h.fields _ fs
  simp only [ofTree?, hfields, Option.bind_eq_bind, Option.bind_some, htarget, hstate, htimeout, Option.pure_def]

/-! ## Steps -/

def ActionSpec.Unreserved (a : ActionSpec) : Prop := ∀ p ∈ a.extra.entries, p.1 ∉ reserved

theorem putField_append {name : String} {v : Json} {fields : List (String × Json)} (h : ∀ p ∈ fields, p.1 < name) :
    putField name v fields = fields ++ [(name, v)] := by
  induction fields with
  | nil => rfl
  | cons p fields ih =>
    obtain ⟨k, w⟩ := p
    have hk : k < name := h _ (.head _)
    rw [putField, if_neg (String.lt_asymm hk), if_neg (fun heq => String.lt_irrefl _ (heq ▸ hk)),
      ih fun p hp => h p (.tail _ hp)]
    rfl

theorem Record.ofFields_entries (r : Record) : Record.ofFields r.entries = r := by
  suffices hall : ∀ (l : List (String × Json)) (s : Record), SortedFields (s.entries ++ l) →
      (l.foldl (fun r p => r.put p.1 p.2) s).entries = s.entries ++ l by
    obtain ⟨entries, hsorted⟩ := r
    exact Record.mk.injEq _ _ _ _ ▸ hall entries empty hsorted
  intro l
  induction l with
  | nil => exact fun s _ => (List.append_nil _).symm
  | cons p l ih =>
    intro s hs
    have hput : (s.put p.1 p.2).entries = s.entries ++ [p] :=
      putField_append fun q hq => (List.pairwise_append.1 hs).2.2 q hq p (.head _)
    rw [List.foldl_cons, ih (s.put p.1 p.2) (by rw [hput, List.append_assoc]; exact hs), hput, List.append_assoc]
    rfl

theorem ActionSpec.ofFields?_toFields {a : ActionSpec} (ha : a.Unreserved) (type : Json) :
    ofFields? (Fields.shown Payload.value (("type", type) :: a.toFields)) = some a := by
  let fs : Fields Json := ("type", type) :: a.toFields
  have hextra : ∀ name ∈ reserved, a.extra.entries.filter (·.1 == name) = [] := fun _ =>
    Fields.filter_eq_nil_of_notMem ha
  have htarget : (fs.shown Payload.value).optional "target" string? = some a.target :=
    readsBack_payload.optionalString (by simp [fs, toFields, hextra "target" (by decide)])
  have hvalue : (fs.shown Payload.value).optional "value" ValueSource.ofTree? = some a.value :=
    Fields.optional_eq readsBack_payload ValueSource.toJson (by simp [fs, toFields, hextra "value" (by decide)])
      (fun v => by cases v <;> nofun) fun v _ => v.ofTree?_toJson readsBack_payload
  have hbefore : (fs.shown Payload.value).optional "waitBefore" WaitSpec.ofTree? = some a.waitBefore :=
    Fields.optional_eq readsBack_payload WaitSpec.toJson (by simp [fs, toFields, hextra "waitBefore" (by decide)])
      (fun _ => nofun) fun w _ => w.ofTree?_toJson readsBack_payload
  have hafter : (fs.shown Payload.value).optional "waitAfter" WaitSpec.ofTree? = some a.waitAfter :=
    Fields.optional_eq readsBack_payload WaitSpec.toJson (by simp [fs, toFields, hextra "waitAfter" (by decide)])
      (fun _ => nofun) fun w _ => w.ofTree?_toJson readsBack_payload
  have hfree : ((fs.shown Payload.value).filter fun p => !reserved.contains p.1) =
      a.extra.entries.map fun p => (p.1, Payload.value p.2) := by
    rw [Fields.filter_shown fun k => !reserved.contains k]
    show Fields.shown _ (List.filter (fun p => !reserved.contains p.1) a.toFields) = _
    rw [toFields, List.filter_append, List.filter_append, List.filter_append, List.filter_append,
      Fields.filter_ofOption_eq_nil (by decide), Fields.filter_ofOption_eq_nil (by decide),
      Fields.filter_ofOption_eq_nil (by decide), Fields.filter_ofOption_eq_nil (by decide),
      Fields.filter_eq_self_of_notMem ha]
    rfl
  show ofFields? (fs.shown Payload.value) = some a
  simp only [ofFields?, htarget, hvalue, hbefore, hafter, hfree, Option.bind_eq_bind, Option.bind_some, Option.pure_def]
  rw [mapM_map (k := id)]
  · rw [List.map_id, Option.bind_some, Record.ofFields_entries]
  · exact fun _ _ => rfl

theorem LoopSpec.read (spec : LoopSpec) (type : Json) :
    let f := Fields.shown Payload.value (("type", type) :: (StepKind.loopStart spec).payload)
    f.optional "id" string? = some spec.id ∧ LoopMode.ofFields? f = some spec.mode := by
  obtain ⟨id, mode⟩ := spec
  let fs : Fields Json := ("type", type) :: (Fields.ofOption "id" .str id ++ mode.toFields)
  have hid : (fs.shown Payload.value).optional "id" string? = some id :=
    readsBack_payload.optionalString (by cases mode <;> simp [fs, LoopMode.toFields])
  refine ⟨hid, ?_⟩
  show LoopMode.ofFields? (fs.shown Payload.value) = some mode
  cases mode with
  | count times =>
    have hmode : (fs.shown Payload.value).required "loopMode" (form? ["count", "while", "data"]) = some "count" :=
      Fields.required_eq (by simp [fs, LoopMode.toFields]) (readsBack_payload.form _ _)
    have htimes : (fs.shown Payload.value).required "loopCount" uint64? = some times :=
      Fields.required_eq (by simp [fs, LoopMode.toFields]) (readsBack_payload.uint64 _)
    simp only [LoopMode.ofFields?, hmode, htimes, Option.bind_eq_bind, Option.bind_some, Option.pure_def]
  | whileHolds condition most =>
    have hmode : (fs.shown Payload.value).required "loopMode" (form? ["count", "while", "data"]) = some "while" :=
      Fields.required_eq (by simp [fs, LoopMode.toFields]) (readsBack_payload.form _ _)
    have hcondition : (fs.shown Payload.value).required "whileCondition" Condition.ofTree? = some condition :=
      Fields.required_eq (by simp [fs, LoopMode.toFields]) (condition.ofTree?_toJson readsBack_payload)
    have hmost : (fs.shown Payload.value).optional "loopMaxIterations" uint64? = some most :=
      readsBack_payload.optionalUInt64 (by simp [fs, LoopMode.toFields])
    simp only [LoopMode.ofFields?, hmode, hcondition, hmost, Option.bind_eq_bind, Option.bind_some, Option.pure_def]
  | data source limit =>
    have hmode : (fs.shown Payload.value).required "loopMode" (form? ["count", "while", "data"]) = some "data" :=
      Fields.required_eq (by simp [fs, LoopMode.toFields]) (readsBack_payload.form _ _)
    have hsource : (fs.shown Payload.value).optional "dataSourceRef" string? = some source :=
      readsBack_payload.optionalString (by simp [fs, LoopMode.toFields])
    have hlimit : (fs.shown Payload.value).optional "iterationLimit" uint64? = some limit :=
      readsBack_payload.optionalUInt64 (by simp [fs, LoopMode.toFields])
    simp only [LoopMode.ofFields?, hmode, hsource, hlimit, Option.bind_eq_bind, Option.bind_some, Option.pure_def]

/-- The free fields of a step are none that it reads. -/
def StepKind.Unreserved (k : StepKind) : Prop := ∀ a, k.action? = some a → a.Unreserved

theorem StepKind.Unreserved.not_own {k : StepKind} (hk : k.Unreserved) {p : String × Json} (hp : p ∈ k.payload) :
    p.1 ∉ "type" :: Step.ownNames := by
  have hoption : ∀ {α : Type} {key : String} {encode : α → Json} {o : Option α}, p ∈ Fields.ofOption key encode o →
      key ∉ "type" :: Step.ownNames → p.1 ∉ "type" :: Step.ownNames :=
    fun h hkey => Fields.name_of_mem_ofOption h ▸ hkey
  have hfields : ∀ {fs : Fields Json} (names : List String), p ∈ fs → fs.map (·.1) = names →
      (∀ name ∈ names, name ∉ "type" :: Step.ownNames) → p.1 ∉ "type" :: Step.ownNames :=
    fun names h hnames hown => hown _ (hnames ▸ List.mem_map_of_mem h)
  cases k with
  | action kind a =>
    have hreserved : ∀ name ∈ "type" :: Step.ownNames, name ∈ ActionSpec.reserved := by decide
    simp only [payload, ActionSpec.toFields, List.mem_append] at hp
    obtain (((h | h) | h) | h) | h := hp
    · exact hoption h (by decide)
    · exact hoption h (by decide)
    · exact hoption h (by decide)
    · exact hoption h (by decide)
    · exact fun hown => hk a rfl p h (hreserved _ hown)
  | label name        => exact hfields ["name"] hp rfl (by decide)
  | goto name         => exact hfields ["targetLabel"] hp rfl (by decide)
  | ifStart condition => exact hfields ["condition"] hp rfl (by decide)
  | loopStart spec =>
    obtain h | h := List.mem_append.1 hp
    · exact hoption h (by decide)
    cases hmode : spec.mode with
    | count times =>
      rw [hmode] at h
      exact hfields ["loopMode", "loopCount"] h rfl (by decide)
    | whileHolds condition most =>
      rw [hmode] at h
      obtain h | h := List.mem_append.1 h
      · exact hfields ["loopMode", "whileCondition"] h rfl (by decide)
      · exact hoption h (by decide)
    | data source limit =>
      rw [hmode] at h
      obtain h | h := List.mem_append.1 h
      · obtain h | h := List.mem_append.1 h
        · exact hfields ["loopMode"] h rfl (by decide)
        · exact hoption h (by decide)
      · exact hoption h (by decide)
  | loopEnd loopRef => exact hoption hp (by decide)
  | _ => cases hp

theorem StepKind.ofFields?_payload {k : StepKind} (hk : k.Unreserved) :
    ofFields? (Fields.shown Payload.value (("type", .str k.typeName) :: k.payload)) = some k := by
  let fs : Fields Json := ("type", .str k.typeName) :: k.payload
  have hpayload : k.payload.filter (·.1 == "type") = [] :=
    Fields.filter_eq_nil_of_notMem (fun p hp => hk.not_own hp) (.head _)
  have htype : (fs.shown Payload.value).required "type" (form? typeNames) = some k.typeName :=
    Fields.required_eq (by simp [fs, hpayload]) (readsBack_payload.form _ _)
  show ofFields? (fs.shown Payload.value) = some k
  rw [ofFields?, htype]
  simp only [Option.bind_eq_bind, Option.bind_some]
  cases k with
  | action kind a =>
    have haction : ActionSpec.ofFields? (fs.shown Payload.value) = some a := ActionSpec.ofFields?_toFields (hk a rfl) _
    generalize fs.shown Payload.value = f at haction
    cases kind <;>
    · show (ActionSpec.ofFields? f).bind (fun a => some (action _ a)) = _
      rw [haction]
      rfl
  | label name =>
    have hname : (fs.shown Payload.value).required "name" string? = some name :=
      Fields.required_eq (by simp [fs, payload]) (readsBack_payload.string _)
    simp only [typeName, hname, Option.bind_some, Option.pure_def]
  | goto name =>
    have hname : (fs.shown Payload.value).required "targetLabel" string? = some name :=
      Fields.required_eq (by simp [fs, payload]) (readsBack_payload.string _)
    simp only [typeName, hname, Option.bind_some, Option.pure_def]
  | ifStart condition =>
    have hcondition : (fs.shown Payload.value).required "condition" Condition.ofTree? = some condition :=
      Fields.required_eq (by simp [fs, payload]) (condition.ofTree?_toJson readsBack_payload)
    simp only [typeName, hcondition, Option.bind_some, Option.pure_def]
  | loopStart spec =>
    obtain ⟨hid, hmode⟩ := spec.read (.str "loop-start")
    show ((fs.shown Payload.value).optional "id" string?).bind _ = _
    rw [show (fs.shown Payload.value).optional "id" string? = some spec.id from hid]
    show (LoopMode.ofFields? (fs.shown Payload.value)).bind _ = _
    rw [show LoopMode.ofFields? (fs.shown Payload.value) = some spec.mode from hmode]
    rfl
  | loopEnd loopRef =>
    have hname : (fs.shown Payload.value).optional "loopRef" string? = some loopRef :=
      readsBack_payload.optionalString (by simp [fs, payload])
    simp only [typeName, hname, Option.bind_some, Option.pure_def]
  | otherwise | ifEnd | continueLoop | breakLoop | repeatLoop => rfl

/-- **A step is read back as it was written**, if its free fields are none that a step reads. -/
theorem Step.ofTree?_toJson (h : ReadsBack tree) {s : Step} (hs : s.kind.Unreserved) :
    ofTree? (tree s.toJson) = some s := by
  let left : Fields Json := ("type", .str s.kind.typeName) :: s.kind.payload
  let fs : Fields Json := ("type", .str s.kind.typeName) :: Fields.ofOption "stepId" .str s.id
    ++ Fields.ofOption "onError" ErrorPolicy.toJson s.onError ++ s.kind.payload
  have hown : ∀ name ∈ ownNames, s.kind.payload.filter (·.1 == name) = [] := fun _ hname =>
    Fields.filter_eq_nil_of_notMem (fun p hp => hs.not_own hp) (.tail _ hname)
  have hid : (fs.shown tree).optional "stepId" string? = some s.id :=
    h.optionalString (by simp [fs, hown "stepId" (by decide)])
  have hpolicy : (fs.shown tree).optional "onError" ErrorPolicy.ofTree? = some s.onError :=
    Fields.optional_eq h ErrorPolicy.toJson (by simp [fs, hown "onError" (by decide)]) (fun _ => nofun)
      fun p _ => p.ofTree?_toJson h
  have hleft : ((fs.shown tree).filter fun p => !ownNames.contains p.1) = left.shown tree := by
    have hpayload : s.kind.payload.filter (fun p => !ownNames.contains p.1) = s.kind.payload :=
      Fields.filter_eq_self_of_notMem fun p hp hname => hs.not_own hp (List.mem_cons_of_mem _ hname)
    rw [Fields.filter_shown fun k => !ownNames.contains k, List.filter_append, hpayload, List.cons_append,
      List.filter_cons_of_pos rfl, List.filter_append, Fields.filter_ofOption_eq_nil (by decide),
      Fields.filter_ofOption_eq_nil (by decide)]
    rfl
  have hentries : entries? (tree s.toJson) = some (fs.shown tree) := h.entries fs
  have hkind : StepKind.ofFields? (left.shown Payload.value) = some s.kind := StepKind.ofFields?_payload hs
  simp only [ofTree?, hentries, hleft, hid, hpolicy, Option.bind_eq_bind, Option.bind_some, Option.pure_def]
  rw [Fields.shown, mapM_map (k := fun p => (p.1, Payload.value p.2))]
  · show (StepKind.ofFields? (left.shown Payload.value)).bind _ = _
    rw [hkind]
    rfl
  · intro p _
    show (payload? (tree p.2)).map _ = _
    rw [h.payload]
    rfl

/-! ## Handlers -/

theorem Trigger.ofTree?_toJson (h : ReadsBack tree) (t : Trigger) : ofTree? (tree t.toJson) = some t := by
  let fs : Fields Json := [("kind", .str t.kind.name), ("textTemplate", .str t.template),
    ("matchMode", .str t.matchMode.name), ("requiredControls", .arr (t.requiredControls.map .str))]
  have hkind : (fs.shown tree).required "kind" (oneOf? EventKind.names) = some t.kind :=
    Fields.required_eq (by simp [fs]) (h.oneOf t.kind.field?_names)
  have htemplate : (fs.shown tree).required "textTemplate" string? = some t.template :=
    Fields.required_eq (by simp [fs]) (h.string _)
  have hmode : (fs.shown tree).withDefault "matchMode" (oneOf? MatchMode.names) .contains = some t.matchMode :=
    Fields.withDefault_eq (by simp [fs]) (h.oneOf t.matchMode.field?_names)
  have hcontrols : (fs.shown tree).withDefault "requiredControls" (list? string?) [] = some t.requiredControls :=
    Fields.withDefault_eq (by simp [fs]) (h.list fun s _ => h.string s)
  have hfields : fields? ["kind", "textTemplate", "matchMode", "requiredControls"] (tree t.toJson) =
      some (fs.shown tree) := h.fields _ fs
  simp only [ofTree?, hfields, hkind, htemplate, hmode, hcontrols, Option.bind_eq_bind, Option.bind_some,
    Option.pure_def]

theorem HandlerAction.ofTree?_toJson (h : ReadsBack tree) (a : HandlerAction) : ofTree? (tree a.toJson) = some a := by
  cases a with
  | press control =>
    let fs : Fields Json := [("control", .str control)]
    have hcontrol : (fs.shown Payload.value).required "control" string? = some control :=
      Fields.required_eq (by simp [fs]) (readsBack_payload.string _)
    have htagged : tagged? "type" ["press", "dismiss", "wait"] (tree (press control).toJson) = some ("press", _) :=
      h.tagged fs (by simp [fs])
    simp only [ofTree?, htagged, Option.bind_eq_bind, Option.bind_some, fields?_setAside, hcontrol, Option.pure_def]
  | dismiss =>
    have htagged : tagged? "type" ["press", "dismiss", "wait"] (tree dismiss.toJson) = some ("dismiss", .map []) :=
      h.tagged [] rfl
    simp only [ofTree?, htagged, Option.bind_eq_bind, Option.bind_some, Payload.isBare, if_true]
  | wait ms =>
    let fs : Fields Json := [("ms", .ofUInt64 ms)]
    have hms : (fs.shown Payload.value).required "ms" uint64? = some ms :=
      Fields.required_eq (by simp [fs]) (readsBack_payload.uint64 _)
    have htagged : tagged? "type" ["press", "dismiss", "wait"] (tree (wait ms).toJson) = some ("wait", _) :=
      h.tagged fs (by simp [fs])
    simp only [ofTree?, htagged, Option.bind_eq_bind, Option.bind_some, fields?_setAside, hms, Option.pure_def]

/-- The text of an instant is read as the instant. -/
def Instant.Survives (t : Instant) : Prop := read? t.text = some t

theorem Instant.ofTree?_toJson (h : ReadsBack tree) {t : Instant} (ht : t.Survives) :
    ofTree? (tree t.toJson) = some t := by
  have hstring : string? (tree t.toJson) = some t.text := h.string t.text
  unfold ofTree?
  rw [hstring, Option.bind_eq_bind, Option.bind_some]
  exact ht

theorem Handler.ofTree?_toJson (h : ReadsBack tree) {g : Handler} (hg : ∀ t ∈ g.createdAt, t.Survives) :
    ofTree? (tree g.toJson) = some g := by
  let fs : Fields Json := [("id", .str g.id), ("enabled", .bool g.enabled), ("priority", .int g.priority.toInt),
    ("mode", .str g.mode.name), ("trigger", g.trigger.toJson), ("actions", .arr (g.actions.map HandlerAction.toJson)),
    ("outcome", .str g.outcome.name), ("learned", .bool g.learned)] ++
      Fields.ofOption "createdAt" Instant.toJson g.createdAt
  have hid : (fs.shown tree).required "id" string? = some g.id := Fields.required_eq (by simp [fs]) (h.string _)
  have henabled : (fs.shown tree).withDefault "enabled" bool? true = some g.enabled :=
    Fields.withDefault_eq (by simp [fs]) (h.bool _)
  have hpriority : (fs.shown tree).withDefault "priority" int32? 0 = some g.priority :=
    Fields.withDefault_eq (by simp [fs]) (h.int32 _)
  have hmode : (fs.shown tree).withDefault "mode" (oneOf? HandlerMode.names) .auto = some g.mode :=
    Fields.withDefault_eq (by simp [fs]) (h.oneOf g.mode.field?_names)
  have htrigger : (fs.shown tree).required "trigger" Trigger.ofTree? = some g.trigger :=
    Fields.required_eq (by simp [fs]) (g.trigger.ofTree?_toJson h)
  have hactions : (fs.shown tree).withDefault "actions" (list? HandlerAction.ofTree?) [] = some g.actions :=
    Fields.withDefault_eq (by simp [fs]) (h.list fun a _ => a.ofTree?_toJson h)
  have houtcome : (fs.shown tree).withDefault "outcome" (oneOf? Outcome.names) .nextStep = some g.outcome :=
    Fields.withDefault_eq (by simp [fs]) (h.oneOf g.outcome.field?_names)
  have hlearned : (fs.shown tree).withDefault "learned" bool? false = some g.learned :=
    Fields.withDefault_eq (by simp [fs]) (h.bool _)
  have hcreated : (fs.shown tree).optional "createdAt" Instant.ofTree? = some g.createdAt :=
    Fields.optional_eq h Instant.toJson (by simp [fs]) (fun _ => nofun) fun t ht => Instant.ofTree?_toJson h (hg t ht)
  have hfields : fields? ["id", "enabled", "priority", "mode", "trigger", "actions", "outcome", "learned", "createdAt"]
      (tree g.toJson) = some (fs.shown tree) := h.fields _ fs
  simp only [ofTree?, hfields, hid, henabled, hpriority, hmode, htrigger, hactions, houtcome, hlearned, hcreated,
    Option.bind_eq_bind, Option.bind_some, Option.pure_def]

/-! ## Settings and workflows -/

theorem FieldMapping.ofTree?_toJson (h : ReadsBack tree) (m : FieldMapping) : ofTree? (tree m.toJson) = some m := by
  let fs : Fields Json := [("parentField", .str m.parentField), ("childField", .str m.childField)]
  have hparent : (fs.shown tree).required "parentField" string? = some m.parentField :=
    Fields.required_eq (by simp [fs]) (h.string _)
  have hchild : (fs.shown tree).required "childField" string? = some m.childField :=
    Fields.required_eq (by simp [fs]) (h.string _)
  have hfields : fields? ["parentField", "childField"] (tree m.toJson) = some (fs.shown tree) := h.fields _ fs
  simp only [ofTree?, hfields, hparent, hchild, Option.bind_eq_bind, Option.bind_some, Option.pure_def]

theorem Relationship.ofTree?_toJson (h : ReadsBack tree) (r : Relationship) : ofTree? (tree r.toJson) = some r := by
  let fs : Fields Json := [("parentSource", .str r.parentSource), ("childSource", .str r.childSource),
    ("mappings", .arr (r.mappings.map FieldMapping.toJson))]
  have hparent : (fs.shown tree).required "parentSource" string? = some r.parentSource :=
    Fields.required_eq (by simp [fs]) (h.string _)
  have hchild : (fs.shown tree).required "childSource" string? = some r.childSource :=
    Fields.required_eq (by simp [fs]) (h.string _)
  have hmappings : (fs.shown tree).required "mappings" (list? FieldMapping.ofTree?) = some r.mappings :=
    Fields.required_eq (by simp [fs]) (h.list fun m _ => m.ofTree?_toJson h)
  have hfields : fields? ["parentSource", "childSource", "mappings"] (tree r.toJson) = some (fs.shown tree) :=
    h.fields _ fs
  simp only [ofTree?, hfields, hparent, hchild, hmappings, Option.bind_eq_bind, Option.bind_some, Option.pure_def]

theorem Settings.ofTree?_toJson (h : ReadsBack tree) (s : Settings) : ofTree? (tree s.toJson) = some s := by
  let fs : Fields Json := [("defaultErrorPolicy", s.defaultPolicy.toJson),
    ("relationships", .arr (s.relationships.map Relationship.toJson))]
  have hpolicy : (fs.shown tree).withDefault "defaultErrorPolicy" ErrorPolicy.ofTree? {} = some s.defaultPolicy :=
    Fields.withDefault_eq (by simp [fs]) (s.defaultPolicy.ofTree?_toJson h)
  have hrelationships : (fs.shown tree).withDefault "relationships" (list? Relationship.ofTree?) [] =
      some s.relationships :=
    Fields.withDefault_eq (by simp [fs]) (h.list fun r _ => r.ofTree?_toJson h)
  have hfields : fields? ["defaultErrorPolicy", "relationships"] (tree s.toJson) = some (fs.shown tree) := h.fields _ fs
  simp only [ofTree?, hfields, hpolicy, hrelationships, Option.bind_eq_bind, Option.bind_some, Option.pure_def]

namespace Workflow

/-- The free fields of all ordinary steps are none that a step reads. -/
def Unreserved (w : Workflow) : Prop := ∀ s ∈ w.steps, s.kind.Unreserved

/-- The texts of the instants in a workflow are read as these instants. -/
def InstantsSurvive (w : Workflow) : Prop := ∀ g ∈ w.handlers, ∀ t ∈ g.createdAt, t.Survives

theorem ofTree?_toJson (h : ReadsBack tree) {w : Workflow} (hw : w.Unreserved) (ht : w.InstantsSurvive) :
    ofTree? (tree w.toJson) = some w := by
  let fs : Fields Json := [("name", .str w.name), ("steps", .arr (w.steps.map Step.toJson)),
    ("settings", w.settings.toJson), ("handlers", .arr (w.handlers.map Handler.toJson))]
  have hname : (fs.shown tree).withDefault "name" string? "" = some w.name :=
    Fields.withDefault_eq (by simp [fs]) (h.string _)
  have hsteps : (fs.shown tree).withDefault "steps" (list? Step.ofTree?) [] = some w.steps :=
    Fields.withDefault_eq (by simp [fs]) (h.list fun s hs => Step.ofTree?_toJson h (hw s hs))
  have hsettings : (fs.shown tree).withDefault "settings" Settings.ofTree? {} = some w.settings :=
    Fields.withDefault_eq (by simp [fs]) (w.settings.ofTree?_toJson h)
  have hhandlers : (fs.shown tree).withDefault "handlers" (list? Handler.ofTree?) [] = some w.handlers :=
    Fields.withDefault_eq (by simp [fs]) (h.list fun g hg => Handler.ofTree?_toJson h (ht g hg))
  have hfields : fields? ["name", "steps", "settings", "handlers"] (tree w.toJson) = some (fs.shown tree) :=
    h.fields _ fs
  simp only [ofTree?, hfields, hname, hsteps, hsettings, hhandlers, Option.bind_eq_bind, Option.bind_some,
    Option.pure_def]

end Workflow

/-! ## What was read -/

theorem Record.name_mem_ofFields {fields : List (String × Json)} {p : String × Json}
    (h : p ∈ (Record.ofFields fields).entries) : p.1 ∈ fields.map (·.1) := by
  suffices hall : ∀ (l : List (String × Json)) (r : Record),
      p ∈ (l.foldl (fun r q => r.put q.1 q.2) r).entries → p ∈ r.entries ∨ p.1 ∈ l.map (·.1) from
    (hall fields empty h).resolve_left (fun hempty => nomatch hempty)
  intro l
  induction l with
  | nil => exact fun r hp => .inl hp
  | cons q l ih =>
    intro r hp
    obtain hput | hlater := ih (r.put q.1 q.2) hp
    · obtain rfl | hbefore := mem_putField hput
      · exact .inr (.head _)
      · exact .inl hbefore
    · exact .inr (.tail _ hlater)

theorem ActionSpec.unreserved_of_ofFields? {f : Fields Payload} {a : ActionSpec} (h : ofFields? f = some a) :
    a.Unreserved := by
  simp only [ofFields?, Option.bind_eq_bind, Option.bind_eq_some_iff, Option.pure_def, Option.some.injEq] at h
  obtain ⟨_, -, _, -, _, -, _, -, kept, hkept, rfl⟩ := h
  intro p hp
  obtain ⟨q, hq, hname⟩ := List.mem_map.1 (Record.name_mem_ofFields hp)
  obtain ⟨e, he, hfree⟩ := mem_of_mapM hkept hq
  obtain ⟨_, -, rfl⟩ := Option.map_eq_some_iff.1 hfree
  simpa [← hname] using (List.mem_filter.1 he).2

theorem StepKind.unreserved_of_ofFields? {f : Fields Payload} {k : StepKind} (h : ofFields? f = some k) :
    k.Unreserved := by
  intro a ha
  cases k with
  | action kind spec =>
    cases ha
    obtain ⟨type, -, hread⟩ := Option.bind_eq_some_iff.1 h
    split at hread
    case h_11 =>
      simp only [Option.bind_eq_bind, Option.bind_eq_some_iff, Option.pure_def, Option.some.injEq] at hread
      obtain ⟨_, -, spec, hspec, haction⟩ := hread
      cases haction
      exact ActionSpec.unreserved_of_ofFields? hspec
    -- The other types are those of no ordinary step.
    all_goals simp [Option.bind_eq_some_iff] at hread
  | _ => cases ha

theorem Step.unreserved_of_ofTree? {b : β} {s : Step} (h : ofTree? b = some s) : s.kind.Unreserved := by
  simp only [ofTree?, Option.bind_eq_bind, Option.bind_eq_some_iff, Option.pure_def, Option.some.injEq] at h
  obtain ⟨_, -, _, -, _, -, kind, hkind, _, -, rfl⟩ := h
  exact StepKind.unreserved_of_ofFields? hkind

/-- **A workflow that was read has no free field that a step reads.** -/
theorem Workflow.unreserved_of_ofTree? {b : β} {w : Workflow} (h : ofTree? b = some w) : w.Unreserved := by
  simp only [ofTree?, Option.bind_eq_bind, Option.bind_eq_some_iff, Option.pure_def, Option.some.injEq] at h
  obtain ⟨_, -, _, -, steps, hsteps, _, -, _, -, rfl⟩ := h
  intro s hs
  obtain rfl | ⟨items, hitems⟩ := Fields.of_withDefault hsteps
  · cases hs
  · obtain ⟨c, hc⟩ := mem_of_list? hitems hs
    exact Step.unreserved_of_ofTree? hc

/-- **Workflows are kept by their documents.**  A workflow whose steps have no free fields of names that a step reads
is read back as it was written, and every workflow that was read, off a tree or a text of any notation, is such a one:
so it is written and read again without change. -/
theorem documents_round_trip :
    (∀ w : Workflow, w.Unreserved → w.InstantsSurvive → Workflow.ofTree? w.toJson = some w) ∧
    ∀ (β : Type) [Readable β] (b : β) (w : Workflow), Workflow.ofTree? b = some w →
      w.Unreserved ∧ (w.InstantsSurvive → Workflow.ofTree? w.toJson = some w) := by
  have hwritten : ∀ w : Workflow, w.Unreserved → w.InstantsSurvive → Workflow.ofTree? w.toJson = some w :=
    fun w hw ht => Workflow.ofTree?_toJson readsBack_json hw ht
  refine ⟨hwritten, fun β _ b w hread => ?_⟩
  have hw : w.Unreserved := Workflow.unreserved_of_ofTree? hread
  exact ⟨hw, hwritten w hw⟩

def ordersWorkflow : Workflow where
  name  := "orders"
  steps := [
    ⟨some "rows", .loopStart ⟨some "each", .data (some "lines") none⟩, none⟩,
    ⟨none, .action .input ⟨some "#article", some (.data "article"), none, some ⟨"#saved", .visible, some 500⟩,
      .ofFields [("delay", .int 20), ("clear", .null)]⟩, some ⟨.goto, 3, 50, some "end"⟩⟩,
    ⟨none, .ifStart (.data "last" .equals (some "yes")), none⟩,
    ⟨none, .breakLoop, none⟩,
    ⟨none, .ifEnd, none⟩,
    ⟨none, .loopEnd (some "each"), none⟩,
    ⟨none, .label "end", none⟩]
  settings := { relationships := [⟨"orders", "lines", [⟨"id", "order"⟩]⟩] }
  handlers := [{ id := "learned", trigger := ⟨.dialog, "really?", .exact, ["Yes"]⟩, actions := [.press "Yes", .wait 50],
                 outcome := .continueLoop, learned := true, createdAt := some ⟨1700000000, 250000000⟩ }]

/-- A document with hardly more than must be there, and with a field that no workflow has. -/
def sketchedDocument : Json :=
  .obj [("steps", .arr [.obj [("target", .str "#ok"), ("type", .str "click"), ("button", .str "right")]]),
    ("version", .int 2)]

theorem orders_workflow_kept :
    Workflow.ofTree? ordersWorkflow.toJson = some ordersWorkflow ∧
    ∃ w, Workflow.ofTree? sketchedDocument = some w ∧ w.Unreserved ∧ Workflow.ofTree? w.toJson = some w := by
  have hfree : ordersWorkflow.Unreserved := by
    have hstep : ∀ s ∈ ordersWorkflow.steps, ∀ a ∈ s.kind.action?, ∀ p ∈ a.extra.entries,
        p.1 ∉ ActionSpec.reserved := by decide
    exact hstep
  have hinstants : ordersWorkflow.InstantsSurvive := by
    intro g hg t ht
    obtain rfl := List.mem_singleton.1 hg
    obtain rfl := Option.mem_some_iff.1 ht
    show Instant.read? _ = _
    decide +kernel
  obtain ⟨w, hread⟩ : ∃ w, Workflow.ofTree? sketchedDocument = some w := ⟨_, rfl⟩
  obtain ⟨hw, hagain⟩ := documents_round_trip.2 Json sketchedDocument w hread
  refine ⟨documents_round_trip.1 ordersWorkflow hfree hinstants, w, hread, hw, hagain ?_⟩
  -- The sketch has no handlers.
  intro g hg
  have hnone : (Workflow.ofTree? sketchedDocument).map (·.handlers) = some [] := rfl
  rw [hread] at hnone
  rw [show w.handlers = [] from Option.some.inj hnone] at hg
  cases hg

end FormReplay
