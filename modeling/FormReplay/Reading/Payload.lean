import FormReplay.Reading.Basic
/-!
# Reading what was set aside

In a payload a name may also be given by its place: a field of a structure, or the form of a value,
counted from zero.  A name of a fixed set may stand alone in a mapping, with nothing for a value.
-/
namespace FormReplay

namespace Payload

def parts? : Payload → Option (Parts Payload)
  | .list items         => some (.list items)
  | .map entries        => some (.map entries)
  | .value (.arr items) => some (.list (items.map .value))
  | .value (.obj fs)    => some (.map (fs.map fun (k, v) => (.value (.str k), .value v)))
  | .value _            => none
  | .unwritable         => none

def items? (p : Payload) : Option (List Payload) := do
  match ← p.parts? with
  | .list items => return items
  | .map _      => none

def form? (names : List String) : Payload → Option String
  | .value (.str s) => some s
  | .value (.int n) => n.toNat?.bind (names[·]?)
  | _               => none

/-- The name of a field; the place of no field is the name of none. -/
def fieldName? (names : List String) : Payload → Option (Option String)
  | .value (.str s) => some (some s)
  | .value (.int n) => n.toNat?.map (names[·]?)
  | _               => none

def entries? (p : Payload) : Option (Fields Payload) := do
  match ← p.parts? with
  | .list _      => none
  | .map entries =>
    entries.mapM fun (k, v) =>
      match k with
      | .value (.str s) => some (s, v)
      | _               => none

def fields? (names : List String) (p : Payload) : Option (Fields Payload) := do
  match ← p.parts? with
  | .list items  => if items.length ≤ names.length then some (names.zip items) else none
  | .map entries =>
    let named ← entries.mapM fun (k, v) => (fieldName? names k).map fun name => (name, v)
    return named.filterMap fun (name, v) => name.map (·, v)

def isNothing : Payload → Bool
  | .value .null     => true
  | .value (.obj fs) => fs.isEmpty
  | .map entries     => entries.isEmpty
  | _                => false

def name? (names : List String) (p : Payload) : Option String :=
  match p with
  | .value (.str s) => some s
  | _ => do
    match ← p.parts? with
    | .map [(k, v)] => if v.isNothing then form? names k else none
    | _             => none

instance : Readable Payload where
  option?
    | .value .null => some none
    | p            => some (some p)
  string?
    | .value (.str s) => some s
    | _               => none
  bool?
    | .value (.bool b) => some b
    | _                => none
  nat?
    | .value (.int n) => n.toNat?
    | _               => none
  int?
    | .value (.int n) => some n
    | _               => none
  items?   := items?
  entries? := entries?
  fields?  := fields?
  name?    := name?
  form?    := form?
  parts?   := parts?
  payload? := some

/-- What is left of a form that has no fields: a mapping whose entries do not matter, or an empty
list. -/
def isBare : Payload → Bool
  | .map _   => true
  | .list [] => true
  | _        => false

mutual

/-- A payload that is kept as it is: a number that JSON cannot write becomes null, and the last
entry of a name counts. -/
def free? : Payload → Option Json
  | .value j     => some j
  | .unwritable  => some .null
  | .list items  => (freeItems? items).map .arr
  | .map entries => (freeEntries? entries).map fun fs => .obj (sortFields fs)

def freeItems? : List Payload → Option (List Json)
  | []           => some []
  | item :: rest => do return (← free? item) :: (← freeItems? rest)

def freeEntries? : List (Payload × Payload) → Option (List (String × Json))
  | [] => some []
  | (.value (.str k), v) :: rest => do return (k, ← free? v) :: (← freeEntries? rest)
  | _ :: _ => none

end

end Payload

end FormReplay
