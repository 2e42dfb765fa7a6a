import FormReplay.Reading.Payload
/-!
# Reading model values off JSON

A structure may also be written as the array of its fields in order, the last ones left out if they
have defaults; and a name as the only field, null, of an object.
-/
namespace FormReplay

namespace Json

def items? : Json → Option (List Json)
  | .arr items => some items
  | _          => none

def entries? : Json → Option (Fields Json)
  | .obj fields => some fields
  | _           => none

def fields? (names : List String) : Json → Option (Fields Json)
  | .obj fields => some fields
  | .arr items  => if items.length ≤ names.length then some (names.zip items) else none
  | _           => none

def name? : Json → Option String
  | .str s            => some s
  | .obj [(s, .null)] => some s
  | _                 => none

def parts? : Json → Option (Parts Json)
  | .arr items  => some (.list items)
  | .obj fields => some (.map (fields.map fun (k, v) => (.str k, v)))
  | _           => none

instance : Readable Json where
  option?
    | .null => some none
    | j     => some (some j)
  string?
    | .str s => some s
    | _      => none
  bool?
    | .bool b => some b
    | _       => none
  nat?
    | .int n => n.toNat?
    | _      => none
  int?
    | .int n => some n
    | _      => none
  items?   := items?
  entries? := entries?
  fields?  := fields?
  name? _  := name?
  form? _
    | .str s => some s
    | _      => none
  parts?   := parts?
  payload? := fun j => some (.value j)

def record? : Json → Option Record
  | .obj fields => some (.ofFields fields)
  | _           => none

def ofOption {α : Type} (encode : α → Json) : Option α → Json
  | none   => .null
  | some a => encode a

def ofNat (n : Nat) : Json := .int n

def ofUInt32 (n : UInt32) : Json := .ofNat n.toNat

def ofUInt64 (n : UInt64) : Json := .ofNat n.toNat

def ofStrings (ss : List String) : Json := .arr (ss.map .str)

end Json

/-- The field of an optional value: nothing when it is absent. -/
def Fields.ofOption {α : Type} (name : String) (encode : α → Json) : Option α → Fields Json
  | none   => []
  | some a => [(name, encode a)]

end FormReplay
