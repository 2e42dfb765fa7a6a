import FormReplay.Json.Decode
/-!
# JSON as written

What a text says, before it is known what will be read of it: the fields of an object stand in the
order written, and a name may repeat.  A text may also hold values that JSON can write but that
stand for nothing: half a surrogate pair, a number beyond all doubles, a nesting deeper than 127.
Such a value is `void`; it is an error to read it, but not to pass over it.
-/
namespace FormReplay

inductive WrittenJson where
  | scalar (j : Json)
  | list (items : List WrittenJson)
  | map (entries : List (String × WrittenJson))
  | void
  deriving Inhabited

namespace WrittenJson

def items? : WrittenJson → Option (List WrittenJson)
  | .list items => some items
  | _           => none

def entries? : WrittenJson → Option (Fields WrittenJson)
  | .map entries => some entries
  | _            => none

def fields? (names : List String) : WrittenJson → Option (Fields WrittenJson)
  | .map entries => some entries
  | .list items  => if items.length ≤ names.length then some (names.zip items) else none
  | _            => none

def name? : WrittenJson → Option String
  | .scalar (.str s)          => some s
  | .map [(s, .scalar .null)] => some s
  | _                         => none

def parts? : WrittenJson → Option (Parts WrittenJson)
  | .list items  => some (.list items)
  | .map entries => some (.map (entries.map fun (k, v) => (.scalar (.str k), v)))
  | _            => none

mutual

def payload? : WrittenJson → Option Payload
  | .scalar j    => some (.value j)
  | .list items  => (itemPayloads? items).map .list
  | .map entries => (entryPayloads? entries).map .map
  | .void        => none

def itemPayloads? : List WrittenJson → Option (List Payload)
  | []           => some []
  | item :: rest => do return (← item.payload?) :: (← itemPayloads? rest)

def entryPayloads? : List (String × WrittenJson) → Option (List (Payload × Payload))
  | []             => some []
  | (k, v) :: rest => do return (.value (.str k), ← v.payload?) :: (← entryPayloads? rest)

end

instance : Readable WrittenJson where
  option?
    | .scalar .null => some none
    | .void         => none
    | w             => some (some w)
  string?
    | .scalar (.str s) => some s
    | _                => none
  bool?
    | .scalar (.bool b) => some b
    | _                 => none
  nat?
    | .scalar (.int n) => n.toNat?
    | _                => none
  int?
    | .scalar (.int n) => some n
    | _                => none
  items?   := items?
  entries? := entries?
  fields?  := fields?
  name? _  := name?
  form? _
    | .scalar (.str s) => some s
    | _                => none
  parts?   := parts?
  payload? := payload?

/-- The value that is written; the last field of a name counts. -/
def value? (w : WrittenJson) : Option Json := do (← w.payload?).free?

end WrittenJson

end FormReplay
