import FormReplay.Json.Record
/-!
# Reading documents

A model value is read off a tree: `none` when the tree does not have its form.  The tree may be
written in any notation; what the notation decides is in the class `Readable`, and the rules of
this module hold for all of them.

A field that is missing is an error unless it has a default or is optional.  A field that is read
stands once; what no rule asks for is ignored.  Texts, truth values, whole numbers and lists take
only what their notation writes for them.

Which fields a value has may depend on a field that names its form.  All else is then set aside as
a `Payload` until the form is known.
-/
namespace FormReplay

/-- What is set aside until it is known how to read it.  The names of a mapping may be anything, and
may repeat. -/
inductive Payload where
  | value (j : Json)
  /-- A number that JSON cannot write: infinite or none at all. -/
  | unwritable
  | list (items : List Payload)
  | map (entries : List (Payload × Payload))
  deriving Inhabited

/-- The entries of a mapping that have texts as names, in the order written. -/
abbrev Fields (β : Type) := List (String × β)

inductive Parts (β : Type) where
  | list (items : List β)
  | map (entries : List (β × β))

/-- Trees of one notation. -/
class Readable (β : Type) where
  /-- Whether a value is there at all, for a field that may be left empty. -/
  option? : β → Option (Option β)
  string? : β → Option String
  bool? : β → Option Bool
  nat? : β → Option Nat
  int? : β → Option Int
  items? : β → Option (List β)
  entries? : β → Option (Fields β)
  /-- The fields of a structure whose fields have these names in order. -/
  fields? (names : List String) : β → Option (Fields β)
  /-- One of these names, where nothing but a name can stand. -/
  name? (names : List String) : β → Option String
  /-- The form that a tag names, of these forms in order. -/
  form? (forms : List String) : β → Option String
  parts? : β → Option (Parts β)
  payload? : β → Option Payload

namespace Fields

variable {α β : Type}

/-- The field of a name, if there is one; an error if there are several. -/
def single? (fields : Fields β) (name : String) : Option (Option β) :=
  match fields.filter fun p => p.1 == name with
  | []  => some none
  | [p] => some (some p.2)
  | _   => none

def required (fields : Fields β) (name : String) (decode : β → Option α) : Option α := do
  decode (← ← fields.single? name)

def withDefault (fields : Fields β) (name : String) (decode : β → Option α) (default : α) : Option α := do
  match ← fields.single? name with
  | none   => some default
  | some b => decode b

def optional [Readable β] (fields : Fields β) (name : String) (decode : β → Option α) :
    Option (Option α) := do
  match ← fields.single? name with
  | none   => some none
  | some b =>
    match ← Readable.option? b with
    | none   => some none
    | some b => (decode b).map some

end Fields

namespace Readable

variable {α β : Type} [Readable β]

/-- A whole number from zero up to, not including, the bound. -/
def natBelow? (bound : Nat) (b : β) : Option Nat := (nat? b).filter (· < bound)

def nat64? (b : β) : Option Nat := natBelow? (Nat.pow 2 64) b

def uint32? (b : β) : Option UInt32 := do return .ofNat (← natBelow? (Nat.pow 2 32) b)

def uint64? (b : β) : Option UInt64 := do return .ofNat (← nat64? b)

def int32? (b : β) : Option Int32 := do
  let n ← int? b
  if -2147483648 ≤ n ∧ n ≤ 2147483647 then some (.ofInt n) else none

def list? (item : β → Option α) (b : β) : Option (List α) := do (← items? b).mapM item

def oneOf? (names : List (String × α)) (b : β) : Option α := do
  field? (← name? (names.map (·.1)) b) names

def setAside (entries : List (β × β)) : Option (List (Payload × Payload)) :=
  entries.mapM fun (k, v) => do return (← payload? k, ← payload? v)

def isNamed (name : String) (entry : β × β) : Bool :=
  match payload? entry.1 with
  | some (.value (.str s)) => s == name
  | _                      => false

/-- A value of one of several forms: the name of the form under `tag`, and the rest.  In a list the
form comes first. -/
def tagged? (tag : String) (forms : List String) (b : β) : Option (String × Payload) := do
  match ← parts? b with
  | .list items =>
    let form ← form? forms (← items.head?)
    return (form, .list (← items.tail.mapM payload?))
  | .map entries =>
    match entries.filter (isNamed tag) with
    | [t] =>
      let form ← form? forms t.2
      return (form, .map (← setAside (entries.filter fun e => !isNamed tag e)))
    | _ => none

end Readable

end FormReplay
