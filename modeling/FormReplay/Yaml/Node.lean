import FormReplay.Yaml.Tree
/-!
# Reading model values off YAML

A node is a place in the tree of a document, where an alias stands for what its anchor names.  Text
is read off any scalar, and anything else off a plain one.  A structure is a mapping; where nothing
is written a list or a mapping is empty.  A name of a fixed set may be a tag of the document's own.

Lists and mappings nest at most 128 deep, and what is set aside holds at most a hundred aliases for
each part of the document.
-/
namespace FormReplay

namespace Yaml

structure Node where
  document : Document
  depth    : Nat := 0
  /-- None where the whole document is empty. -/
  tree     : Option Tree

/-- What stands at a leaf, an alias followed. -/
def Document.resolve (d : Document) : Tree → Option Tree
  | .alias number => (d.targets.find? (·.1 == number)).map (·.2)
  | t             => some t

def maxDepth : Nat := 128

namespace Node

def opened? (n : Node) : Option (Option Tree) :=
  match n.tree with
  | none   => some none
  | some t => (n.document.resolve t).map some

def child (n : Node) (t : Tree) : Node := { n with depth := n.depth + 1, tree := some t }

def scalar? (n : Node) : Option Scalar := do
  match ← n.opened? with
  | some (.scalar s) => return s
  | _                => none

def option? (n : Node) : Option (Option Node) := do
  match ← n.opened? with
  | none => return none
  | some (.scalar s) =>
    if s.style ≠ .plain then return some n
    else
      match s.tag with
      | none => return if s.saysNothing then none else some n
      | some tag =>
        if tag ≠ coreTag "null" then return some n
        else if isNullWord s.text then return none
        else none
  | some _ => return some n

def items? (n : Node) : Option (List Node) := do
  match ← n.opened? with
  | none => return []
  | some (.list _ items) => if n.depth < maxDepth then return items.map n.child else none
  | some (.scalar s) => if s.isBlank then return [] else none
  | some _ => none

def entries? (n : Node) : Option (Fields Node) := do
  match ← n.opened? with
  | none => return []
  | some (.map _ entries) =>
    guard (n.depth < maxDepth)
    entries.mapM fun (k, v) => do return ((← (n.child k).scalar?).text, n.child v)
  | some (.scalar s) => if s.isBlank then return [] else none
  | some _ => none

def name? (n : Node) : Option String := do
  let s ← n.scalar?
  match ownTag? s.tag with
  | some name => if s.saysNothing then return name else none
  | none      => return s.text

def parts? (n : Node) : Option (Parts Node) := do
  match ← n.opened? with
  | some (.list tag items) =>
    guard ((ownTag? tag).isNone && n.depth < maxDepth)
    return .list (items.map n.child)
  | some (.map tag entries) =>
    guard ((ownTag? tag).isNone && n.depth < maxDepth)
    return .map (entries.map fun (k, v) => (n.child k, n.child v))
  | _ => none

end Node

/-- Reading a tree whole, counting the aliases that are followed. -/
abbrev Traversal := StateT Nat Option

def Document.follow (d : Document) (t : Tree) : Traversal Tree := do
  match t with
  | .alias _ =>
    let followed ← get
    if 100 * d.size ≤ followed then failure
    else
      set (followed + 1)
      liftM (d.resolve t)
  | t => return t

/-- Sets a tree aside; `room` bounds its depth. -/
def Document.payload (d : Document) (room : Nat) (t : Tree) : Traversal Payload := do
  match ← d.follow t, room with
  | .scalar s, _ => liftM s.payload?
  | .list tag items, room + 1 =>
    if (ownTag? tag).isSome then failure
    else return .list (← items.mapM fun t => d.payload room t)
  | .map tag entries, room + 1 =>
    if (ownTag? tag).isSome then failure
    else return .map (← entries.mapM fun (k, v) => do return (← d.payload room k, ← d.payload room v))
  | _, _ => failure

/-- A tree as a value of JSON; the last entry of a name counts. -/
def Document.value (d : Document) (room : Nat) (t : Tree) : Traversal Json := do
  match ← d.follow t, room with
  | .scalar s, _ => liftM (s.payload?.bind Payload.free?)
  | .list tag items, room + 1 =>
    if (ownTag? tag).isSome then failure
    else return .arr (← items.mapM fun t => d.value room t)
  | .map tag entries, room + 1 =>
    if (ownTag? tag).isSome then failure
    else
      let fields ← entries.mapM fun (k, v) => do
        match ← d.follow k with
        | .scalar s => return (s.text, ← d.value room v)
        | _         => failure
      return .obj (sortFields fields)
  | _, _ => failure

namespace Node

def payload? (n : Node) : Option Payload :=
  match n.tree with
  | none   => some (.value .null)
  | some t => (n.document.payload (maxDepth - n.depth) t).run' 0

def value? (n : Node) : Option Json :=
  match n.tree with
  | none   => some .null
  | some t => (n.document.value (maxDepth - n.depth) t).run' 0

def read? (text : String) : Option Node := do
  let document ← Document.ofText? text
  return { document, tree := document.root }

end Node

instance : Readable Node where
  option?   := Node.option?
  string? n := n.scalar?.map (·.text)
  bool? n   := n.scalar?.bind Scalar.bool?
  nat? n    := n.scalar?.bind Scalar.nat?
  int? n    := n.scalar?.bind Scalar.int?
  items?    := Node.items?
  entries?  := Node.entries?
  fields? _ := Node.entries?
  name? _   := Node.name?
  form? _ n := n.scalar?.map (·.text)
  parts?    := Node.parts?
  payload?  := Node.payload?

end Yaml

end FormReplay
