import FormReplay.Yaml.Scanner
/-!
# YAML documents

The tree that the tokens of a document make, and what its anchors name.  An alias is a leaf that
holds the number of its anchor, so a document stays as small as its text.

Anchors are numbered as they come: the number of an anchor is the count of names seen before it,
its own included when that stood before.  Two anchors may so share a number, and the later one is
then what all aliases of that number name.
-/
namespace FormReplay

namespace Yaml

inductive Tree where
  | scalar (s : Scalar)
  | list (tag : Option String) (items : List Tree)
  | map (tag : Option String) (entries : List (Tree × Tree))
  | alias (number : Nat)
  deriving Inhabited

def Tree.blank (tag : Option String) : Tree := .scalar ⟨"", .plain, tag⟩

structure Document where
  root    : Option Tree
  targets : List (Nat × Tree)
  /-- How many scalars, aliases and beginnings and ends of lists and mappings there are. -/
  size    : Nat

structure Outline where
  tokens  : List Token
  handles : List (String × String) := []
  names   : List (String × Nat) := []
  /-- For each number the places of its anchors, the last first. -/
  places  : List (Nat × Nat) := []
  anchors : Nat := 0
  found   : List (Nat × Tree) := []
  size    : Nat := 0

abbrev Reading := StateT Outline Option

namespace Reading

def next? : Reading (Option Token) := do return (← get).tokens.head?

def skip : Reading Unit := modify fun o => { o with tokens := o.tokens.tail }

def count (n : Nat) : Reading Unit := modify fun o => { o with size := o.size + n }

def expect (t : Token) : Reading Unit := do
  if (← next?) = some t then skip else failure

def passes (t : Token) : Reading Bool := do
  if (← next?) = some t then
    skip
    return true
  else return false

def leftOut (tag : Option String) : Reading Tree := do
  count 1
  return .blank tag

def expandTag (handle suffix : String) : Reading String := do
  if handle.isEmpty then return suffix
  else
    match field? handle (← get).handles with
    | some expansion => return expansion ++ suffix
    | none           => failure

/-- The anchor and the tag before a node, in either order, at most one of each. -/
def properties (fuel : Nat) (name : Option String) (tag : Option String) :
    Reading (Option String × Option String) := do
  match fuel with
  | 0 => return (name, tag)
  | fuel + 1 =>
    match ← next? with
    | some (.anchor n) =>
      if name.isSome then return (name, tag)
      else
        skip
        properties fuel (some n) tag
    | some (.tag handle suffix) =>
      if tag.isSome then return (name, tag)
      else
        skip
        properties fuel name (some (← expandTag handle suffix))
    | _ => return (name, tag)

def beginAnchor (name : String) : Reading Nat := do
  let o ← get
  let number := o.names.length
  let place := o.anchors
  set { o with
    names   := (name, number) :: o.names.filter (·.1 != name)
    places  := (number, place) :: o.places
    anchors := place + 1 }
  return place

def endAnchor (place : Nat) (t : Tree) : Reading Unit :=
  modify fun o => { o with found := (place, t) :: o.found }

/-- Whether a token ends the value of an entry before it has begun. -/
def endsEntry (t : Option Token) : Bool :=
  t == some .key || t == some .value || t == some .blockEnd

def endsInline (closing : Token) (t : Option Token) : Bool :=
  t == some .separator || t == some closing

mutual

/-- A node.  `inBlock` tells whether a block may stand here, and `unindented` whether a list may
stand here without indentation. -/
def node (fuel : Nat) (inBlock unindented : Bool) : Reading Tree :=
  match fuel with
  | 0 => failure
  | fuel + 1 => do
    match ← next? with
    | some (.alias name) =>
      skip
      count 1
      match field? name (← get).names with
      | some number => return .alias number
      | none        => failure
    | _ =>
      let (name, tag) ← properties 2 none none
      match name with
      | none => content fuel inBlock unindented false tag
      | some name =>
        let place ← beginAnchor name
        let t ← content fuel inBlock unindented true tag
        endAnchor place t
        return t

def content (fuel : Nat) (inBlock unindented anchored : Bool) (tag : Option String) : Reading Tree :=
  match fuel with
  | 0 => failure
  | fuel + 1 => do
    match ← next? with
    | some (.scalar style text) =>
      skip
      count 1
      return .scalar ⟨text, style, if tag = some "!" then none else tag⟩
    | some .listStart =>
      skip
      count 2
      return .list tag (← inlineItems fuel true [])
    | some .mapStart =>
      skip
      count 2
      return .map tag (← inlineEntries fuel true [])
    | t =>
      if t = some .blockEntry ∧ unindented then
        count 2
        return .list tag (← looseItems fuel [])
      else if t = some .blockList ∧ inBlock then
        skip
        count 2
        return .list tag (← blockItems fuel [])
      else if t = some .blockMap ∧ inBlock then
        skip
        count 2
        return .map tag (← blockEntries fuel [])
      else if anchored || tag.isSome then leftOut tag
      else failure

/-- The items of a list in a block of its own; `done` holds those before, the last first. -/
def blockItems (fuel : Nat) (done : List Tree) : Reading (List Tree) :=
  match fuel with
  | 0 => failure
  | fuel + 1 => do
    if ← passes .blockEnd then return done.reverse
    else
      expect .blockEntry
      let t ← next?
      let item ←
        if t = some .blockEntry ∨ t = some .blockEnd then leftOut none else node fuel true false
      blockItems fuel (item :: done)

/-- The items of a list that is not indented. -/
def looseItems (fuel : Nat) (done : List Tree) : Reading (List Tree) :=
  match fuel with
  | 0 => failure
  | fuel + 1 => do
    if ← passes .blockEntry then
      let t ← next?
      let item ← if t = some .blockEntry || endsEntry t then leftOut none else node fuel true false
      looseItems fuel (item :: done)
    else return done.reverse

def blockEntries (fuel : Nat) (done : List (Tree × Tree)) : Reading (List (Tree × Tree)) :=
  match fuel with
  | 0 => failure
  | fuel + 1 => do
    if ← passes .blockEnd then return done.reverse
    else
      expect .key
      let k ← if endsEntry (← next?) then leftOut none else node fuel true true
      let v ←
        if ← passes .value then
          if endsEntry (← next?) then leftOut none else node fuel true true
        else leftOut none
      blockEntries fuel ((k, v) :: done)

/-- The items of a list between brackets.  An item with a colon is a mapping of one entry. -/
def inlineItems (fuel : Nat) (first : Bool) (done : List Tree) : Reading (List Tree) :=
  match fuel with
  | 0 => failure
  | fuel + 1 => do
    if ← passes .listEnd then return done.reverse
    else
      if !first then expect .separator
      if ← passes .listEnd then return done.reverse
      else if ← passes .key then
        count 2
        let t ← next?
        let k ←
          if t = some .value || endsInline .listEnd t then
            skip
            leftOut none
          else node fuel false false
        let v ← inlineValue fuel .listEnd
        inlineItems fuel false (.map none [(k, v)] :: done)
      else inlineItems fuel false ((← node fuel false false) :: done)

def inlineEntries (fuel : Nat) (first : Bool) (done : List (Tree × Tree)) :
    Reading (List (Tree × Tree)) :=
  match fuel with
  | 0 => failure
  | fuel + 1 => do
    if ← passes .mapEnd then return done.reverse
    else
      if !first then expect .separator
      if ← passes .mapEnd then return done.reverse
      else if ← passes .key then
        let t ← next?
        let k ←
          if t = some .value || endsInline .mapEnd t then leftOut none else node fuel false false
        let v ← inlineValue fuel .mapEnd
        inlineEntries fuel false ((k, v) :: done)
      else
        let k ← node fuel false false
        let v ← leftOut none
        inlineEntries fuel false ((k, v) :: done)

def inlineValue (fuel : Nat) (closing : Token) : Reading Tree :=
  match fuel with
  | 0 => failure
  | fuel + 1 => do
    if ← passes .value then
      if endsInline closing (← next?) then leftOut none else node fuel false false
    else leftOut none

end

/-- The directives before a document: at most one version, which must be 1.1 or 1.2, and handles
for tags, each once. -/
def directives (fuel : Nat) (versioned : Bool) : Reading Unit :=
  match fuel with
  | 0 => failure
  | fuel + 1 => do
    match ← next? with
    | some (.version major minor) =>
      if versioned || major != 1 || (minor != 1 && minor != 2) then failure
      else
        skip
        directives fuel true
    | some (.handle name expansion) =>
      if (field? name (← get).handles).isSome then failure
      else
        skip
        modify fun o => { o with handles := o.handles ++ [(name, expansion)] }
        directives fuel versioned
    | _ => return ()

def commonHandles : List (String × String) := [("!", "!"), ("!!", coreTag "")]

def endsDocument : Option Token → Bool
  | none                 => true
  | some .documentStart  => true
  | some .documentEnd    => true
  | some (.version _ _)  => true
  | some (.handle _ _)   => true
  | _                    => false

def document (fuel : Nat) : Reading (Option Tree) := do
  let common : Reading Unit := modify fun o => { o with handles := o.handles ++ commonHandles }
  match ← next? with
  | none => return none
  | some t =>
    let explicit := match t with
      | .documentStart | .version _ _ | .handle _ _ => true
      | _ => false
    let root ←
      if explicit then
        directives fuel false
        common
        expect .documentStart
        if endsDocument (← next?) then leftOut none else node fuel true false
      else
        common
        node fuel true false
    finish fuel
    return some root
where
  finish (fuel : Nat) : Reading Unit :=
    match fuel with
    | 0 => failure
    | fuel + 1 => do
      if ← passes .documentEnd then finish fuel
      else if (← next?).isSome then failure

end Reading

def Document.ofText? (text : String) : Option Document := do
  let tokens ← Token.ofText? text
  let (root, o) ← (Reading.document (4 * tokens.length + 8)).run { tokens }
  let targets := o.places.filterMap fun (number, place) =>
    (o.found.find? (·.1 == place)).map fun (_, t) => (number, t)
  return { root, targets, size := o.size }

end Yaml

end FormReplay
