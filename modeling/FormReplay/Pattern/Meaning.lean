import FormReplay.Pattern.PropertyName
import FormReplay.Pattern.Reader
import FormReplay.Pattern.Size
import FormReplay.Text.Fold
/-!
# What a written pattern means

`Expression.meaning?` gives the pattern that an expression stands for under the flags in force, and
`Pattern.read?` the pattern of a text: case is ignored unless the text says otherwise.

Without the `unicode` flag a pattern is one of bytes.  Then sets are within ASCII, and whatever could
match a part of a character (the dot, a negated set, a byte beyond ASCII) is refused.
-/
namespace FormReplay

structure PatternFlags where
  anyCase   : Bool
  manyLines : Bool
  dotAll    : Bool
  returns   : Bool
  unicode   : Bool
  deriving Repr, DecidableEq

namespace PatternFlags

def initial : PatternFlags := ⟨true, false, false, false, true⟩

def change (f : PatternFlags) (c : FlagChange) : PatternFlags where
  anyCase   := (c.flag? .anyCase).getD f.anyCase
  manyLines := (c.flag? .manyLines).getD f.manyLines
  dotAll    := (c.flag? .dotAll).getD f.dotAll
  returns   := (c.flag? .returns).getD f.returns
  unicode   := (c.flag? .unicode).getD f.unicode

/-- A set with what agrees with its members, as far as case is ignored. -/
def fold (f : PatternFlags) (set : CodeTable) : CodeTable :=
  if !f.anyCase then set else if f.unicode then set.closeCase else set.closeAsciiCase

/-- A set, negated or not, that must be one of whole characters. -/
def whole? (f : PatternFlags) (negated : Bool) (set : CodeTable) : Option CodeTable :=
  let set := if negated then set.complement else set
  if f.unicode || set.isAscii then some set else none

def member? (f : PatternFlags) (l : Letter) : Option Nat :=
  if f.unicode || l.char.toNat < 0x80 then some l.char.toNat else none

/-- A character that stands for itself outside sets.  Among bytes a character beyond ASCII has no
case. -/
def letter? (f : PatternFlags) (l : Letter) : Option CodeTable :=
  let c := l.char.toNat
  if f.unicode then
    some (if f.anyCase then .ofCodes (caseVariants c) else [(c, c)])
  else if c < 0x80 then some (f.fold [(c, c)])
  else if l.byte then none
  else some [(c, c)]

def wordSet : CodeTable := digitTable.union wordTable

def named (f : PatternFlags) : NamedSet → CodeTable
  | .digit => if f.unicode then digitTable else [(0x30, 0x39)]
  | .blank => if f.unicode then blankTable else [(0x09, 0x0D), (0x20, 0x20)]
  | .word  =>
    if f.unicode then wordSet else [(0x30, 0x39), (0x41, 0x5A), (0x5F, 0x5F), (0x61, 0x7A)]

/-- A set by a property; bytes have none. -/
def property? (f : PatternFlags) (name : PropertyName) (negated : Bool) : Option CodeTable := do
  guard f.unicode
  f.whole? negated (f.fold (← name.codes?))

/-- Every character, but unless the dot matches all those that end a line. -/
def dot? (f : PatternFlags) : Option CodeTable :=
  if !f.unicode then none
  else if f.dotAll then some (CodeTable.complement [])
  else if f.returns then some (CodeTable.complement [(0x0A, 0x0A), (0x0D, 0x0D)])
  else some (CodeTable.complement [(0x0A, 0x0A)])

def anchor (f : PatternFlags) : AnchorSign → Anchor
  | .caret     => if f.manyLines then .lineStart f.returns else .textStart
  | .dollar    => if f.manyLines then .lineEnd f.returns else .textEnd
  | .textStart => .textStart
  | .textEnd   => .textEnd
  | .word edge => .word edge (!f.unicode)

end PatternFlags

def SetOperation.apply : SetOperation → CodeTable → CodeTable → CodeTable
  | .both    => CodeTable.inter
  | .without => CodeTable.without
  | .either  => CodeTable.either

namespace SetExpression

mutual

/-- The set under the flags in force.  Case counts before a set is negated or combined. -/
def meaning? (f : PatternFlags) : SetExpression → Option CodeTable
  | .letter l      => (f.member? l).map fun c => [(c, c)]
  | .range lo hi   => do return [(← f.member? lo, ← f.member? hi)]
  | .ascii set negated     => f.whole? negated (f.fold set)
  | .named set negated     => f.whole? negated (f.named set)
  | .property name negated => f.property? name negated
  | .bracket negated set   => do f.whole? negated (f.fold (← set.meaning? f))
  | .union items   => do return .ofRanges (← rangesOfAll? f items)
  | .combine op a b => do return op.apply (f.fold (← a.meaning? f)) (f.fold (← b.meaning? f))

def rangesOfAll? (f : PatternFlags) : List SetExpression → Option (List (Nat × Nat))
  | []      => some []
  | a :: as => do return (← a.meaning? f) ++ (← rangesOfAll? f as)

end

end SetExpression

namespace Expression

mutual

/-- The pattern under the flags in force, and the flags in force after it. -/
def meaning? (f : PatternFlags) : Expression → Option (Pattern × PatternFlags)
  | .letter l    => (f.letter? l).map fun set => (.one set, f)
  | .dot         => f.dot?.map fun set => (.one set, f)
  | .anchor sign => some (.anchor (f.anchor sign), f)
  | .named set negated     => (f.whole? negated (f.named set)).map fun set => (.one set, f)
  | .property name negated => (f.property? name negated).map fun set => (.one set, f)
  | .bracket negated set   => do return (.one (← f.whole? negated (f.fold (← set.meaning? f))), f)
  | .flags change          => some (.empty, f.change change)
  | .group remembers change e => do
    let (p, _) ← e.meaning? (f.change change)
    return (if remembers then .group p else p, f)
  | .times e low extra => do
    let (p, f) ← e.meaning? f
    return (p.repeated low extra, f)
  | .seq items => do
    let (ps, f) ← meanings? f items
    return (.ofItems ps, f)
  | .alt branches => do
    let (ps, f) ← meanings? f branches
    return (.oneOf ps, f)

def meanings? (f : PatternFlags) : List Expression → Option (List Pattern × PatternFlags)
  | []      => some ([], f)
  | e :: es => do
    let (p, f) ← e.meaning? f
    let (ps, f) ← meanings? f es
    return (p :: ps, f)

end

def maxDepth : Nat := 250

end Expression

def Pattern.read? (text : String) : Option Pattern := do
  let e ← Expression.read? text
  guard (e.depth ≤ Expression.maxDepth)
  let (p, _) ← e.meaning? .initial
  guard p.fits
  return p

end FormReplay
