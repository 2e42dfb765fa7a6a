import FormReplay.Pattern.Basic
/-!
# Written patterns

The syntax of a written pattern, before flags decide what its parts match.  `Expression.depth` tells
how deep its parts nest.
-/
namespace FormReplay

/-- What a letter in `(?flags)` turns on or off. -/
inductive PatternFlag where
  | anyCase
  | manyLines
  | dotAll
  | swapGreed
  | unicode
  | returns
  /-- Blanks and comments between the parts of a pattern are skipped. -/
  | spaced
  deriving Repr, DecidableEq

/-- Flags turned on or off, none of them twice. -/
abbrev FlagChange := List (PatternFlag × Bool)

def FlagChange.flag? (change : FlagChange) (flag : PatternFlag) : Option Bool :=
  (change.find? (·.1 == flag)).map (·.2)

structure Letter where
  char : Char
  /-- Whether it is written as a byte, by two hexadecimal digits. -/
  byte : Bool
  deriving Repr, DecidableEq

inductive NamedSet where
  | digit
  | blank
  | word
  deriving Repr, DecidableEq

inductive PropertyName where
  | plain (name : String)
  | valued (property value : String)
  deriving Repr, DecidableEq

inductive SetOperation where
  | both
  | without
  | either
  deriving Repr, DecidableEq

/-- The anchors as they are written; flags tell whether `^` and `$` are about the text or its lines. -/
inductive AnchorSign where
  | caret
  | dollar
  | textStart
  | textEnd
  | word (edge : WordEdge)
  deriving Repr, DecidableEq

inductive SetExpression where
  | letter (l : Letter)
  | range (lo hi : Letter)
  /-- A set of ASCII such as `[:alpha:]`. -/
  | ascii (set : CodeTable) (negated : Bool)
  | named (set : NamedSet) (negated : Bool)
  | property (name : PropertyName) (negated : Bool)
  | bracket (negated : Bool) (set : SetExpression)
  /-- What one of the items holds; nothing when there are none. -/
  | union (items : List SetExpression)
  | combine (op : SetOperation) (a b : SetExpression)
  deriving Repr

inductive Expression where
  | letter (l : Letter)
  | dot
  | anchor (sign : AnchorSign)
  | named (set : NamedSet) (negated : Bool)
  | property (name : PropertyName) (negated : Bool)
  | bracket (negated : Bool) (set : SetExpression)
  /-- Flags for the rest of the group. -/
  | flags (change : FlagChange)
  | group (remembers : Bool) (change : FlagChange) (e : Expression)
  | times (e : Expression) (low : Nat) (extra : Option Nat)
  | seq (items : List Expression)
  | alt (branches : List Expression)
  deriving Repr

namespace SetExpression

def ofItems : List SetExpression → SetExpression
  | [item] => item
  | items  => .union items

mutual

def depth : SetExpression → Nat
  | .bracket _ set   => set.depth + 1
  | .union []        => 0
  | .union (a :: as) => max a.depth (depthOfAll as) + 1
  | .combine _ a b   => max a.depth b.depth + 1
  | _                => 0

def depthOfAll : List SetExpression → Nat
  | []      => 0
  | a :: as => max a.depth (depthOfAll as)

end

end SetExpression

namespace Expression

def ofItems : List Expression → Expression
  | [item] => item
  | items  => .seq items

def ofBranches : List Expression → Expression
  | [branch] => branch
  | branches => .alt branches

mutual

/-- How many sets, groups, repetitions, sequences and alternatives are within each other. -/
def depth : Expression → Nat
  | .bracket _ set => set.depth + 1
  | .group _ _ e   => e.depth + 1
  | .times e _ _   => e.depth + 1
  | .seq []        => 0
  | .seq (e :: es) => max e.depth (depthOfAll es) + 1
  | .alt []        => 0
  | .alt (e :: es) => max e.depth (depthOfAll es) + 1
  | _              => 0

def depthOfAll : List Expression → Nat
  | []      => 0
  | e :: es => max e.depth (depthOfAll es)

end

end Expression

end FormReplay
