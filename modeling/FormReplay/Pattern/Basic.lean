import FormReplay.Text.Ranges
import FormReplay.Text.Word
/-!
# Text patterns

What a search pattern matches.  A pattern takes a place between the characters of a text to the
places at which a match from there can end; it is found in a text when some place leads to some
other.  Which of several matches is preferred plays no part, so greedy and lazy repetition are one.

All places are followed at once: a set of places is a number with a bit for each, the start of the
text being the lowest.  `Pattern.over` lays a pattern over a text, that is, puts for every set of
characters the set of places before them; after that a step is an intersection and a shift, and
a repetition ends as soon as it adds no place.
-/
namespace FormReplay

/-! ## Places that are passed without reading -/

inductive WordEdge where
  | any
  | none
  | start
  | finish
  | startHalf
  | finishHalf
  deriving Repr, DecidableEq

def WordEdge.lies (before after : Bool) : WordEdge → Bool
  | .any        => before != after
  | .none       => before == after
  | .start      => !before && after
  | .finish     => before && !after
  | .startHalf  => !before
  | .finishHalf => !after

/-- What a place must be.  With `returns`, a carriage return ends a line too, and none ends between it
and the line feed after it. -/
inductive Anchor where
  | textStart
  | textEnd
  | lineStart (returns : Bool)
  | lineEnd (returns : Bool)
  | word (edge : WordEdge) (ascii : Bool)
  deriving Repr, DecidableEq

/-- Letters, digits and the underscore of ASCII. -/
def isAsciiWord (c : Char) : Bool := c.isAlphanum || c == '_'

def Anchor.holds (before after : Option Char) : Anchor → Bool
  | .textStart       => before.isNone
  | .textEnd         => after.isNone
  | .lineStart false => before.all (· == '\n')
  | .lineEnd false   => after.all (· == '\n')
  | .lineStart true  => before.all (· == '\n') || (before == some '\r' && after != some '\n')
  | .lineEnd true    => after.all (· == '\r') || (after == some '\n' && before != some '\r')
  | .word edge ascii =>
    let inWord := if ascii then isAsciiWord else isWord
    edge.lies (before.any inWord) (after.any inWord)

/-! ## Patterns -/

inductive Pattern where
  | empty
  | one (set : CodeTable)
  | anchor (a : Anchor)
  /-- A group that remembers what it matched. -/
  | group (p : Pattern)
  | seq (p q : Pattern)
  | alt (p q : Pattern)
  /-- At least `low` times, and at most `extra` times more. -/
  | times (p : Pattern) (low : Nat) (extra : Option Nat)
  deriving Repr

namespace Pattern

def least : Pattern → Nat
  | .empty       => 0
  | .one _       => 1
  | .anchor _    => 0
  | .group p     => p.least
  | .seq p q     => p.least + q.least
  | .alt p q     => min p.least q.least
  | .times p n _ => n * p.least

def isHollow : Pattern → Bool
  | .empty       => true
  | .one _       => false
  | .anchor _    => true
  | .group p     => p.isHollow
  | .seq p q     => p.isHollow && q.isHollow
  | .alt p q     => p.isHollow && q.isHollow
  | .times p _ _ => p.isHollow

/-- One pattern after the other, those that match just the empty text left out. -/
def ofItems : List Pattern → Pattern
  | [] => .empty
  | .empty :: rest => ofItems rest
  | p :: rest =>
    match ofItems rest with
    | .empty => p
    | q      => .seq p q

def set? : Pattern → Option CodeTable
  | .one set => some set
  | _        => none

def isSingle : CodeTable → Bool
  | [(lo, hi)] => lo == hi
  | _          => false

/-- One of several patterns.  Branches that are single characters, or sets of several, are one set. -/
def oneOf (branches : List Pattern) : Pattern :=
  let joined : Option Pattern := do
    let sets ← branches.mapM set?
    guard (sets.all isSingle || !sets.any isSingle)
    return .one (CodeTable.ofRanges sets.flatten)
  match branches, joined with
  | [], _            => .empty
  | [p], _           => p
  | _, some p        => p
  | p :: rest, none  => rest.foldl .alt p

/-- A pattern between `low` and `low + extra` times.  Whatever is hollow matches once if at all. -/
def repeated (p : Pattern) (low : Nat) (extra : Option Nat) : Pattern :=
  let (low, extra) :=
    if !p.isHollow then (low, extra)
    else if low = 0 then (0, some (min 1 (extra.getD 1)))
    else (1, some 0)
  match low, extra with
  | 0, some 0 => .empty
  | 1, some 0 => p
  | _, _      => .times p low extra

end Pattern

/-! ## Matching -/

/-- A number whose bits, the first element's the lowest, tell where `p` holds. -/
def bitsOf {α : Type} (p : α → Bool) (items : List α) : Nat :=
  items.foldr (fun a n => 2 * n + (p a).toNat) 0

def sidesFrom (before : Option Char) : List Char → List (Option Char × Option Char)
  | []        => [(before, none)]
  | c :: rest => (before, some c) :: sidesFrom (some c) rest

inductive Overlay where
  | stay
  /-- Reads a character at one of the places. -/
  | step (places : Nat)
  /-- Passes one of the places. -/
  | hold (places : Nat)
  | seq (p q : Overlay)
  | alt (p q : Overlay)
  | times (p : Overlay) (low : Nat) (extra : Option Nat)

def Pattern.over (text : List Char) : Pattern → Overlay
  | .empty           => .stay
  | .one set         => .step (bitsOf (fun c : Char => set.holds c.toNat) text)
  | .anchor a        => .hold (bitsOf (fun side => a.holds side.1 side.2) (sidesFrom none text))
  | .group p         => p.over text
  | .seq p q         => .seq (p.over text) (q.over text)
  | .alt p q         => .alt (p.over text) (q.over text)
  | .times p low ext => .times (p.over text) low ext

/-- The set after exactly `n` rounds; a set that a round keeps stays as it is. -/
def roundsExactly (round : Nat → Nat) : Nat → Nat → Nat
  | 0, places => places
  | n + 1, places =>
    let next := round places
    if next = places then places else roundsExactly round n next

/-- What at most `n` rounds reach; a round starts from the places that the last one added. -/
def roundsWithin (round : Nat → Nat) : Nat → (reached added : Nat) → Nat
  | 0, reached, _ => reached
  | n + 1, reached, added =>
    let all := reached ||| round added
    if all = reached then reached else roundsWithin round n all (all ^^^ reached)

/-- The places at which a match that starts at one of the places can end, in a text that has `count`
places: as many rounds reach what any number of rounds does. -/
def Overlay.ends (count : Nat) : Overlay → Nat → Nat
  | .stay, places        => places
  | .step known, places  => (places &&& known) <<< 1
  | .hold known, places  => places &&& known
  | .seq p q, places     => q.ends count (p.ends count places)
  | .alt p q, places     => p.ends count places ||| q.ends count places
  | .times p low extra, places =>
    let least := roundsExactly (p.ends count) low places
    roundsWithin (p.ends count) (extra.getD count) least least

def Pattern.found (p : Pattern) (text : String) : Bool :=
  let cs := text.toList
  let count := cs.length + 1
  (p.over cs).ends count (Nat.pow 2 count - 1) != 0

end FormReplay
