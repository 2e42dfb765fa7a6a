import FormReplay.Pattern.Basic
/-!
# The size of a pattern

A pattern that repeats much is refused, however short its text.  Its size is that of two automata over
the bytes of UTF-8, one that reads a text forwards and tells the groups, one that reads it backwards:
32 for every state, and on top 8 for every edge of a state that tells several bytes apart and 4 for
every edge of a state that branches without reading.  `Pattern.fits` holds when neither exceeds ten
megabytes.

A set of characters beyond ASCII is a tree of byte ranges, in which ranges that agree up to some byte
share the way there.
-/
namespace FormReplay

namespace Utf8

abbrev ByteRange := Nat × Nat

/-- The code points from `lo` to `hi` as sequences of byte ranges, each of which stands for all
combinations of its bytes.  `first` is the first byte without its digit; `more` bytes with a digit of
six bits follow it, and `unit` is what the digit of the first one counts. -/
def sequencesFrom : (more unit first lo hi : Nat) → List (List ByteRange)
  | 0, _, first, lo, hi => [[(first + lo, first + hi)]]
  | more + 1, unit, first, lo, hi =>
    let below (digit lo hi : Nat) : List (List ByteRange) :=
      (sequencesFrom more (unit / 64) 0x80 lo hi).map ((first + digit, first + digit) :: ·)
    let a := lo / unit
    let b := hi / unit
    if a = b then below a (lo % unit) (hi % unit)
    else
      let cutsLow := lo % unit != 0
      let cutsHigh := hi % unit != unit - 1
      let start := if cutsLow then a + 1 else a
      let stop := if cutsHigh then b else b + 1
      (if cutsLow then below a (lo % unit) (unit - 1) else [])
        ++ (if start < stop then
              [(first + start, first + stop - 1) :: List.replicate (more + 1) (0x80, 0xBF)]
            else [])
        ++ (if cutsHigh then below b 0 (hi % unit) else [])

structure Stretch where
  lo    : Nat
  hi    : Nat
  more  : Nat
  unit  : Nat
  first : Nat

/-- All code points but the surrogates, which have no encoding. -/
def stretches : List Stretch :=
  [⟨0, 0x7F, 0, 1, 0⟩, ⟨0x80, 0x7FF, 1, 64, 0xC0⟩, ⟨0x800, 0xD7FF, 2, 4096, 0xE0⟩,
   ⟨0xE000, 0xFFFF, 2, 4096, 0xE0⟩, ⟨0x10000, 0x10FFFF, 3, 262144, 0xF0⟩]

def sequencesOf (lo hi : Nat) : List (List ByteRange) :=
  stretches.flatMap fun s =>
    if max lo s.lo ≤ min hi s.hi then
      sequencesFrom s.more s.unit s.first (max lo s.lo) (min hi s.hi)
    else []

def sequences (set : CodeTable) : List (List ByteRange) := set.flatMap fun r => sequencesOf r.1 r.2

def unshared : List ByteRange → List ByteRange → Nat
  | a :: old, b :: new => if a = b then unshared old new else new.length + 1
  | _, new             => new.length

/-- The number of nodes below the root of the tree of rising sequences. -/
def nodes (last : List ByteRange) : List (List ByteRange) → Nat
  | [] => 0
  | s :: rest => unshared last s + nodes s rest

def width (c : Nat) : Nat :=
  if c < 0x80 then 1 else if c < 0x800 then 2 else if c < 0x10000 then 3 else 4

end Utf8

/-- The sizes of the two automata. -/
structure PatternSize where
  forwards  : Nat
  backwards : Nat
  deriving Repr, DecidableEq

namespace PatternSize

def both (n : Nat) : PatternSize := ⟨n, n⟩

instance : Add PatternSize := ⟨fun a b => ⟨a.forwards + b.forwards, a.backwards + b.backwards⟩⟩

def times (n : Nat) (s : PatternSize) : PatternSize := ⟨n * s.forwards, n * s.backwards⟩

/-- The size of a set.  Forwards the nodes of its tree branch by bytes; backwards every sequence is
a chain of its own up to the bytes that it shares. -/
def ofSet (set : CodeTable) : PatternSize :=
  match set with
  | [(lo, hi)] => if lo = hi then both (32 * Utf8.width lo) else wide
  | _          => wide
where
  wide : PatternSize :=
    if set.isAscii then both (64 + 8 * set.length)
    else
      let encodings := Utf8.sequences set
      let nodes := Utf8.nodes [] encodings
      ⟨64 + 32 * (nodes - encodings.length) + 8 * nodes, 64 + 4 * encodings.length + 32 * nodes⟩

/-- The size of so many repetitions of a part, which matches `least` characters or more. -/
def repeated (least low : Nat) (extra : Option Nat) (part : PatternSize) : PatternSize :=
  match low, extra with
  | 0, none       => part + both (if 0 < least then 40 else 112)
  | 0, some 1     => part + both 72
  | 0, some k     => times k (part + both 40) + both 64
  | n + 1, none   => times (n + 1) part + both 40
  | n + 1, some 0 => times (n + 1) part
  | n + 1, some k => times (n + 1) part + both 32 + times k (part + both 40)

end PatternSize

namespace Pattern

def isAlt : Pattern → Bool
  | .alt _ _ => true
  | _        => false

/-- The size of a pattern.  For an alternative it counts the branches, each with the edge to it, and
not the states at which they part and meet: an alternative in another adds its branches to it. -/
def bareSize : Pattern → PatternSize
  | .empty    => .both 32
  | .one set  => .ofSet set
  | .anchor _ => .both 32
  | .group p  => closed p p.bareSize + ⟨64, 0⟩
  | .seq p q  => closed p p.bareSize + closed q q.bareSize
  | .alt p q  => branch p p.bareSize + branch q q.bareSize
  | .times p low extra => (closed p p.bareSize).repeated p.least low extra
where
  closed (p : Pattern) (size : PatternSize) : PatternSize :=
    if p.isAlt then size + .both 64 else size
  branch (p : Pattern) (size : PatternSize) : PatternSize :=
    if p.isAlt then size else size + .both 4

/-- The size of the automata that look for the pattern at every place of a text; the whole match is
a group. -/
def size (p : Pattern) : PatternSize := bareSize.closed p p.bareSize + ⟨64, 0⟩ + .both 144

def maxSize : Nat := 10 * Nat.pow 2 20

def fits (p : Pattern) : Bool := p.size.forwards ≤ maxSize && p.size.backwards ≤ maxSize

end Pattern

end FormReplay
