/-!
# Tables of code points

Character classes and case maps beyond ASCII are data of a standard.  A class is a list of
rising ranges; a case map is a list of stretches that move by one distance.  Both lists are
sorted, so a look-up of a small code point stops at the first entries.
-/
namespace FormReplay

/-- Rising ranges of code points, ends included. -/
abbrev CodeTable := List (Nat × Nat)

def CodeTable.holds : CodeTable → Nat → Bool
  | [], _ => false
  | (lo, hi) :: rest, c => decide (lo ≤ c) && (decide (c ≤ hi) || CodeTable.holds rest c)

/-- Every `step`-th code point from `first` to `last` moves by `shift`. -/
structure CodeShift where
  first : Nat
  last  : Nat
  step  : Nat
  shift : Int
  deriving Repr, DecidableEq

def CodeShift.covers (s : CodeShift) (c : Nat) : Bool :=
  decide (s.first ≤ c) && decide (c ≤ s.last) && (c - s.first) % s.step == 0

def CodeShift.move (s : CodeShift) (c : Nat) : Nat := ((c : Int) + s.shift).toNat

def CodeShift.codes (s : CodeShift) : List Nat :=
  (List.range ((s.last - s.first) / s.step + 1)).map fun i => s.first + s.step * i

/-- Where a code point moves; one that no stretch covers stays. -/
def CodeShift.apply : List CodeShift → Nat → Nat
  | [], c => c
  | s :: rest, c =>
    if c < s.first then c
    else if s.covers c then s.move c
    else CodeShift.apply rest c

def CodeShift.sources (table : List CodeShift) (c : Nat) : List Nat :=
  table.filterMap fun s =>
    let x := ((c : Int) - s.shift).toNat
    if s.covers x && s.move x == c then some x else none

end FormReplay
