import FormReplay.Text.Numeral
import FormReplay.Text.Table
/-!
# Sets of code points

A table of rising ranges is a set.  The operations below keep the ranges apart: two of them neither
meet nor touch.  `CodeTable.ofText` reads a table from the notation that long tables are kept in.
-/
namespace FormReplay

namespace CodeTable

def lastCode : Nat := 0x10FFFF

/-- Puts a range in front of ranges none of which starts before it, and joins it with those that it
meets or touches. -/
def absorb (lo hi : Nat) : CodeTable → CodeTable
  | [] => [(lo, hi)]
  | (a, b) :: rest => if a ≤ hi + 1 then absorb lo (max hi b) rest else (lo, hi) :: (a, b) :: rest

def startsNoLater (a b : Nat × Nat) : Bool := a.1 ≤ b.1

def ofRanges (ranges : List (Nat × Nat)) : CodeTable :=
  (ranges.mergeSort startsNoLater).foldr (fun r table => absorb r.1 r.2 table) []

def ofCodes (codes : List Nat) : CodeTable := ofRanges (codes.map fun c => (c, c))

def union (a b : CodeTable) : CodeTable :=
  (List.merge a b startsNoLater).foldr (fun r table => absorb r.1 r.2 table) []

/-- The ranges from `next` on that the table leaves out. -/
def gaps (next : Nat) : CodeTable → CodeTable
  | [] => if next ≤ lastCode then [(next, lastCode)] else []
  | (lo, hi) :: rest =>
    if next < lo then (next, lo - 1) :: gaps (hi + 1) rest else gaps (hi + 1) rest

def complement (a : CodeTable) : CodeTable := gaps 0 a

def inter (a b : CodeTable) : CodeTable := (a.complement.union b.complement).complement

def without (a b : CodeTable) : CodeTable := (a.complement.union b).complement

def either (a b : CodeTable) : CodeTable := (a.without b).union (b.without a)

def isAscii (a : CodeTable) : Bool := a.all (·.2 < 0x80)

def entry (lo : Nat) (mark : Char) (hi : Nat) : CodeTable :=
  if mark = ':' then (List.range ((hi - lo) / 2 + 1)).map fun i => (lo + 2 * i, lo + 2 * i)
  else [(lo, hi)]

/-- Reads the entries of a line: `n` is the number being read, and `before` the start of its range with
the mark behind it. -/
def entries (before : Option (Nat × Char)) (n : Nat) : List Char → CodeTable
  | [] => ended before n
  | c :: rest =>
    if c = ' ' then ended before n ++ entries none 0 rest
    else
      match digitValue? c with
      | some d => entries before (16 * n + d) rest
      | none   => entries (some (n, c)) 0 rest
where
  ended (before : Option (Nat × Char)) (n : Nat) : CodeTable :=
    match before with
    | some (lo, mark) => entry lo mark n
    | none            => [(n, n)]

/-- A written table.  Its entries rise, one space apart: a code point `41`, a range `41-5A`, or every
second code point of a range `100:12E`, in hexadecimal. -/
def ofText (lines : List String) : CodeTable := lines.flatMap fun line => entries none 0 line.toList

end CodeTable

end FormReplay
