import FormReplay.Decimal.Binary64
/-!
# The shortest decimal of a double

A double is written with the fewest significant digits that read back as that double.  The reals
that round to a double form an interval around it, ends included when the mantissa is even.  On
the grid of decimals with `n` digits at most the two neighbours of the double need a test, so the
grids are tried from one digit up; of two hits on one grid the nearer is taken, of two equally
near the even one.
-/
namespace FormReplay

structure Decimal where
  digits   : Nat
  exponent : Int
  deriving DecidableEq, Repr

/-- How many decimal digits a number has; zero has none. -/
def digitCount : Nat → Nat
  | 0     => 0
  | n + 1 => 1 + digitCount ((n + 1) / 10)
decreasing_by omega

/-- A number, half-way points to its neighbours, and whether these still round to it; all over one
denominator. -/
structure Neighbourhood where
  value : Nat
  low   : Nat
  high  : Nat
  den   : Nat
  ends  : Bool

/-- The reals that round to the absolute value of a double.  Below a power of two the next double
is half as far. -/
def Binary64.neighbourhood (x : Binary64) : Neighbourhood :=
  let below := if x.mantissa = Nat.pow 2 52 ∧ -1074 < x.exponent then 1 else 2
  let m := 4 * x.mantissa
  let e := x.exponent - 2
  let up : Nat := if 0 ≤ e then Nat.pow 2 e.toNat else 1
  { value := m * up, low := (m - below) * up, high := (m + 2) * up
    den := if 0 ≤ e then 1 else Nat.pow 2 (-e).toNat
    ends := x.mantissa % 2 == 0 }

namespace Neighbourhood

/-- The power of ten of the first digit. -/
def magnitude (v : Neighbourhood) : Int :=
  if v.den ≤ v.value then (digitCount (v.value / v.den) : Int) - 1
  else - (digitCount ((v.den - 1) / v.value) : Int)

def compareTo (v : Neighbourhood) (d : Decimal) (n : Nat) : Ordering :=
  if 0 ≤ d.exponent then compare (d.digits * Nat.pow 10 d.exponent.toNat * v.den) n
  else compare (d.digits * v.den) (n * Nat.pow 10 (-d.exponent).toNat)

def holds (v : Neighbourhood) (d : Decimal) : Bool :=
  match v.compareTo d v.low, v.compareTo d v.high with
  | .gt, .lt => true
  | .eq, _   => v.ends
  | _, .eq   => v.ends
  | _, _     => false

/-- The multiple of `10^exponent` at or below the value. -/
def floorAt (v : Neighbourhood) (exponent : Int) : Nat :=
  if 0 ≤ exponent then v.value / (v.den * Nat.pow 10 exponent.toNat)
  else v.value * Nat.pow 10 (-exponent).toNat / v.den

/-- Twice the value against the sum of two grid neighbours. -/
def nearerBelow (v : Neighbourhood) (a : Nat) (exponent : Int) : Ordering :=
  v.compareTo ⟨2 * a + 1, exponent⟩ (2 * v.value)

def onGrid (v : Neighbourhood) (exponent : Int) : Option Decimal :=
  let a := v.floorAt exponent
  let below : Decimal := ⟨a, exponent⟩
  let above : Decimal := ⟨a + 1, exponent⟩
  match v.holds below, v.holds above with
  | true, false  => some below
  | false, true  => some above
  | false, false => none
  | true, true   =>
    match v.nearerBelow a exponent with
    | .gt => some below
    | .lt => some above
    | .eq => some (if a % 2 == 0 then below else above)

def search (v : Neighbourhood) : Nat → Int → Decimal
  | 0, exponent         => ⟨v.floorAt exponent, exponent⟩
  | tries + 1, exponent =>
    match v.onGrid exponent with
    | some d => d
    | none   => search v tries (exponent - 1)

end Neighbourhood

def Decimal.trim (d : Decimal) : Decimal :=
  if h : 0 < d.digits ∧ d.digits % 10 = 0 then Decimal.trim ⟨d.digits / 10, d.exponent + 1⟩ else d
termination_by d.digits
decreasing_by exact Nat.div_lt_self h.1 (by decide)

def Binary64.shortest (x : Binary64) : Decimal :=
  if x.mantissa = 0 then ⟨0, 0⟩
  else
    let v := x.neighbourhood
    (v.search 17 v.magnitude).trim

def digitChars (n : Nat) : List Char := (Nat.toDigits 10 n)

/-- The text of a decimal.  Between `10^-5` and `10^16` it is positional, with a fraction even when
that is zero; outside it has one digit before the point and an exponent with its sign. -/
def Decimal.text (d : Decimal) : List Char :=
  let ds := digitChars d.digits
  let lead : Int := d.exponent + (ds.length : Int) - 1
  if -5 ≤ lead ∧ lead ≤ 15 then
    if 0 ≤ d.exponent then ds ++ List.replicate d.exponent.toNat '0' ++ ['.', '0']
    else if 0 ≤ lead then ds.take (lead.toNat + 1) ++ '.' :: ds.drop (lead.toNat + 1)
    else '0' :: '.' :: List.replicate (-lead - 1).toNat '0' ++ ds
  else
    let mark := if lead < 0 then ['e', '-'] else ['e', '+']
    let tail := if ds.length ≤ 1 then [] else '.' :: ds.drop 1
    ds.take 1 ++ tail ++ mark ++ digitChars lead.natAbs

def Binary64.text (x : Binary64) : List Char :=
  (if x.negative then ['-'] else []) ++ x.shortest.text

end FormReplay
