/-!
# Doubles as exact numbers

A finite double is a sign, a whole mantissa and a power of two, so that arithmetic on doubles is
arithmetic on natural numbers with one rounding at the end.  Rounding goes to the nearest double
and, of two equally near, to the one with the even mantissa.
-/
namespace FormReplay

/-- The number `mantissa · 2^exponent`, negated or not.  The mantissa is below `2^53`, and at
least `2^52` unless the exponent is the least one, `-1074`. -/
structure Binary64 where
  negative : Bool
  mantissa : Nat
  exponent : Int
  deriving DecidableEq, Repr

namespace Binary64

def zero (negative : Bool) : Binary64 := ⟨negative, 0, -1074⟩

/-- `num / den` in units of `2^e`, as a ratio. -/
def inUnits (num den : Nat) (e : Int) : Nat × Nat :=
  if 0 ≤ e then (num, den * Nat.pow 2 e.toNat) else (num * Nat.pow 2 (-e).toNat, den)

/-- The quotient rounded to the nearest natural number, a half going to the even one. -/
def roundDiv (num den : Nat) : Nat :=
  let q := num / den
  let r := num % den
  if 2 * r < den then q
  else if den < 2 * r then q + 1
  else if q % 2 == 0 then q else q + 1

/-- The exponent of the last place of a double near `num / den`. -/
def lastPlace (num den : Nat) : Int :=
  let e : Int := (Nat.log2 num : Int) - Nat.log2 den - 52
  let (n, d) := inUnits num den e
  max (-1074) (if n / d < Nat.pow 2 52 then e - 1 else e)

/-- The double nearest to `num / den`; none when that is beyond the greatest one. -/
def ofRatio (negative : Bool) (num den : Nat) : Option Binary64 :=
  if num = 0 then some (zero negative)
  else
    let e := lastPlace num den
    let (n, d) := inUnits num den e
    let m := roundDiv n d
    let (m, e) := if m = Nat.pow 2 53 then (Nat.pow 2 52, e + 1) else (m, e)
    if 971 < e then none else some ⟨negative, m, e⟩

def ratio (x : Binary64) : Nat × Nat := inUnits x.mantissa 1 (-x.exponent)

def mul (x y : Binary64) : Option Binary64 :=
  ofRatio (x.negative != y.negative) (x.ratio.1 * y.ratio.1) (x.ratio.2 * y.ratio.2)

def div (x y : Binary64) : Option Binary64 :=
  ofRatio (x.negative != y.negative) (x.ratio.1 * y.ratio.2) (x.ratio.2 * y.ratio.1)

/-- The double nearest to `10^n`, for `n` up to 308. -/
def tenTo (n : Nat) : Binary64 := (ofRatio false (Nat.pow 10 n) 1).getD (zero false)

/-- `x · 10^e`: one multiplication or division by the double nearest to the power of ten.  A
divisor beyond `10^308` is applied in parts, as long as something is left to divide. -/
def scale (x : Binary64) (e : Int) : Option Binary64 :=
  if e.natAbs ≤ 308 then
    if 0 ≤ e then x.mul (tenTo e.natAbs) else x.div (tenTo e.natAbs)
  else if x.mantissa = 0 then some x
  else if 0 ≤ e then none
  else do scale (← x.div (tenTo 308)) (e + 308)
termination_by e.natAbs
decreasing_by omega

/-- The double read for a decimal with these significant digits: the digits are rounded first,
then scaled by the power of ten.  None when the number is too great. -/
def ofDigits (negative : Bool) (digits : Nat) (exponent : Int) : Option Binary64 := do
  let x ← ofRatio false digits 1
  let y ← x.scale exponent
  return { y with negative }

end Binary64

end FormReplay
