import FormReplay.Reading.Payload
import FormReplay.Text.Numeral
/-!
# YAML scalars

What a scalar stands for.  Text in quotes or in a block is text.  A plain scalar is null, a truth
value or a number if it looks like one, and otherwise text.  A tag of the core schema says which of
them to take; a tag of the document's own gives the scalar a form that nothing here has.

Whole numbers are decimal, or hexadecimal, octal or binary after `0x`, `0o` and `0b`; digits after
a leading zero are text.
-/
namespace FormReplay

namespace Yaml

inductive Style where
  | plain
  | literal
  /-- In quotes, or folded. -/
  | other
  deriving DecidableEq, Repr

structure Scalar where
  text  : String
  style : Style
  tag   : Option String := none
  deriving DecidableEq, Repr

def coreTag (name : String) : String := "tag:yaml.org,2002:" ++ name

def ownTag? (tag : Option String) : Option String :=
  match tag.map String.toList with
  | some ['!']       => some "!"
  | some ('!' :: cs) => some (String.ofList cs)
  | _                => none

/-! ## Plain scalars -/

def isNullWord (s : String) : Bool := ["null", "Null", "NULL", "~"].contains s

def boolWord? (s : String) : Option Bool :=
  if ["true", "True", "TRUE"].contains s then some true
  else if ["false", "False", "FALSE"].contains s then some false
  else none

def isZeroLed (cs : List Char) : Bool :=
  let digits := match cs with
    | '-' :: rest => rest
    | '+' :: rest => rest
    | _           => cs
  match digits with
  | '0' :: c :: rest => (c :: rest).all Char.isDigit
  | _                => false

def marked? (bound : Nat) : List Char → Option Nat
  | '0' :: 'x' :: rest => (digitsValue? 16 rest).filter (· < bound)
  | '0' :: 'o' :: rest => (digitsValue? 8 rest).filter (· < bound)
  | '0' :: 'b' :: rest => (digitsValue? 2 rest).filter (· < bound)
  | _                  => none

def natBelow? (bound : Nat) (cs : List Char) : Option Nat :=
  let digits := match cs with
    | '+' :: rest => rest
    | _           => cs
  match marked? bound digits with
  | some n => some n
  | none   => if isZeroLed cs then none else (digitsValue? 10 digits).filter (· < bound)

def negative? (bound : Nat) : List Char → Option Int
  | '-' :: digits =>
    match marked? (bound + 1) digits with
    | some n => some (-n)
    | none   =>
      if isZeroLed digits then none else ((digitsValue? 10 digits).filter (· ≤ bound)).map fun n => -n
  | _ => none

def signed? (cs : List Char) : Option Int :=
  match natBelow? (Nat.pow 2 63) cs with
  | some n => some n
  | none   => negative? (Nat.pow 2 63) cs

inductive RealWord where
  | finite (x : Binary64)
  | infinite
  | undefined

/-- A decimal number with point or exponent, its sign apart, as digits and a power of ten. -/
def decimal? (cs : List Char) : Option (Nat × Int) := do
  let whole := cs.takeWhile Char.isDigit
  let rest := cs.drop whole.length
  let (fraction, rest) := match rest with
    | '.' :: rest =>
      let digits := rest.takeWhile Char.isDigit
      (digits, rest.drop digits.length)
    | _ => ([], rest)
  guard (!whole.isEmpty || !fraction.isEmpty)
  let exponent : Int ← match rest with
    | [] => some 0
    | e :: rest =>
      if e != 'e' && e != 'E' then none
      else match rest with
        | '-' :: digits => (digitsValue? 10 digits).map fun n => -n
        | '+' :: digits => (digitsValue? 10 digits).map fun n => n
        | digits        => (digitsValue? 10 digits).map fun n => n
  return ((← digitsValue? 10 ('0' :: whole ++ fraction)), exponent - fraction.length)

def nearest? (negative : Bool) (n : Nat) (e : Int) : Option Binary64 :=
  let size : Int := Nat.log2 n * 30103 / 100000 + e
  if n = 0 then some (.zero negative)
  else if 400 < size then none
  else if size < -800 then some (.zero negative)
  else if 0 ≤ e then Binary64.ofRatio negative (n * Nat.pow 10 e.toNat) 1
  else Binary64.ofRatio negative n (Nat.pow 10 (-e).toNat)

def real? (s : String) : Option RealWord :=
  if [".inf", ".Inf", ".INF", "+.inf", "+.Inf", "+.INF", "-.inf", "-.Inf", "-.INF"].contains s then
    some .infinite
  else if [".nan", ".NaN", ".NAN"].contains s then some .undefined
  else do
    let (negative, cs) := match s.toList with
      | '+' :: rest => (false, rest)
      | '-' :: rest => (true, rest)
      | cs          => (false, cs)
    let (n, e) ← decimal? cs
    return .finite (← nearest? negative n e)

def RealWord.payload : RealWord → Payload
  | .finite x => .value (.real x)
  | _         => .unwritable

/-- A whole number; one beyond 64 bits is refused. -/
def whole? (cs : List Char) : Option (Option Payload) :=
  match natBelow? (Nat.pow 2 64) cs with
  | some n => some (some (.value (.int n)))
  | none   =>
    match negative? (Nat.pow 2 63) cs with
    | some n => some (some (.value (.int n)))
    | none   =>
      if (natBelow? (Nat.pow 2 128) cs).isSome || (negative? (Nat.pow 2 127) cs).isSome then some none else none

def plainPayload? (s : String) : Option Payload :=
  let cs := s.toList
  if cs.isEmpty || isNullWord s then some (.value .null)
  else
    match boolWord? s with
    | some b => some (.value (.bool b))
    | none   =>
      match whole? cs with
      | some p => p
      | none   =>
        match if isZeroLed cs then none else real? s with
        | some x => some x.payload
        | none   => some (.value (.str s))

namespace Scalar

/-- What the scalar stands for where nothing is known about what is wanted. -/
def payload? (s : Scalar) : Option Payload :=
  match s.tag with
  | none => if s.style = .plain then plainPayload? s.text else some (.value (.str s.text))
  | some tag =>
    if (ownTag? (some tag)).isSome then none
    else if tag = coreTag "bool" then (boolWord? s.text).map fun b => .value (.bool b)
    else if tag = coreTag "int" then (whole? s.text.toList).getD none
    else if tag = coreTag "float" then (real? s.text).map RealWord.payload
    else if tag = coreTag "null" then if isNullWord s.text then some (.value .null) else none
    else some (.value (.str s.text))

def isBlank (s : Scalar) : Bool := s.style == .plain && s.text.isEmpty

def saysNothing (s : Scalar) : Bool := s.style == .plain && (s.text.isEmpty || isNullWord s.text)

/-- Whether a value of the core type may be read off the scalar: off a plain one, or a literal one
with the tag of the type. -/
def shows (type : String) (s : Scalar) : Bool :=
  s.style == .plain || (s.style == .literal && s.tag == some (coreTag type))

def bool? (s : Scalar) : Option Bool := if s.shows "bool" then boolWord? s.text else none

def nat? (s : Scalar) : Option Nat := if s.shows "int" then natBelow? (Nat.pow 2 64) s.text.toList else none

def int? (s : Scalar) : Option Int := if s.shows "int" then signed? s.text.toList else none

end Scalar

end Yaml

end FormReplay
