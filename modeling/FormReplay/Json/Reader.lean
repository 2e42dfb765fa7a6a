import FormReplay.Json.Written
import FormReplay.Text.Numeral
/-!
# Reading JSON

`WrittenJson.read?` reads the one value that a text holds; a text that is no JSON gives `none`.
`Json.read?` takes the value out of it.

A whole number keeps its value while it fits 64 bits, unsigned or, when negative, signed; the
negative zero is a double.  Of the digits of a double as many count as fit 64 bits: what follows
counts only for the power of ten.
-/
namespace FormReplay

namespace JsonText

def isBlank (c : Char) : Bool := c == ' ' || c == '\t' || c == '\n' || c == '\r'

def skipBlanks (cs : List Char) : List Char := cs.dropWhile isBlank

def isDigit (c : Char) : Bool := '0' ≤ c && c ≤ '9'

def digitValue (c : Char) : Nat := c.toNat - '0'.toNat

def maxWord : Nat := Nat.pow 2 64 - 1

/-- Appends digits to a number while it fits 64 bits.  The count tells how many went in. -/
def takeDigits : Nat → List Char → Nat × Nat
  | n, [] => (n, 0)
  | n, c :: rest =>
    let m := n * 10 + digitValue c
    if maxWord < m then (n, 0)
    else
      let (k, used) := takeDigits m rest
      (k, used + 1)

def numberOf (digits : List Char) : Nat := digits.foldl (fun n c => n * 10 + digitValue c) 0

def readExponent (cs : List Char) : Option (Int × List Char) :=
  let (negative, cs) : Bool × List Char :=
    match cs with
    | '+' :: rest => (false, rest)
    | '-' :: rest => (true, rest)
    | _           => (false, cs)
  let digits := cs.takeWhile isDigit
  if digits.isEmpty then none
  else
    let n : Int := numberOf digits
    some (if negative then -n else n, cs.drop digits.length)

def double (negative : Bool) (whole fraction : List Char) (exponent : Int) : WrittenJson :=
  let (n, used) := takeDigits 0 whole
  let (n, more) := takeDigits n fraction
  let shift : Int := (whole.length : Int) - used - more
  if n = 0 then .scalar (.real (Binary64.zero negative))
  else
    match Binary64.ofDigits negative n (shift + exponent) with
    | some x => .scalar (.real x)
    | none   => .void

def readNumber (negative : Bool) (cs : List Char) : Option (WrittenJson × List Char) := do
  let whole := cs.takeWhile isDigit
  guard (!whole.isEmpty && !(whole.head? == some '0' && 1 < whole.length))
  let rest := cs.drop whole.length
  let (fraction, rest) ←
    match rest with
    | '.' :: rest =>
      let digits := rest.takeWhile isDigit
      if digits.isEmpty then none else some (some digits, rest.drop digits.length)
    | _ => some (none, rest)
  let (exponent, rest) ←
    match rest with
    | 'e' :: rest => (readExponent rest).map fun (e, r) => (some e, r)
    | 'E' :: rest => (readExponent rest).map fun (e, r) => (some e, r)
    | _           => some (none, rest)
  let n := numberOf whole
  match fraction, exponent with
  | none, none =>
    if !negative && n ≤ maxWord then return (.scalar (.int n), rest)
    else if negative && 0 < n && n ≤ Nat.pow 2 63 then return (.scalar (.int (-n)), rest)
    else return (double negative whole [] 0, rest)
  | _, _ => return (double negative whole (fraction.getD []) (exponent.getD 0), rest)

/-- A UTF-16 unit as four hexadecimal digits. -/
def readUnit : List Char → Option (Nat × List Char)
  | a :: b :: c :: d :: rest => (digitsValue? 16 [a, b, c, d]).map (·, rest)
  | _                        => none

/-- A character written as one unit, or as the two halves of a surrogate pair.  A half that stands
alone is no character. -/
def readCode (cs : List Char) : Option (Option Char × List Char) := do
  let (u, rest) ← readUnit cs
  if 0xD800 ≤ u && u < 0xDC00 then
    match rest with
    | '\\' :: 'u' :: tail =>
      let (v, tail) ← readUnit tail
      if 0xDC00 ≤ v && v < 0xE000 then
        return (some (Char.ofNat (0x10000 + (u - 0xD800) * 0x400 + (v - 0xDC00))), tail)
      else return (none, rest)
    | _ => return (none, rest)
  else if 0xDC00 ≤ u && u < 0xE000 then return (none, rest)
  else return (some (Char.ofNat u), rest)

def readEscape : List Char → Option (Option Char × List Char)
  | '"' :: rest  => some (some '"', rest)
  | '\\' :: rest => some (some '\\', rest)
  | '/' :: rest  => some (some '/', rest)
  | 'b' :: rest  => some (some '\x08', rest)
  | 'f' :: rest  => some (some '\x0c', rest)
  | 'n' :: rest  => some (some '\n', rest)
  | 'r' :: rest  => some (some '\r', rest)
  | 't' :: rest  => some (some '\t', rest)
  | 'u' :: rest  => readCode rest
  | _            => none

/-- A text after its opening quote; `done` holds its characters so far, the last first, unless one
of them was none. -/
def readChars (fuel : Nat) (done : Option (List Char)) (cs : List Char) :
    Option (Option String × List Char) :=
  match fuel, cs with
  | 0, _ => none
  | _, [] => none
  | _, '"' :: rest => some (done.map fun cs => String.ofList cs.reverse, rest)
  | fuel + 1, '\\' :: rest => do
    let (c, rest) ← readEscape rest
    readChars fuel (do return (← c) :: (← done)) rest
  | fuel + 1, c :: rest => if c.toNat < 32 then none else readChars fuel (done.map (c :: ·)) rest

/-- What stands at the given depth, which must not be used up. -/
def within (depth : Nat) (w : WrittenJson) : WrittenJson := if depth = 0 then .void else w

def mapOf (entries : List (Option String × WrittenJson)) : WrittenJson :=
  match entries.mapM fun (k, v) => k.map (·, v) with
  | some entries => .map entries
  | none         => .void

mutual

/-- A value at the head of the characters.  `depth` bounds the nesting. -/
def readValue (fuel depth : Nat) (cs : List Char) : Option (WrittenJson × List Char) :=
  match fuel with
  | 0 => none
  | fuel + 1 =>
    match skipBlanks cs with
    | 'n' :: 'u' :: 'l' :: 'l' :: rest        => some (.scalar .null, rest)
    | 't' :: 'r' :: 'u' :: 'e' :: rest        => some (.scalar (.bool true), rest)
    | 'f' :: 'a' :: 'l' :: 's' :: 'e' :: rest => some (.scalar (.bool false), rest)
    | '"' :: rest => do
      let (s, rest) ← readChars fuel (some []) rest
      return (match s with | some s => .scalar (.str s) | none => .void, rest)
    | '[' :: rest =>
      match skipBlanks rest with
      | ']' :: rest => some (within depth (.list []), rest)
      | rest => (readItems fuel (depth - 1) [] rest).map fun (items, r) => (within depth (.list items), r)
    | '\x7b' :: rest =>
      match skipBlanks rest with
      | '\x7d' :: rest => some (within depth (.map []), rest)
      | rest => (readFields fuel (depth - 1) [] rest).map fun (es, r) => (within depth (mapOf es), r)
    | '-' :: rest => readNumber true rest
    | rest        => readNumber false rest

/-- The items of an array from an item on; `done` holds those before, the last first. -/
def readItems (fuel depth : Nat) (done : List WrittenJson) (cs : List Char) :
    Option (List WrittenJson × List Char) :=
  match fuel with
  | 0 => none
  | fuel + 1 => do
    let (item, rest) ← readValue fuel depth cs
    match skipBlanks rest with
    | ',' :: rest => readItems fuel depth (item :: done) rest
    | ']' :: rest => some ((item :: done).reverse, rest)
    | _           => none

def readFields (fuel depth : Nat) (done : List (Option String × WrittenJson)) (cs : List Char) :
    Option (List (Option String × WrittenJson) × List Char) :=
  match fuel with
  | 0 => none
  | fuel + 1 =>
    match skipBlanks cs with
    | '"' :: rest => do
      let (name, rest) ← readChars fuel (some []) rest
      match skipBlanks rest with
      | ':' :: rest =>
        let (v, rest) ← readValue fuel depth rest
        match skipBlanks rest with
        | ',' :: rest    => readFields fuel depth ((name, v) :: done) rest
        | '\x7d' :: rest => some (((name, v) :: done).reverse, rest)
        | _              => none
      | _ => none
    | _ => none

end

end JsonText

def WrittenJson.read? (text : String) : Option WrittenJson := do
  let cs := text.toList
  let (w, rest) ← JsonText.readValue (2 * cs.length + 2) 127 cs
  guard (JsonText.skipBlanks rest).isEmpty
  return w

/-- The value that a text holds; the last field of a name counts. -/
def Json.read? (text : String) : Option Json := do (← WrittenJson.read? text).value?

end FormReplay
