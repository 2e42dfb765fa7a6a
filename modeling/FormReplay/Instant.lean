import FormReplay.Text.Blank
/-!
# Instants

A point in time on the proleptic Gregorian calendar, to the nanosecond, read from and written as an
RFC 3339 text.  An instant inside a leap second is kept as the second before it with a billion
nanoseconds more.
-/
namespace FormReplay

/-- Seconds since the start of 1970 in UTC, and nanoseconds on top. -/
structure Instant where
  second : Int
  nano   : Nat
  deriving DecidableEq, Repr

namespace Instant

structure Date where
  year  : Int
  month : Nat
  day   : Nat
  deriving DecidableEq, Repr

def isLeapYear (year : Int) : Bool := year % 4 == 0 && (year % 100 != 0 || year % 400 == 0)

def daysIn (year : Int) : Nat → Nat
  | 2  => if isLeapYear year then 29 else 28
  | 4  => 30
  | 6  => 30
  | 9  => 30
  | 11 => 30
  | _  => 31

/-- The days from the start of 1970 to a date.  Years are counted from March, so that the leap day
is the last of its year. -/
def Date.toDays (d : Date) : Int :=
  let y : Int := if d.month ≤ 2 then d.year - 1 else d.year
  let m : Int := (d.month + 9) % 12
  let dayOfYear := (153 * m + 2) / 5 + d.day - 1
  365 * y + y / 4 - y / 100 + y / 400 + dayOfYear - 719468

def Date.ofDays (days : Int) : Date :=
  let z := days + 719468
  let era := z / 146097
  let dayOfEra := z % 146097
  let yearOfEra := (dayOfEra - dayOfEra / 1460 + dayOfEra / 36524 - dayOfEra / 146096) / 365
  let dayOfYear := dayOfEra - (365 * yearOfEra + yearOfEra / 4 - yearOfEra / 100)
  let m := (5 * dayOfYear + 2) / 153
  let month := (if m < 10 then m + 3 else m - 9).toNat
  let year := yearOfEra + era * 400 + (if month ≤ 2 then 1 else 0)
  ⟨year, month, (dayOfYear - (153 * m + 2) / 5 + 1).toNat⟩

def addMillis (t : Instant) (ms : Nat) : Instant :=
  let nano := t.nano + ms % 1000 * 1000000
  ⟨t.second + ms / 1000 + nano / 1000000000, nano % 1000000000⟩

/-! ## Reading -/

def skipSpaces (cs : List Char) : List Char := cs.dropWhile isBlank

def isDigit (c : Char) : Bool := '0' ≤ c && c ≤ '9'

def numberOf (digits : List Char) : Nat := digits.foldl (fun n c => n * 10 + (c.toNat - '0'.toNat)) 0

def readNumber (most : Nat) (cs : List Char) : Option (Nat × List Char) :=
  let digits := (cs.take most).takeWhile isDigit
  if digits.isEmpty then none else some (numberOf digits, cs.drop digits.length)

def readPart (cs : List Char) : Option (Nat × List Char) := readNumber 2 (skipSpaces cs)

/-- A year: four digits at most, or any number of them after a sign. -/
def readYear (cs : List Char) : Option (Int × List Char) :=
  match skipSpaces cs with
  | '-' :: rest => (readNumber rest.length rest).map fun (n, r) => (-(n : Int), r)
  | '+' :: rest => (readNumber rest.length rest).map fun (n, r) => ((n : Int), r)
  | rest        => (readNumber 4 rest).map fun (n, r) => ((n : Int), r)

def readMark (mark : Char) (cs : List Char) : Option (List Char) :=
  match skipSpaces cs with
  | c :: rest => if c = mark then some rest else none
  | []        => none

/-- Nanoseconds from a fraction of a second, of which nine digits count. -/
def readFraction (cs : List Char) : Option (Nat × List Char) :=
  match cs with
  | '.' :: rest =>
    let digits := rest.takeWhile isDigit
    if digits.isEmpty then none
    else some (numberOf ((digits ++ List.replicate 9 '0').take 9), rest.drop digits.length)
  | _ => some (0, cs)

/-- The seconds by which local time is ahead of UTC. -/
def readOffset (cs : List Char) : Option (Int × List Char) :=
  match cs with
  | 'z' :: rest => some (0, rest)
  | 'Z' :: rest => some (0, rest)
  | u :: t :: c :: rest =>
    if u.toLower = 'u' ∧ t.toLower = 't' ∧ c.toLower = 'c' then some (0, rest)
    else if u = '+' ∨ u = '-' ∨ u = '−' then do
      guard (isDigit t && isDigit c)
      let hours := numberOf [t, c]
      let rest := rest.dropWhile fun c => c == ':' || isBlank c
      match rest with
      | a :: b :: rest =>
        guard ('0' ≤ a && a ≤ '5' && isDigit b && hours < 24)
        let seconds : Int := hours * 3600 + numberOf [a, b] * 60
        return (if u = '+' then seconds else -seconds, rest)
      | _ => none
    else none
  | _ => none

def inRange (year : Int) : Bool := -262143 ≤ year && year ≤ 262142

/-- The instant that an RFC 3339 text names.  The offset must be there; the mark between date and
time may be a small letter or a blank, and blanks may stand around the parts.  Second 60 is a leap
second. -/
def read? (text : String) : Option Instant := do
  let (year, cs) ← readYear text.toList
  let cs ← readMark '-' cs
  let (month, cs) ← readPart cs
  let cs ← readMark '-' cs
  let (day, cs) ← readPart cs
  let cs ←
    match cs with
    | 't' :: rest => some rest
    | 'T' :: rest => some rest
    | ' ' :: rest => some rest
    | _           => none
  let (hour, cs) ← readPart cs
  let cs ← readMark ':' cs
  let (minute, cs) ← readPart cs
  let cs ← readMark ':' cs
  let (second, cs) ← readPart cs
  let (nano, cs) ← readFraction cs
  let (offset, cs) ← readOffset (skipSpaces cs)
  guard (skipSpaces cs).isEmpty
  guard (inRange year && 1 ≤ month && month ≤ 12 && 1 ≤ day && day ≤ daysIn year month)
  guard (hour < 24 && minute < 60 && second ≤ 60)
  let (second, nano) := if second = 60 then (59, nano + 1000000000) else (second, nano)
  let days := (Date.mk year month day).toDays
  let total : Int := days * 86400 + hour * 3600 + minute * 60 + second - offset
  guard (inRange (Date.ofDays (total / 86400)).year)
  return ⟨total, nano⟩

/-! ## Writing -/

def padded (width n : Nat) : List Char :=
  let ds := Nat.toDigits 10 n
  List.replicate (width - ds.length) '0' ++ ds

def yearText (year : Int) : List Char :=
  if 0 ≤ year ∧ year ≤ 9999 then padded 4 year.toNat
  else (if year < 0 then '-' else '+') :: padded 4 year.natAbs

/-- A fraction of 0, 3, 6 or 9 digits, the fewest that hold the value. -/
def fractionText (nano : Nat) : List Char :=
  if nano = 0 then []
  else if nano % 1000000 = 0 then '.' :: padded 3 (nano / 1000000)
  else if nano % 1000 = 0 then '.' :: padded 6 (nano / 1000)
  else '.' :: padded 9 nano

def text (t : Instant) : String :=
  let date := Date.ofDays (t.second / 86400)
  let ofDay := (t.second % 86400).toNat
  let (second, nano) :=
    if 1000000000 ≤ t.nano then (ofDay % 60 + 1, t.nano - 1000000000) else (ofDay % 60, t.nano)
  String.ofList <|
    yearText date.year ++ '-' :: padded 2 date.month ++ '-' :: padded 2 date.day
      ++ 'T' :: padded 2 (ofDay / 3600) ++ ':' :: padded 2 (ofDay / 60 % 60) ++ ':' :: padded 2 second
      ++ fractionText nano ++ ['Z']

end Instant

end FormReplay
