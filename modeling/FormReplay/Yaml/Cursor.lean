/-!
# Places in a YAML text

A cursor stands before the characters still to read and knows where it is: which character, line
and column.  A line break is one of five characters, or a carriage return with a line feed, and is
read as a line feed unless it separates lines or paragraphs.
-/
namespace FormReplay

namespace Yaml

/-- A space or a tab. -/
def isGap (c : Char) : Bool := c == ' ' || c == '\t'

def isBreak (c : Char) : Bool :=
  c == '\n' || c == '\r' || c == '\u0085' || c == '\u2028' || c == '\u2029'

def isNameChar (c : Char) : Bool := c.isAlphanum || c == '_' || c == '-'

def endsWord : List Char → Bool
  | []     => true
  | c :: _ => isGap c || isBreak c

def endsLine : List Char → Bool
  | []     => true
  | c :: _ => isBreak c

structure Cursor where
  rest   : List Char
  index  : Nat := 0
  line   : Nat := 0
  column : Nat := 0

namespace Cursor

def skip (c : Cursor) : Cursor :=
  { c with rest := c.rest.tail, index := c.index + 1, column := c.column + 1 }

def skipMany (c : Cursor) (n : Nat) : Cursor :=
  { c with rest := c.rest.drop n, index := c.index + n, column := c.column + n }

def skipWhile (c : Cursor) (p : Char → Bool) : Cursor := c.skipMany (c.rest.takeWhile p).length

def takeBreak (c : Cursor) : List Char × Cursor :=
  let behind (kept rest : List Char) (n : Nat) : List Char × Cursor :=
    (kept, { rest, index := c.index + n, line := c.line + 1, column := 0 })
  match c.rest with
  | '\r' :: '\n' :: rest => behind ['\n'] rest 2
  | ch :: rest =>
    if ch == '\u2028' || ch == '\u2029' then behind [ch] rest 1
    else if isBreak ch then behind ['\n'] rest 1
    else ([], c)
  | [] => ([], c)

def skipBreak (c : Cursor) : Cursor := c.takeBreak.2

/-- Passes gaps and a comment to the end of the line, and the break there; nothing else may stand
there. -/
def finishLine? (c : Cursor) : Option Cursor :=
  let c := c.skipWhile isGap
  let c := if c.rest.head? == some '#' then c.skipWhile (!isBreak ·) else c
  if endsLine c.rest then some c.skipBreak else none

/-- Whether a line of three hyphens or three points, which separates documents, begins here. -/
def atMarker (c : Cursor) : Bool :=
  c.column == 0 &&
    match c.rest with
    | '-' :: '-' :: '-' :: rest => endsWord rest
    | '.' :: '.' :: '.' :: rest => endsWord rest
    | _                         => false

end Cursor

end Yaml

end FormReplay
