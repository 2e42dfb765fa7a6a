import FormReplay.Yaml.Cursor
import FormReplay.Yaml.Scalar
/-!
# YAML tokens

A text is cut into tokens from left to right.  Indentation becomes tokens of its own: a block begins
where its first entry stands further right than the block around, and ends before the first token
that stands further left.

The readers of this module take fuel for their steps.  Twice the characters of the text is enough:
every step of a loop passes one at least, and so does every step of a loop inside it.

A simple key is told from a scalar only by the colon behind it.  So wherever a key may begin its
place is kept, and the tokens that open it are put in there once the colon is seen.
-/
namespace FormReplay

namespace Yaml

inductive Token where
  | version (major minor : Nat)
  | handle (name expansion : String)
  | documentStart
  | documentEnd
  | blockList
  | blockMap
  | blockEnd
  | listStart
  | listEnd
  | mapStart
  | mapEnd
  | blockEntry
  | separator
  | key
  | value
  | alias (name : String)
  | anchor (name : String)
  | tag (handle suffix : String)
  | scalar (style : Style) (text : String)
  deriving DecidableEq, Repr

/-! ## Gaps inside scalars -/

/-- What separates two words of a scalar, the last character first: the gap before the first line
break, that break, and those after it. -/
structure Gap where
  blanks : List Char := []
  broken : Bool := false
  first  : List Char := []
  more   : List Char := []

/-- Puts a gap onto the text before it.  A single line feed is a space, and the first of several is
left out. -/
def Gap.onto (g : Gap) (text : List Char) : List Char :=
  if g.broken then
    if g.first == ['\n'] then if g.more.isEmpty then ' ' :: text else g.more ++ text
    else g.more ++ g.first ++ text
  else g.blanks ++ text

/-- Reads on through gaps and breaks.  Before column `indent` a tab cannot indent a line. -/
def Gap.read (fuel indent : Nat) (g : Gap) (c : Cursor) : Option (Gap × Cursor) :=
  match fuel, c.rest with
  | 0, _ => none
  | _, [] => some (g, c)
  | fuel + 1, ch :: _ =>
    if isGap ch then
      if !g.broken then { g with blanks := ch :: g.blanks }.read fuel indent c.skip
      else if ch == '\t' && c.column < indent then none
      else g.read fuel indent c.skip
    else if isBreak ch then
      let (kept, c) := c.takeBreak
      if g.broken then { g with more := kept ++ g.more }.read fuel indent c
      else Gap.read fuel indent { broken := true, first := kept } c
    else some (g, c)

/-! ## Plain scalars -/

def isBracket (c : Char) : Bool := c == ',' || c == '[' || c == ']' || c == '\x7b' || c == '\x7d'

/-- The length of a word of a plain scalar.  Between brackets a colon must not stand before a
bracket. -/
def plainWord? (inBrackets : Bool) : List Char → Option Nat
  | [] => some 0
  | c :: rest =>
    if isGap c || isBreak c then some 0
    else if inBrackets && c == ':' && (rest.head?.any fun d => isBracket d || d == '?') then none
    else if c == ':' && endsWord rest then some 0
    else if inBrackets && isBracket c then some 0
    else (plainWord? inBrackets rest).map (· + 1)

/-- Reads a plain scalar on from a word; tells also whether a line break ends it. -/
def readPlain (fuel : Nat) (inBrackets : Bool) (indent : Nat) (text : List Char) (g : Gap) (c : Cursor) :
    Option (List Char × Bool × Cursor) :=
  match fuel with
  | 0 => none
  | fuel + 1 =>
    if c.atMarker || c.rest.head? == some '#' then some (text, g.broken, c)
    else do
      let n ← plainWord? inBrackets c.rest
      let word := c.rest.take n
      let (text, g) := if n = 0 then (text, g) else (word.reverse ++ g.onto text, {})
      let c := c.skipMany n
      match c.rest with
      | ch :: _ =>
        if isGap ch || isBreak ch then
          let (g, c) ← g.read fuel indent c
          if !inBrackets && c.column < indent then return (text, g.broken, c)
          else readPlain fuel inBrackets indent text g c
        else return (text, g.broken, c)
      | [] => return (text, g.broken, c)

/-! ## Quoted scalars -/

def escapeWidth (c : Char) : Option Nat :=
  match c with
  | 'x' => some 2
  | 'u' => some 4
  | 'U' => some 8
  | _   => none

def escaped? : Char → Option Char
  | '0'  => some '\x00'
  | 'a'  => some '\x07'
  | 'b'  => some '\x08'
  | 't'  => some '\t'
  | '\t' => some '\t'
  | 'n'  => some '\n'
  | 'v'  => some '\x0b'
  | 'f'  => some '\x0c'
  | 'r'  => some '\r'
  | 'e'  => some '\x1b'
  | ' '  => some ' '
  | '"'  => some '"'
  | '/'  => some '/'
  | '\\' => some '\\'
  | 'N'  => some '\u0085'
  | '_'  => some '\u00A0'
  | 'L'  => some '\u2028'
  | 'P'  => some '\u2029'
  | _    => none

def readEscape : List Char → Option (Char × Nat)
  | [] => none
  | c :: rest =>
    match escapeWidth c with
    | some width => do
      let digits := rest.take width
      guard (digits.length = width)
      let n ← digitsValue? 16 digits
      if n.isValidChar then return (Char.ofNat n, width + 1) else none
    | none => (escaped? c).map (·, 1)

/-- Reads the words of a quoted scalar up to a gap, a break or the closing quote.  A backslash at the
end of a line joins the lines. -/
def readQuotedWord (fuel : Nat) (quote : Char) (text : List Char) (c : Cursor) :
    Option (List Char × Bool × Cursor) :=
  match fuel, c.rest with
  | 0, _ => none
  | _, [] => some (text, false, c)
  | fuel + 1, ch :: rest =>
    if isGap ch || isBreak ch then some (text, false, c)
    else if ch == quote then
      if quote == '\'' && rest.head? == some '\'' then
        readQuotedWord fuel quote (ch :: text) (c.skipMany 2)
      else some (text, false, c)
    else if ch == '\\' && quote == '"' then
      if rest.head?.any isBreak then some (text, true, c.skip.skipBreak)
      else do
        let (e, n) ← readEscape rest
        readQuotedWord fuel quote (e :: text) (c.skipMany (n + 1))
    else readQuotedWord fuel quote (ch :: text) c.skip

def readQuoted (fuel : Nat) (quote : Char) (text : List Char) (c : Cursor) :
    Option (List Char × Cursor) :=
  match fuel with
  | 0 => none
  | fuel + 1 =>
    if c.atMarker || c.rest.isEmpty then none
    else do
      let (text, joined, c) ← readQuotedWord fuel quote text c
      if c.rest.head? == some quote then return (text, c.skip)
      else
        let (g, c) ← Gap.read fuel 0 { broken := joined } c
        readQuoted fuel quote (g.onto text) c

/-! ## Block scalars -/

inductive Chomping where
  | strip
  | clip
  | keep
  deriving DecidableEq, Repr

def chomping? : Char → Option Chomping
  | '+' => some .keep
  | '-' => some .strip
  | _   => none

def readHeader (c : Cursor) : Option (Chomping × Nat × Cursor) :=
  let digit? (c : Cursor) : Option (Nat × Cursor) :=
    match c.rest with
    | d :: _ => if d.isDigit then if d == '0' then none else some (d.toNat - 48, c.skip) else some (0, c)
    | []     => some (0, c)
  match c.rest.head?.bind chomping? with
  | some k => (digit? c.skip).map fun (n, c) => (k, n, c)
  | none   => do
    let (n, c) ← digit? c
    match if n = 0 then none else c.rest.head?.bind chomping? with
    | some k => return (k, n, c.skip)
    | none   => return (.clip, n, c)

/-- Passes the indentation of a line, up to column `indent` unless that is zero. -/
def passIndent (indent : Nat) (c : Cursor) : Cursor :=
  let spaces := (c.rest.takeWhile (· == ' ')).length
  c.skipMany (if indent = 0 then spaces else min spaces (indent - c.column))

/-- Passes empty lines, whose breaks it keeps, the last first, and tells how far they were indented. -/
def readBreaks (fuel indent deepest : Nat) (breaks : List Char) (c : Cursor) :
    Option (List Char × Nat × Cursor) :=
  match fuel with
  | 0 => none
  | fuel + 1 =>
    let c := passIndent indent c
    let deepest := max deepest c.column
    match c.rest with
    | ch :: _ =>
      if (indent = 0 || c.column < indent) && ch == '\t' then none
      else if isBreak ch then
        let (kept, c) := c.takeBreak
        readBreaks fuel indent deepest (kept ++ breaks) c
      else some (breaks, deepest, c)
    | [] => some (breaks, deepest, c)

/-- The text of a block scalar so far, the last character first, with the break of the last line,
and those of the empty lines after it. -/
structure BlockText where
  text  : List Char := []
  last  : List Char := []
  empty : List Char := []
  gap   : Bool := false

/-- Adds a line.  In a folded scalar lines that begin with no gap are joined. -/
def BlockText.addLine (folded : Bool) (b : BlockText) (line : List Char) : BlockText :=
  let gap := line.head?.any isGap
  let text :=
    if folded && b.last == ['\n'] && !b.gap && !gap then
      if b.empty.isEmpty then ' ' :: b.text else b.empty ++ b.text
    else b.empty ++ b.last ++ b.text
  { text := line.reverse ++ text, gap }

def BlockText.finish (k : Chomping) (b : BlockText) : List Char :=
  match k with
  | .strip => b.text
  | .clip  => b.last ++ b.text
  | .keep  => b.empty ++ b.last ++ b.text

def readBlockLines (fuel indent : Nat) (folded : Bool) (b : BlockText) (c : Cursor) :
    Option (BlockText × Cursor) :=
  match fuel with
  | 0 => none
  | fuel + 1 =>
    if c.column = indent && !c.rest.isEmpty then do
      let line := c.rest.takeWhile (!isBreak ·)
      let b := b.addLine folded line
      let (last, c) := (c.skipMany line.length).takeBreak
      let (empty, _, c) ← readBreaks fuel indent 0 [] c
      readBlockLines fuel indent folded { b with last, empty } c
    else some (b, c)

/-- Reads a block scalar from behind its mark; `around` is the indentation around it, -1 for none. -/
def readBlockScalar (fuel : Nat) (folded : Bool) (around : Int) (c : Cursor) : Option (List Char × Cursor) := do
  let (k, stated, c) ← readHeader c
  let c ← c.finishLine?
  let indent := if stated = 0 then 0 else around.toNat + stated
  let (empty, deepest, c) ← readBreaks fuel indent 0 [] c
  let indent := if indent = 0 then max deepest (max 1 (around + 1).toNat) else indent
  let (b, c) ← readBlockLines fuel indent folded { empty } c
  return (b.finish k, c)

/-! ## Names and tags -/

def readAnchor (c : Cursor) : Option (String × Cursor) :=
  let name := c.rest.takeWhile isNameChar
  let c := c.skipMany name.length
  let ends := endsWord c.rest || c.rest.head?.any fun d => "?:,]\x7d%@\x60".toList.contains d
  if name.isEmpty || !ends then none else some (String.ofList name, c)

def isUriChar (verbatim : Bool) (c : Char) : Bool :=
  isNameChar c || ";/?:@&=+$.%!~*'()".toList.contains c || (verbatim && ",[]".toList.contains c)

def unescapeUri (cs : List Char) : Option (List Char) := do
  let rec bytes : List Char → Option (List UInt8)
    | [] => some []
    | '%' :: a :: b :: rest => do return (UInt8.ofNat (← digitsValue? 16 [a, b])) :: (← bytes rest)
    | '%' :: _ => none
    | c :: rest => do return (String.singleton c).toUTF8.toList ++ (← bytes rest)
  let s ← String.fromUTF8? (ByteArray.mk (← bytes cs).toArray)
  return s.toList

def readUri (verbatim : Bool) (before : List Char) (c : Cursor) : Option (String × Cursor) := do
  let cs := c.rest.takeWhile (isUriChar verbatim)
  guard (!(before.isEmpty && cs.isEmpty))
  return (String.ofList (before.tail ++ (← unescapeUri cs)), c.skipMany cs.length)

/-- A tag handle: an exclamation mark, and maybe a name with another one. -/
def readHandle (c : Cursor) : Option (List Char × Cursor) :=
  match c.rest with
  | '!' :: rest =>
    let name := rest.takeWhile isNameChar
    match rest.drop name.length with
    | '!' :: _ => some ('!' :: name ++ ['!'], c.skipMany (name.length + 2))
    | _        => some ('!' :: name, c.skipMany (name.length + 1))
  | _ => none

def readTag (inBrackets : Bool) (c : Cursor) : Option (Token × Cursor) := do
  let (handle, suffix, c) ←
    match c.rest with
    | '!' :: '<' :: _ => do
      let (uri, c) ← readUri true [] (c.skipMany 2)
      guard (c.rest.head? == some '>')
      pure ("", uri, c.skip)
    | _ => do
      let (h, c) ← readHandle c
      if 1 < h.length && h.getLast? == some '!' then
        let (uri, c) ← readUri false [] c
        pure (String.ofList h, uri, c)
      else
        let (uri, c) ← readUri false h c
        pure (if uri.isEmpty then ("", "!", c) else ("!", uri, c))
  guard ((inBrackets && c.rest.head? == some ',') || endsWord c.rest)
  return (.tag handle suffix, c)

def readVersionNumber (c : Cursor) : Option (Nat × Cursor) := do
  let digits := c.rest.takeWhile Char.isDigit
  guard (digits.length ≤ 9)
  return (← digitsValue? 10 digits, c.skipMany digits.length)

def readDirective (c : Cursor) : Option (Token × Cursor) := do
  let name := c.rest.takeWhile isNameChar
  let c := c.skipMany name.length
  guard (endsWord c.rest)
  let c := c.skipWhile isGap
  let (token, c) ←
    match String.ofList name with
    | "YAML" => do
      let (major, c) ← readVersionNumber c
      guard (c.rest.head? == some '.')
      let (minor, c) ← readVersionNumber c.skip
      pure (Token.version major minor, c)
    | "TAG" => do
      let (h, c) ← readHandle c
      guard (h == ['!'] || h.getLast? == some '!')
      guard (c.rest.head?.any isGap)
      let (uri, c) ← readUri true [] (c.skipWhile isGap)
      guard (endsWord c.rest)
      pure (Token.handle (String.ofList h) uri, c)
    | _ => none
  return (token, ← c.finishLine?)

end Yaml

end FormReplay
