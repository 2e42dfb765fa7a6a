import FormReplay.Yaml.Token
/-!
# Cutting a YAML text into tokens

`Token.ofText?` gives the tokens of a whole text, or nothing if it has none.  Every step reads at
least one character or ends the text, so the count of characters bounds the steps.
-/
namespace FormReplay

namespace Yaml

/-- A place where a simple key may begin: before which token, and where in the text.  A required one
must turn out to be a key. -/
structure KeyPlace where
  token    : Nat
  required : Bool
  index    : Nat
  line     : Nat
  column   : Nat

structure Scanner where
  cursor : Cursor
  fuel   : Nat
  tokens : Array Token := #[]
  /-- The column of the innermost block, -1 outside all blocks. -/
  indent : Int := -1
  outer  : List Int := []
  keyAllowed : Bool := true
  /-- Where one may have begun, outside all brackets and inside each. -/
  keys : List (Option KeyPlace) := [none]

namespace Scanner

def depth (s : Scanner) : Nat := s.keys.length - 1

def inBrackets (s : Scanner) : Bool := s.depth != 0

def push (s : Scanner) (t : Token) : Scanner := { s with tokens := s.tokens.push t }

def insert (s : Scanner) (place : Nat) (t : Token) : Scanner :=
  { s with tokens := s.tokens.insertIdxIfInBounds place t }

/-! ## Blocks -/

def closeBlocksFrom (s : Scanner) (column : Int) : List Int → Scanner
  | [] => s
  | around :: outer =>
    if column < s.indent then
      { s with tokens := s.tokens.push .blockEnd, indent := around, outer }.closeBlocksFrom column outer
    else s

def closeBlocks (s : Scanner) (column : Int) : Scanner :=
  if s.inBrackets then s else s.closeBlocksFrom column s.outer

/-- Begins a block at a column, unless one has begun there; `place` is the token it comes before. -/
def openBlock (s : Scanner) (column place : Nat) (t : Token) : Scanner :=
  if s.inBrackets || (column : Int) ≤ s.indent then s
  else { s.insert place t with indent := column, outer := s.indent :: s.outer }

/-! ## Simple keys -/

/-- Whether a place is out of reach: a key is at most 1024 characters long, on one line. -/
def isStale (c : Cursor) (k : KeyPlace) : Bool := k.line < c.line || k.index + 1024 < c.index

/-- Gives up the places out of reach; a required one is an error. -/
def dropStale (s : Scanner) : Option Scanner := do
  let keys ← s.keys.mapM fun key =>
    match key with
    | some k => if isStale s.cursor k then if k.required then none else some none else some (some k)
    | none   => some none
  return { s with keys }

def dropKey (s : Scanner) : Option Scanner :=
  match s.keys with
  | some k :: keys => if k.required then none else some { s with keys := none :: keys }
  | _              => some s

def saveKey (s : Scanner) : Option Scanner :=
  if !s.keyAllowed then some s
  else do
    let s ← s.dropKey
    let c := s.cursor
    let required := !s.inBrackets && s.indent == c.column
    return { s with keys := some ⟨s.tokens.size, required, c.index, c.line, c.column⟩ :: s.keys.tail }

/-! ## Fetching -/

/-- Passes gaps, comments and breaks.  A tab is no gap where a block may begin. -/
def passBlanks (s : Scanner) (fuel : Nat) : Scanner :=
  match fuel with
  | 0 => s
  | fuel + 1 =>
    let c := s.cursor
    let c := if c.column = 0 && c.rest.head? == some '\ufeff' then c.skip else c
    let c := c.skipWhile fun ch => ch == ' ' || (ch == '\t' && (s.inBrackets || !s.keyAllowed))
    let c := if c.rest.head? == some '#' then c.skipWhile (!isBreak ·) else c
    if c.rest.head?.any isBreak then
      { s with cursor := c.skipBreak, keyAllowed := s.keyAllowed || !s.inBrackets }.passBlanks fuel
    else { s with cursor := c }

def leaveDocument (s : Scanner) : Option Scanner := do
  return { ← (s.closeBlocks (-1)).dropKey with keyAllowed := false }

def fetchMarker (s : Scanner) (t : Token) : Option Scanner := do
  let s ← s.leaveDocument
  return { s.push t with cursor := s.cursor.skipMany 3 }

def fetchDirective (s : Scanner) : Option Scanner := do
  let s ← s.leaveDocument
  let (t, cursor) ← readDirective s.cursor.skip
  return { s.push t with cursor }

def openBracket (s : Scanner) (t : Token) : Option Scanner := do
  let s ← s.saveKey
  return { s.push t with cursor := s.cursor.skip, keys := none :: s.keys, keyAllowed := true }

def closeBracket (s : Scanner) (t : Token) : Option Scanner := do
  let s ← s.dropKey
  let keys := if s.inBrackets then s.keys.tail else s.keys
  return { s.push t with cursor := s.cursor.skip, keys, keyAllowed := false }

def fetchSeparator (s : Scanner) : Option Scanner := do
  let s ← s.dropKey
  return { s.push .separator with cursor := s.cursor.skip, keyAllowed := true }

/-- Begins a block at the cursor for an entry that is not a simple key, which must be allowed. -/
def openEntry (s : Scanner) (t : Token) : Option Scanner :=
  if s.inBrackets then some s
  else if s.keyAllowed then some (s.openBlock s.cursor.column s.tokens.size t)
  else none

def fetchBlockEntry (s : Scanner) : Option Scanner := do
  let s ← (← s.openEntry .blockList).dropKey
  return { s.push .blockEntry with cursor := s.cursor.skip, keyAllowed := true }

def fetchKey (s : Scanner) : Option Scanner := do
  let s ← (← s.openEntry .blockMap).dropKey
  return { s.push .key with cursor := s.cursor.skip, keyAllowed := !s.inBrackets }

/-- The colon behind a key.  If a simple key has begun, this is where its tokens are put in. -/
def fetchValue (s : Scanner) : Option Scanner := do
  let s ←
    match s.keys with
    | some k :: keys =>
      let s := (s.insert k.token .key).openBlock k.column k.token .blockMap
      some { s with keys := none :: keys, keyAllowed := false }
    | _ => (s.openEntry .blockMap).map fun s => { s with keyAllowed := !s.inBrackets }
  return { s.push .value with cursor := s.cursor.skip }

def fetchNode (s : Scanner) (read : Cursor → Option (Token × Cursor)) : Option Scanner := do
  let s ← s.saveKey
  let (t, cursor) ← read s.cursor
  return { s.push t with cursor, keyAllowed := false }

def fetchQuoted (s : Scanner) (quote : Char) : Option Scanner :=
  s.fetchNode fun c => do
    let (text, c) ← readQuoted s.fuel quote [] c.skip
    return (.scalar .other (String.ofList text.reverse), c)

def fetchBlockScalar (s : Scanner) (folded : Bool) : Option Scanner := do
  let s ← s.dropKey
  let (text, cursor) ← readBlockScalar s.fuel folded s.indent s.cursor.skip
  let t := Token.scalar (if folded then .other else .literal) (String.ofList text.reverse)
  return { s.push t with cursor, keyAllowed := true }

def fetchPlain (s : Scanner) : Option Scanner := do
  let s ← s.saveKey
  let (text, broken, cursor) ←
    readPlain s.fuel s.inBrackets (s.indent + 1).toNat [] {} s.cursor
  return { s.push (.scalar .plain (String.ofList text.reverse)) with cursor, keyAllowed := broken }

def startsPlain (inBrackets : Bool) : List Char → Bool
  | [] => false
  | c :: rest =>
    if c == '-' then !(rest.head?.any isGap)
    else if c == '?' || c == ':' then !inBrackets && !endsWord rest
    else !(isGap c || isBreak c || "#,[]\x7b\x7d&*!|>'\"%@\x60".toList.contains c)

def fetch (s : Scanner) : Option Scanner :=
  let c := s.cursor
  if c.atMarker then
    s.fetchMarker (if c.rest.head? == some '-' then .documentStart else .documentEnd)
  else
    match c.rest with
    | '%' :: _ => if c.column = 0 then s.fetchDirective else none
    | '[' :: _    => s.openBracket .listStart
    | '\x7b' :: _ => s.openBracket .mapStart
    | ']' :: _    => s.closeBracket .listEnd
    | '\x7d' :: _ => s.closeBracket .mapEnd
    | ',' :: _    => s.fetchSeparator
    | '*' :: _ => s.fetchNode fun c => (readAnchor c.skip).map fun (n, c) => (.alias n, c)
    | '&' :: _ => s.fetchNode fun c => (readAnchor c.skip).map fun (n, c) => (.anchor n, c)
    | '!' :: _ => s.fetchNode (readTag s.inBrackets)
    | '\'' :: _ => s.fetchQuoted '\''
    | '"' :: _  => s.fetchQuoted '"'
    | ch :: rest =>
      if ch == '-' && endsWord rest then s.fetchBlockEntry
      else if ch == '?' && (s.inBrackets || endsWord rest) then s.fetchKey
      else if ch == ':' && (s.inBrackets || endsWord rest) then s.fetchValue
      else if ch == '|' && !s.inBrackets then s.fetchBlockScalar false
      else if ch == '>' && !s.inBrackets then s.fetchBlockScalar true
      else if startsPlain s.inBrackets c.rest then s.fetchPlain
      else none
    | [] => none

def run (fuel : Nat) (s : Scanner) : Option (List Token) :=
  match fuel with
  | 0 => none
  | fuel + 1 => do
    let s := s.passBlanks s.fuel
    let s ← s.dropStale
    let s := s.closeBlocks s.cursor.column
    if s.cursor.rest.isEmpty then
      let s ← (s.closeBlocks (-1)).dropKey
      return s.tokens.toList
    else (← s.fetch).run fuel

end Scanner

def isAllowed (c : Char) : Bool :=
  let n := c.toNat
  c == '\t' || c == '\n' || c == '\r' || (0x20 ≤ n && n ≤ 0x7E) || n == 0x85
    || (0xA0 ≤ n && n ≤ 0xFFFD) || 0x10000 ≤ n

/-- The tokens of a text; a byte order mark before it does not count. -/
def Token.ofText? (text : String) : Option (List Token) :=
  let cs := match text.toList with
    | '\ufeff' :: rest => rest
    | cs               => cs
  if cs.all isAllowed then Scanner.run (cs.length + 1) { cursor := { rest := cs }, fuel := 2 * cs.length + 4 } else none

end Yaml

end FormReplay
