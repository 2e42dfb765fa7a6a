import FormReplay.Pattern.Cursor
import FormReplay.Pattern.Expression
import FormReplay.Text.Property
/-!
# Reading patterns

`Expression.read?` reads a written pattern; a text that is none gives `none`.

Written forms: characters that stand for themselves; `.`, `^` and `$`; branches between bars; groups
`( )`, `(?: )`, and `(?<name> )` or `(?P<name> )`, no name twice; flags, `(?i-s)` up to the end of the
group or `(?i-s: )` for a group; sets in brackets; escapes; and the repetitions `*`, `+`, `?`, `{m}`,
`{m,}` and `{m,n}`, each greedy or, with a question mark, lazy.  There is no look-around and no
reference to a group.

A set in brackets holds characters, ranges, escapes, sets of ASCII such as `[:alpha:]`, and further
sets; `&&`, `--` and `~~` between its parts intersect, subtract, and leave what is in one part only.
-/
namespace FormReplay

namespace PatternCursor

/-! ## Escapes -/

inductive Atom where
  | letter (l : Letter)
  | anchor (sign : AnchorSign)
  | named (set : NamedSet) (negated : Bool)
  | property (name : PropertyName) (negated : Bool)

def letter? (code : Nat) (byte : Bool) : Option Letter :=
  if code.isValidChar then some ⟨Char.ofNat code, byte⟩ else none

/-- A character by its code point, in so many hexadecimal digits or in any number of them between
braces. -/
def readCode (width : Nat) (c : PatternCursor) : Option (Letter × PatternCursor) := do
  match c.rest with
  | '{' :: _ =>
    let (digits, c) ← c.next.braced?
    return (← letter? (← digitsValue? 16 digits) false, c.next)
  | _ =>
    let (digits, c) ← c.take width
    return (← letter? (← digitsValue? 16 digits) (width == 2), c)

def cutAt? (mark : List Char) : List Char → Option (List Char × List Char)
  | [] => none
  | c :: rest =>
    if mark.isPrefixOf (c :: rest) then some ([], (c :: rest).drop mark.length)
    else (cutAt? mark rest).map fun (before, after) => (c :: before, after)

/-- A property between braces.  The mark that parts a property from its value may say unequal; it
asks for the same set. -/
def propertyName (cs : List Char) : PropertyName :=
  match cutAt? ['!', '='] cs <|> cutAt? [':'] cs <|> cutAt? ['='] cs with
  | some (property, value) => .valued (String.ofList property) (String.ofList value)
  | none                   => .plain (String.ofList cs)

def readProperty (c : PatternCursor) : Option (PropertyName × PatternCursor) :=
  match c.rest with
  | []        => none
  | '{' :: _  => c.next.braced?.map fun (name, c) => (propertyName name, c.past 1)
  | '\\' :: _ => none
  | ch :: _   => some (.plain (String.singleton ch), c.next)

def edgeOfName : String → Option WordEdge
  | "start"      => some .start
  | "end"        => some .finish
  | "start-half" => some .startHalf
  | "end-half"   => some .finishHalf
  | _            => none

def isEdgeLetter (c : Char) : Bool := c.isAlpha || c == '-'

/-- The edge of a word behind its letter, which a name in braces may follow; braces that start with
no letter are a repetition. -/
def readEdge (c : PatternCursor) : Option (WordEdge × PatternCursor) :=
  match c.rest with
  | '{' :: _ =>
    match c.next.rest with
    | []      => none
    | ch :: _ =>
      if isEdgeLetter ch then do
        let (name, after) := c.next.takeWhile isEdgeLetter
        guard (after.rest.head? = some '}')
        return (← edgeOfName (String.ofList name), after.past 1)
      else some (.any, c)
  | _ => some (.any, c)

/-- Whether an escaped character stands for itself: any ASCII punctuation, blank or control. -/
def escapesItself (c : Char) : Bool := c.toNat < 0x80 && !c.isAlphanum

def escaped? : Char → Option Char
  | 'a' => some '\x07'
  | 'f' => some '\x0c'
  | 't' => some '\t'
  | 'n' => some '\n'
  | 'r' => some '\r'
  | 'v' => some '\x0b'
  | c   => if escapesItself c then some c else none

def readEscape (c : PatternCursor) : Option (Atom × PatternCursor) := do
  let ch ← c.rest.head?
  let after := c.past 1
  match ch with
  | 'x' => return (← readCode 2 c.next).map .letter id
  | 'u' => return (← readCode 4 c.next).map .letter id
  | 'U' => return (← readCode 8 c.next).map .letter id
  | 'p' => return (← readProperty c.next).map (.property · false) id
  | 'P' => return (← readProperty c.next).map (.property · true) id
  | 'd' => return (.named .digit false, after)
  | 'D' => return (.named .digit true, after)
  | 's' => return (.named .blank false, after)
  | 'S' => return (.named .blank true, after)
  | 'w' => return (.named .word false, after)
  | 'W' => return (.named .word true, after)
  | 'A' => return (.anchor .textStart, after)
  | 'z' => return (.anchor .textEnd, after)
  | 'b' => return (← readEdge after).map (fun edge => .anchor (.word edge)) id
  | 'B' => return (.anchor (.word .none), after)
  | '<' => return (.anchor (.word .start), after)
  | '>' => return (.anchor (.word .finish), after)
  | ch  => return (.letter ⟨← escaped? ch, false⟩, after)

/-! ## Sets -/

def asciiSet? (name : String) : Option CodeTable :=
  let digits := (0x30, 0x39)
  let uppers := (0x41, 0x5A)
  let lowers := (0x61, 0x7A)
  match name with
  | "alnum"  => some [digits, uppers, lowers]
  | "alpha"  => some [uppers, lowers]
  | "ascii"  => some [(0, 0x7F)]
  | "blank"  => some [(0x09, 0x09), (0x20, 0x20)]
  | "cntrl"  => some [(0, 0x1F), (0x7F, 0x7F)]
  | "digit"  => some [digits]
  | "graph"  => some [(0x21, 0x7E)]
  | "lower"  => some [lowers]
  | "print"  => some [(0x20, 0x7E)]
  | "punct"  => some [(0x21, 0x2F), (0x3A, 0x40), (0x5B, 0x60), (0x7B, 0x7E)]
  | "space"  => some [(0x09, 0x0D), (0x20, 0x20)]
  | "upper"  => some [uppers]
  | "word"   => some [digits, uppers, (0x5F, 0x5F), lowers]
  | "xdigit" => some [digits, (0x41, 0x46), (0x61, 0x66)]
  | _        => none

def readAscii (cs : List Char) : Option (SetExpression × List Char) :=
  match cs with
  | '[' :: ':' :: rest => do
    let (negated, rest) := match rest with
      | '^' :: rest => (true, rest)
      | rest        => (false, rest)
    let name := rest.takeWhile (· != ':')
    match rest.drop name.length with
    | ':' :: ']' :: rest => return (.ascii (← asciiSet? (String.ofList name)) negated, rest)
    | _                  => none
  | _ => none

def readAtom (c : PatternCursor) : Option (Atom × PatternCursor) :=
  match c.rest with
  | []        => none
  | '\\' :: _ => readEscape (c.past 1)
  | ch :: _   => some (.letter ⟨ch, false⟩, c.past 1)

/-- An item of a set or a range of characters.  A hyphen before the closing bracket or before another
hyphen makes no range. -/
def readRange (c : PatternCursor) : Option (SetExpression × PatternCursor) := do
  let (lo, c) ← readAtom c
  let c := c.skip
  if c.rest.head? = some '-' ∧ c.peek? ≠ some ']' ∧ c.peek? ≠ some '-' then
    let (hi, c) ← readAtom c.next
    match lo, hi with
    | .letter a, .letter b => if a.char ≤ b.char then some (.range a b, c) else none
    | _, _                 => none
  else
    match lo with
    | .letter l              => some (.letter l, c)
    | .named set negated     => some (.named set negated, c)
    | .property name negated => some (.property name negated, c)
    | .anchor _              => none

/-- What opens a set: its bracket, a mark that negates it, and hyphens, or else a closing bracket,
that stand for themselves. -/
def openSet (c : PatternCursor) : Bool × List SetExpression × PatternCursor :=
  let c := c.next
  let (negated, c) := if c.rest.head? = some '^' then (true, c.next) else (false, c)
  let (hyphens, c) := c.takeWhile (· == '-')
  if hyphens.isEmpty && c.rest.head? = some ']' then (negated, [.letter ⟨']', false⟩], c.next)
  else (negated, hyphens.map fun h => .letter ⟨h, false⟩, c)

/-- The items since the last operation, combined with what stands before it. -/
def settle (pending : Option (SetOperation × SetExpression)) (items : List SetExpression) :
    SetExpression :=
  let last := SetExpression.ofItems items.reverse
  match pending with
  | some (op, before) => .combine op before last
  | none              => last

/-- Reads a set up to its closing bracket; `items` holds those since the last operation, the last
first. -/
def readSet (fuel : Nat) (negated : Bool) (pending : Option (SetOperation × SetExpression))
    (items : List SetExpression) (c : PatternCursor) : Option (Bool × SetExpression × PatternCursor) :=
  match fuel with
  | 0 => none
  | fuel + 1 =>
    let c := c.skip
    let operation (op : SetOperation) :=
      readSet fuel negated (some (op, settle pending items)) [] (c.past 2)
    match c.rest with
    | []              => none
    | ']' :: _        => some (negated, settle pending items, c.past 1)
    | '&' :: '&' :: _ => operation .both
    | '-' :: '-' :: _ => operation .without
    | '~' :: '~' :: _ => operation .either
    | '[' :: _        =>
      match readAscii c.rest with
      | some (item, rest) => readSet fuel negated pending (item :: items) { c with rest }
      | none => do
        let (innerNegated, first, after) := openSet c
        let (innerNegated, inner, after) ← readSet fuel innerNegated none first after
        readSet fuel negated pending (.bracket innerNegated inner :: items) after
    | _ => do
      let (item, after) ← readRange c
      readSet fuel negated pending (item :: items) after

/-! ## Groups -/

def flagOfLetter : Char → Option PatternFlag
  | 'i' => some .anyCase
  | 'm' => some .manyLines
  | 's' => some .dotAll
  | 'U' => some .swapGreed
  | 'u' => some .unicode
  | 'R' => some .returns
  | 'x' => some .spaced
  | _   => none

/-- The flags behind `(?`, up to the colon or the parenthesis that ends them.  One hyphen may stand
among them, and some flag behind it. -/
def readFlags (on : Bool) (done : FlagChange) : List Char → Option (FlagChange × List Char)
  | [] => none
  | c :: rest =>
    if c = ':' ∨ c = ')' then some (done, c :: rest)
    else if c = '-' then
      if on ∧ rest.head? ≠ some ':' ∧ rest.head? ≠ some ')' then readFlags false done rest else none
    else
      match flagOfLetter c with
      | some flag =>
        if (done.flag? flag).isSome then none else readFlags on (done ++ [(flag, on)]) rest
      | none => none

def alphabetic : CodeTable := ((CharProperty.named? "alphabetic").map (·.codes)).getD []

def numeric : CodeTable := Category.codesOfAll Category.numbers

def startsName (c : Char) : Bool := c == '_' || alphabetic.holds c.toNat

def inName (c : Char) : Bool :=
  startsName c || numeric.holds c.toNat || c == '.' || c == '[' || c == ']'

def readName (cs : List Char) : Option (String × List Char) := do
  let name := cs.takeWhile (· != '>')
  let after ← (cs.drop name.length).tail?
  guard (name.head?.any startsName && name.all inName)
  return (String.ofList name, after)

inductive Opening where
  | group (remembers : Bool) (change : FlagChange)
  | flags (change : FlagChange)

def readOpening (c : PatternCursor) : Option (Opening × PatternCursor) :=
  let named (rest : List Char) : Option (Opening × PatternCursor) := do
    let (name, rest) ← readName rest
    guard (!c.names.contains name)
    return (.group true [], { c with rest, names := name :: c.names })
  match c.rest with
  | '?' :: 'P' :: '<' :: rest => named rest
  | '?' :: '<' :: '=' :: _    => none
  | '?' :: '<' :: '!' :: _    => none
  | '?' :: '<' :: rest        => named rest
  | '?' :: rest => do
    let (change, rest) ← readFlags true [] rest
    let after := { c with rest := rest.drop 1 }
    if rest.head? = some ':' then return (.group false change, after)
    else if change.isEmpty then none
    else return (.flags change, after)
  | _ => some (.group true [], c)

/-! ## Items and branches -/

def readBounds (c : PatternCursor) : Option (Nat × Option Nat × PatternCursor) := do
  let (low, c) ← c.next.count?
  match c.rest with
  | '}' :: _ => return (low, some 0, c.next)
  | ',' :: _ =>
    let c := c.next
    match c.rest with
    | '}' :: _ => return (low, none, c.next)
    | _ =>
      let (high, c) ← c.count?
      guard (low ≤ high ∧ c.rest.head? = some '}')
      return (low, some (high - low), c.next)
  | _ => none

def pastLazyMark (c : PatternCursor) : PatternCursor :=
  if c.rest.head? = some '?' then c.past 1 else c

/-- Repeats the last item; there must be one, and flags are none. -/
def repeatLast (low : Nat) (extra : Option Nat) : List Expression → Option (List Expression)
  | []            => none
  | .flags _ :: _ => none
  | e :: items    => some (.times e low extra :: items)

def Atom.toExpression : Atom → Expression
  | .letter l              => .letter l
  | .anchor sign           => .anchor sign
  | .named set negated     => .named set negated
  | .property name negated => .property name negated

def settleBranch (branches items : List Expression) : List Expression :=
  .ofItems items.reverse :: branches

/-- Reads to the end of the text or of the group, whose closing parenthesis stays.  `branches` holds
those before the last bar and `items` those since, the last first. -/
def readBranches (fuel : Nat) (branches items : List Expression) (c : PatternCursor) :
    Option (Expression × PatternCursor) :=
  match fuel with
  | 0 => none
  | fuel + 1 =>
    let c := c.skip
    let repeated (low : Nat) (extra : Option Nat) (after : PatternCursor) := do
      readBranches fuel branches (← repeatLast low extra items) after.pastLazyMark
    match c.rest with
    | []       => some (.ofBranches (settleBranch branches items).reverse, c)
    | ')' :: _ => some (.ofBranches (settleBranch branches items).reverse, c)
    | '|' :: _ => readBranches fuel (settleBranch branches items) [] (c.past 1)
    | '(' :: _ => do
      match ← readOpening c.next with
      | (.flags change, after) =>
        let after := { after with spaced := (change.flag? .spaced).getD after.spaced }
        readBranches fuel branches (.flags change :: items) after
      | (.group remembers change, after) =>
        let inner := { after with spaced := (change.flag? .spaced).getD after.spaced }
        let (e, closing) ← readBranches fuel [] [] inner
        guard (closing.rest.head? = some ')')
        let after := { closing.past 1 with spaced := after.spaced }
        readBranches fuel branches (.group remembers change e :: items) after
    | '[' :: _ => do
      let (negated, first, after) := openSet c
      let (negated, set, after) ← readSet fuel negated none first after
      readBranches fuel branches (.bracket negated set :: items) after
    | '*' :: _ => repeated 0 none (c.past 1)
    | '+' :: _ => repeated 1 none (c.past 1)
    | '?' :: _ => repeated 0 (some 1) (c.past 1)
    | '{' :: _ => do
      let (low, extra, after) ← readBounds c
      repeated low extra after
    | '.' :: _ => readBranches fuel branches (.dot :: items) (c.past 1)
    | '^' :: _ => readBranches fuel branches (.anchor .caret :: items) (c.past 1)
    | '$' :: _ => readBranches fuel branches (.anchor .dollar :: items) (c.past 1)
    | _ => do
      let (atom, after) ← readAtom c
      readBranches fuel branches (atom.toExpression :: items) after

end PatternCursor

def Expression.read? (text : String) : Option Expression := do
  let cs := text.toList
  let (e, after) ← PatternCursor.readBranches (cs.length + 1) [] [] (.start cs)
  guard after.rest.isEmpty
  return e

end FormReplay
