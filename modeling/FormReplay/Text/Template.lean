import FormReplay.Text.Word
import FormReplay.Text.Normal
/-!
# Templates

Two appearances of one dialog may differ in a record number or a quoted name.  `generalize` puts a
placeholder for every such variable part, so both have one template: first the texts in double
quotes, then those in single quotes that open a word, then the tokens that hold a digit; at last
the words are set one space apart.

Each of the three passes replaces from left to right and never looks at what it has replaced, so
all are instances of `substitute`.
-/
namespace FormReplay

def textPlaceholder : List Char := "\x7btext\x7d".toList

def numberPlaceholder : List Char := "\x7bn\x7d".toList

/-- A stretch at the head of a text to replace: how many characters follow its first one, and what
stands in its place. -/
structure Stretch where
  more  : Nat
  value : List Char
  deriving Repr, DecidableEq

/-- Replaces every stretch that `find` sees at a place not yet replaced.  `find` is told whether
the place is the start of the text; `skip` characters belong to the stretch last replaced. -/
def substituteFrom (find : Bool → List Char → Option Stretch) (start : Bool) (skip : Nat) :
    List Char → List Char
  | [] => []
  | c :: rest =>
    match skip with
    | n + 1 => substituteFrom find false n rest
    | 0 =>
      match find start (c :: rest) with
      | some s => s.value ++ substituteFrom find false s.more rest
      | none   => c :: substituteFrom find false 0 rest

def substitute (find : Bool → List Char → Option Stretch) (cs : List Char) : List Char :=
  substituteFrom find true 0 cs

def closingQuote : Char → Option Char
  | '"' => some '"'
  | '“' => some '”'
  | _   => none

def doubleQuoted (_start : Bool) : List Char → Option Stretch
  | [] => none
  | c :: rest => do
    let q ← closingQuote c
    let n ← rest.idxOf? q
    return ⟨n + 1, textPlaceholder⟩

/-- What may stand before a single quote that opens a word. -/
def opensQuote (c : Char) : Bool := isBlank c || c == '(' || c == '[' || c == ':'

/-- A text in single quotes at the start or after a character that opens one, which stays.  A quote
inside a word, as in a contraction, opens nothing. -/
def singleQuoted (start : Bool) : List Char → Option Stretch
  | '\'' :: rest =>
    if start then (rest.idxOf? '\'').map fun n => ⟨n + 1, textPlaceholder⟩ else none
  | c :: '\'' :: rest =>
    if opensQuote c then (rest.idxOf? '\'').map fun n => ⟨n + 2, c :: textPlaceholder⟩ else none
  | _ => none

def joinsToken (c : Char) : Bool := isWord c || c == '#' || c == '/' || c == '.' || c == ':' || c == '-'

def endsToken (c : Char) : Bool := isWord c || c == '/' || c == '-'

/-- What follows the last digit, if there is a digit. -/
def afterLastDigit : List Char → Option (List Char)
  | [] => none
  | c :: rest =>
    match afterLastDigit rest with
    | some tail => some tail
    | none      => if isDigit c then some rest else none

/-- A run of the characters that join tokens.  Up to its last digit, and to the end of what follows
that digit without punctuation, it is a number; a run without a digit stands for itself. -/
def token (_start : Bool) (cs : List Char) : Option Stretch :=
  let run := cs.takeWhile joinsToken
  match run, afterLastDigit run with
  | [], _          => none
  | _ :: more, none => some ⟨more.length, run⟩
  | _ :: more, some tail =>
    some ⟨more.length - (tail.dropWhile endsToken).length, numberPlaceholder⟩

/-- The template of a text: its variable parts replaced by placeholders. -/
def generalizeChars (cs : List Char) : List Char :=
  squeeze (substitute token (substitute singleQuoted (substitute doubleQuoted cs)))

def generalize (text : String) : String := String.ofList (generalizeChars text.toList)

def benignPhrases : List String :=
  ["saved successfully", "successfully saved", "changes saved", "record saved",
   "successfully updated", "loading", "please wait"]

def isBenign (text : String) : Bool :=
  let t := normalize text
  benignPhrases.any fun phrase => hasText t phrase

end FormReplay
