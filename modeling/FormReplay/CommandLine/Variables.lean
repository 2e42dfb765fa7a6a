import FormReplay.Json.Basic
import FormReplay.Text.Blank
/-!
# Files of variables

A file of variables has a line `NAME=value` for each, maybe after the word `export`.  A value may
have parts in single quotes, which stand for themselves, and in double quotes, where a backslash
escapes; a dollar sign puts in the value of another variable.  A quote may run over several lines.
A number sign starts a comment at the start of a line or after a blank.  A byte order mark before
the first line does not count.

What is wrong with one line ends the reading there, and the variables before it count.
-/
namespace FormReplay

namespace Variables

abbrev Bindings := List (String × String)

/-! ## Logical lines -/

inductive Place where
  | plain
  | escape
  | afterBlank
  | weak
  | weakEscape
  | strong
  | strongEscape
  deriving DecidableEq, Repr

def Place.afterPlain (c : Char) : Place :=
  match c with
  | '\\' => .escape
  | '"'  => .weak
  | '\'' => .strong
  | _    => .plain

def Place.next (p : Place) (c : Char) : Place :=
  match p with
  | .afterBlank   => .afterPlain c
  | .plain        => if isBlank c && c != '\n' && c != '\r' then .afterBlank else .afterPlain c
  | .escape       => .plain
  | .weak         => if c == '\\' then .weakEscape else if c == '"' then .plain else .weak
  | .weakEscape   => .weak
  | .strong       => if c == '\\' then .strongEscape else if c == '\'' then .plain else .strong
  | .strongEscape => .strong

/-- Reads one physical line, up to its end or to a comment; `none` marks a comment. -/
def scanLine (p : Place) : List Char → Option Place × List Char
  | [] => (some p, [])
  | c :: rest =>
    if p = .afterBlank ∧ c = '#' then (none, [])
    else
      let (stop, kept) := scanLine (p.next c) rest
      (stop, c :: kept)

/-- The physical lines of a text, each with its line break. -/
def physicalLines : List Char → List (List Char)
  | [] => []
  | '\n' :: rest => ['\n'] :: physicalLines rest
  | c :: rest =>
    match physicalLines rest with
    | []      => [[c]]
    | l :: ls => (c :: l) :: ls

def dropBreak (cs : List Char) : List Char :=
  match cs.reverse with
  | '\n' :: '\r' :: rest => rest.reverse
  | '\n' :: rest         => rest.reverse
  | _                    => cs

/-- Joins physical lines to logical ones; `open_` holds what a quote left open.  A line that is
never completed is `none`, and the last. -/
def logicalLines (p : Place) (open_ : List Char) : List (List Char) → List (Option (List Char))
  | [] => if p = .plain then [] else [none]
  | l :: rest =>
    if (open_ ++ l).dropWhile isBlank |>.head? |> (· == some '#') then
      some [] :: logicalLines .plain [] rest
    else
      match scanLine p l with
      | (none, kept)        => some (open_ ++ kept) :: logicalLines .plain [] rest
      | (some .plain, kept) => some (dropBreak (open_ ++ kept)) :: logicalLines .plain [] rest
      | (some p, kept)      => logicalLines p (open_ ++ kept) rest

/-! ## Values -/

inductive Putting where
  | no
  | bare
  | braced
  deriving DecidableEq, Repr

structure Reading where
  weak    : Bool := false
  strong  : Bool := false
  escaped : Bool := false
  /-- The value is over, and only blanks and a comment may follow. -/
  ended   : Bool := false
  putting : Putting := .no
  name    : List Char := []
  output  : List Char := []

def lookUp (known : Bindings) (name : List Char) : List Char :=
  ((field? (String.ofList name) known).getD "").toList

def Reading.putIn (known : Bindings) (r : Reading) (putting : Putting) : Reading :=
  { r with output := r.output ++ lookUp known r.name, name := [], putting }

def Reading.push (r : Reading) (c : Char) : Reading := { r with output := r.output ++ [c] }

def isNameChar (c : Char) : Bool := c.isAlphanum

def Reading.open_ (r : Reading) (c : Char) : Reading :=
  if c == '$' then { r with putting := .bare }
  else if c == '\\' then { r with escaped := true }
  else if r.weak then if c == '"' then { r with weak := false } else r.push c
  else
    match c with
    | '\'' => { r with strong := true }
    | '"'  => { r with weak := true }
    | ' '  => { r with ended := true }
    | '\t' => { r with ended := true }
    | c    => r.push c

def Reading.step (known : Bindings) (r : Reading) (c : Char) : Option Reading :=
  if r.ended then if c == ' ' || c == '\t' then some r else none
  else if r.escaped then
    match c with
    | 'n' => some { r.push '\n' with escaped := false }
    | '\\' | '\'' | '"' | '$' | ' ' => some { r.push c with escaped := false }
    | _ => none
  else if r.strong then some (if c == '\'' then { r with strong := false } else r.push c)
  else
    match r.putting with
    | .no => some (r.open_ c)
    | .bare =>
      if isNameChar c then some { r with name := r.name ++ [c] }
      else if c == '\x7b' && r.name.isEmpty then some { r with putting := .braced }
      else if c == '$' then some (r.putIn known .bare)
      else some ((r.putIn known .no).push c)
    | .braced =>
      if c == '\x7d' then some (r.putIn known .no) else some { r with name := r.name ++ [c] }

def readValue (known : Bindings) (r : Reading) : List Char → Option String
  | [] =>
    if r.putting = .braced || r.strong || r.weak then none
    else some (String.ofList (r.putIn known .no).output)
  | c :: rest =>
    if r.ended && c == '#' then readValue known r []
    else do readValue known (← r.step known c) rest

/-! ## Lines -/

def startsName (c : Char) : Bool := c.isAlpha || c == '_'

def readName (cs : List Char) : Option (String × List Char) :=
  match cs with
  | c :: _ =>
    if startsName c then
      let name := cs.takeWhile fun c => c.isAlphanum || c == '_' || c == '.'
      some (String.ofList name, (cs.drop name.length).dropWhile isBlank)
    else none
  | [] => none

def afterEquals : List Char → Option (List Char)
  | '=' :: rest => some (rest.dropWhile isBlank)
  | _           => none

/-- A name and what follows its equals sign.  The word `export` may precede the name, or be it. -/
def readAssignment (cs : List Char) : Option (String × List Char) := do
  let (name, rest) ← readName cs
  match afterEquals rest with
  | some rest => return (name, rest)
  | none =>
    if name = "export" then
      let (name, rest) ← readName rest
      return (name, ← afterEquals rest)
    else none

def readLine (known : Bindings) (cs : List Char) : Option (Option (String × String)) :=
  let cs := cs.dropWhile isBlank
  match cs with
  | [] | '#' :: _ => some none
  | _ => do
    let (name, rest) ← readAssignment cs
    match rest with
    | [] | '#' :: _ => return some (name, "")
    | _             => return some (name, ← readValue known {} rest)

/-- Adds the variables of logical lines to an environment, where those that are set stay as they
are.  `mentioned` holds what the file itself said so far, the latest first. -/
def addLines (env mentioned : Bindings) : List (Option (List Char)) → Bindings
  | [] => env
  | none :: _ => env
  | some cs :: rest =>
    match readLine (env ++ mentioned) cs with
    | none => env
    | some none => addLines env mentioned rest
    | some (some (name, value)) =>
      let env := if (field? name env).isSome then env else env ++ [(name, value)]
      addLines env ((name, value) :: mentioned) rest

def load (env : Bindings) (text : String) : Bindings :=
  let cs := match text.toList with
    | '\ufeff' :: rest => rest
    | cs               => cs
  addLines env [] (logicalLines .plain [] (physicalLines cs))

end Variables

end FormReplay
