import FormReplay.Json.Basic
import FormReplay.Decimal.Shortest
/-!
# Writing JSON

The compact text of a value: no blanks, and the fields of an object in the order of their names.
In a text the quote, the backslash and the control characters below the space are escaped; every
other character stands for itself.
-/
namespace FormReplay

def hexDigit (n : Nat) : Char := if n < 10 then Char.ofNat (48 + n) else Char.ofNat (87 + n)

def escapeChar (c : Char) : List Char :=
  match c with
  | '"'    => ['\\', '"']
  | '\\'   => ['\\', '\\']
  | '\x08' => ['\\', 'b']
  | '\t'   => ['\\', 't']
  | '\n'   => ['\\', 'n']
  | '\x0c' => ['\\', 'f']
  | '\r'   => ['\\', 'r']
  | c      =>
    if c.toNat < 32 then ['\\', 'u', '0', '0', hexDigit (c.toNat / 16), hexDigit (c.toNat % 16)]
    else [c]

def quotedChars (s : String) : List Char := '"' :: s.toList.flatMap escapeChar ++ ['"']

def commaChars : List (List Char) → List Char
  | []      => []
  | [t]     => t
  | t :: ts => t ++ ',' :: commaChars ts

mutual

def Json.chars : Json → List Char
  | .null       => "null".toList
  | .bool true  => "true".toList
  | .bool false => "false".toList
  | .int n      => (if n < 0 then ['-'] else []) ++ digitChars n.natAbs
  | .real x     => x.text
  | .str s      => quotedChars s
  | .arr items  => '[' :: commaChars (itemChars items) ++ [']']
  | .obj fields =>
    '\x7b' :: commaChars ((sortFields (fieldChars fields)).map fun (k, t) => quotedChars k ++ ':' :: t)
      ++ ['\x7d']

def itemChars : List Json → List (List Char)
  | []          => []
  | item :: rest => item.chars :: itemChars rest

def fieldChars : List (String × Json) → List (String × List Char)
  | []             => []
  | (k, v) :: rest => (k, v.chars) :: fieldChars rest

end

def Json.compact (j : Json) : String := String.ofList j.chars

/-- The text under which a field value enters forms and comparisons: a text is itself, null is
nothing, and all else is its compact text. -/
def Json.plain : Json → String
  | .str s => s
  | .null  => ""
  | j      => j.compact

def newLine (depth : Nat) : List Char := '\n' :: List.replicate (2 * depth) ' '

mutual

def Json.layout (depth : Nat) : Json → List Char
  | .arr []     => ['[', ']']
  | .arr items  => '[' :: itemLines (depth + 1) items ++ newLine depth ++ [']']
  | .obj []     => ['\x7b', '\x7d']
  | .obj fields => '\x7b' :: fieldLines (depth + 1) fields ++ newLine depth ++ ['\x7d']
  | j           => j.chars

def itemLines (depth : Nat) : List Json → List Char
  | []           => []
  | [item]       => newLine depth ++ item.layout depth
  | item :: rest => newLine depth ++ item.layout depth ++ ',' :: itemLines depth rest

def fieldLines (depth : Nat) : List (String × Json) → List Char
  | []             => []
  | [(k, v)]       => newLine depth ++ quotedChars k ++ ':' :: ' ' :: v.layout depth
  | (k, v) :: rest => newLine depth ++ quotedChars k ++ ':' :: ' ' :: v.layout depth ++ ',' :: fieldLines depth rest

end

def Json.pretty (j : Json) : String := String.ofList (j.layout 0)

end FormReplay
