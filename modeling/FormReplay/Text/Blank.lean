import FormReplay.Text.Table
/-!
# Blanks

The characters that separate words, and the text in which words stand one space apart.
-/
namespace FormReplay

def blankTable : CodeTable := [
    (0x9, 0xD), (0x20, 0x20), (0x85, 0x85), (0xA0, 0xA0), (0x1680, 0x1680), (0x2000, 0x200A),
    (0x2028, 0x2029), (0x202F, 0x202F), (0x205F, 0x205F), (0x3000, 0x3000)]

def isBlank (c : Char) : Bool := blankTable.holds c.toNat

/-- `inWord` tells whether a word precedes: then a run of blanks is one space if another word
follows, and nothing otherwise. -/
def squeezeFrom : Bool → List Char → List Char
  | _, [] => []
  | inWord, c :: rest =>
    if isBlank c then
      match squeezeFrom false rest with
      | [] => []
      | s  => if inWord then ' ' :: s else s
    else c :: squeezeFrom true rest

/-- The words of a text, one space apart, with no blank at either end. -/
def squeeze (cs : List Char) : List Char := squeezeFrom false cs

def trimBlanks (cs : List Char) : List Char :=
  ((cs.dropWhile isBlank).reverse.dropWhile isBlank).reverse

end FormReplay
