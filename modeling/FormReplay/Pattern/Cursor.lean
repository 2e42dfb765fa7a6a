import FormReplay.Text.Blank
import FormReplay.Text.Numeral
/-!
# A pattern being read

What is left of a written pattern, and what has to be known of the part read already: whether blanks
and comments between the parts are skipped, and which names groups have.
-/
namespace FormReplay

structure PatternCursor where
  rest   : List Char
  spaced : Bool
  names  : List String
  deriving Repr, DecidableEq

/-- Drops blanks and comments; a comment starts with a number sign and ends with its line. -/
def dropSpace (inComment : Bool) : List Char → List Char
  | [] => []
  | c :: rest =>
    if inComment then dropSpace (c != '\n') rest
    else if isBlank c then dropSpace false rest
    else if c = '#' then dropSpace true rest
    else c :: rest

theorem length_dropSpace_le (inComment : Bool) (cs : List Char) :
    (dropSpace inComment cs).length ≤ cs.length := by
  induction cs generalizing inComment with
  | nil => exact Nat.le_refl _
  | cons c rest ih =>
    unfold dropSpace
    split
    · exact Nat.le_succ_of_le (ih _)
    · split
      · exact Nat.le_succ_of_le (ih _)
      · split
        · exact Nat.le_succ_of_le (ih _)
        · exact Nat.le_refl _

namespace PatternCursor

def start (cs : List Char) : PatternCursor := ⟨cs, false, []⟩

def past (c : PatternCursor) (n : Nat) : PatternCursor := { c with rest := c.rest.drop n }

def skip (c : PatternCursor) : PatternCursor :=
  if c.spaced then { c with rest := dropSpace false c.rest } else c

def next (c : PatternCursor) : PatternCursor := (c.past 1).skip

def peek? (c : PatternCursor) : Option Char :=
  if c.spaced then
    match (c.rest.drop 1).dropWhile isBlank with
    | '#' :: rest => (rest.dropWhile isBlank).head?
    | rest        => rest.head?
  else (c.rest.drop 1).head?

theorem length_next_lt {c : PatternCursor} {ch : Char} {rest : List Char} (h : c.rest = ch :: rest) :
    c.next.rest.length < c.rest.length := by
  have hle := length_dropSpace_le false rest
  unfold next skip past
  split <;> simp only [h, List.drop_succ_cons, List.drop_zero, List.length_cons] <;> omega

/-- The characters up to the first that is not of a kind; what is skipped between them is left out. -/
def takeWhile (c : PatternCursor) (p : Char → Bool) : List Char × PatternCursor :=
  match _h : c.rest with
  | [] => ([], c)
  | ch :: _ =>
    if p ch then
      let (run, after) := c.next.takeWhile p
      (ch :: run, after)
    else ([], c)
termination_by c.rest.length
decreasing_by exact length_next_lt _h

/-- So many characters; what is skipped between them is left out. -/
def take (n : Nat) (c : PatternCursor) : Option (List Char × PatternCursor) :=
  match n, c.rest with
  | 0, _ => some ([], c)
  | _, [] => none
  | n + 1, ch :: _ => (take n c.next).map fun (run, after) => (ch :: run, after)

/-- What stands up to a closing brace, and the place of the brace. -/
def braced? (c : PatternCursor) : Option (List Char × PatternCursor) :=
  let (inner, after) := c.takeWhile (· != '}')
  match after.rest with
  | '}' :: _ => some (inner, after)
  | _        => none

/-- A number of at most 32 bits, blanks around it allowed. -/
def count? (c : PatternCursor) : Option (Nat × PatternCursor) := do
  let (digits, after) := { c with rest := c.rest.dropWhile isBlank }.takeWhile Char.isDigit
  let n ← digitsValue? 10 digits
  guard (n < Nat.pow 2 32)
  return (n, (after.takeWhile isBlank).2)

end PatternCursor

end FormReplay
