import FormReplay.Json.Writer
import FormReplay.Json.Record
import FormReplay.Text.Blank
/-!
# Rows

The row that a step runs against.  Every data loop merges its item into the row around it: each
field of the item under its own name, where it hides a field of that name further out, and under
`source:field`.  The lineage lists the sources of the loops around, the outermost first.
-/
namespace FormReplay

structure DataRow where
  fields  : Record := .empty
  lineage : List String := []

namespace DataRow

def empty : DataRow := {}

instance : Inhabited DataRow := ⟨empty⟩

/-- The name under which a source's own field is kept. -/
def qualified (source field : String) : String := source ++ ":" ++ field

/-- Both names of every field of an item, set one field after the other. -/
def mergeFields (source : String) (fields : Record) (item : List (String × Json)) : Record :=
  item.foldl (fun r p => (r.put p.1 p.2).put (qualified source p.1) p.2) fields

def mergeItem (row : DataRow) (source : String) (item : Record) : DataRow :=
  ⟨mergeFields source row.fields item.entries, row.lineage ++ [source]⟩

/-- The row of one item of an outermost dataset. -/
def ofItem (source : String) (item : Record) : DataRow := empty.mergeItem source item

/-- What follows the first colon. -/
def bareName? (key : String) : Option String :=
  match key.toList.dropWhile (· != ':') with
  | []        => none
  | _ :: rest => some (String.ofList rest)

/-- A field by its name; a name `source:field` that is not there falls back to `field`. -/
def get? (row : DataRow) (key : String) : Option Json :=
  match row.fields.get? key with
  | some v => some v
  | none   => (bareName? key).bind row.fields.get?

def getText? (row : DataRow) (key : String) : Option String := (row.get? key).map Json.plain

/-- Whether a loop over the source is around this row. -/
def descendsFrom (row : DataRow) (source : String) : Bool := row.lineage.contains source

def isBlankText (s : String) : Bool := s.toList.all isBlank

/-- A field of the row that the loop over a source contributed, as text.  Only the name with the
source counts, since the bare one may be anyone's; and only a text that is not blank. -/
def parentValue? (row : DataRow) (source field : String) : Option String :=
  if row.descendsFrom source then
    ((row.fields.get? (qualified source field)).map Json.plain).filter fun s => !isBlankText s
  else none

def nearestSource? (row : DataRow) : Option String := row.lineage.getLast?

end DataRow

end FormReplay
