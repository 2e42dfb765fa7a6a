import FormReplay.Data.DataRow
import FormReplay.Data.Dataset
/-!
# Detail rows

Which rows of a dataset belong to the row around a loop.  Of the relationships that have the
dataset as child, in the order declared, the first counts whose parent is a source of the row
around and whose parent fields all have a value there.
-/
namespace FormReplay

inductive DetailSelection where
  /-- The rows that agree with the parent, by the relationship of this index. -/
  | filtered (relationship : Nat) (rows : List Record)
  /-- No relationship is declared for the dataset: all its rows. -/
  | unrelated (rows : List Record)
  /-- Relationships are declared, but none has its parent fields in this row. -/
  | unresolvable

def DetailSelection.rows : DetailSelection → List Record
  | .filtered _ rows => rows
  | .unrelated rows  => rows
  | .unresolvable    => []

namespace Relationship

/-- Each child field with the parent's value, if the row has them all. -/
def keys? (r : Relationship) (row : DataRow) : Option (List (String × String)) :=
  if r.mappings.isEmpty || !row.descendsFrom r.parentSource then none
  else r.mappings.mapM fun m => (row.parentValue? r.parentSource m.parentField).map (m.childField, ·)

end Relationship

def sameTrimmed (a b : String) : Bool := trimBlanks a.toList == trimBlanks b.toList

def Record.agrees (item : Record) (keys : List (String × String)) : Bool :=
  keys.all fun (field, wanted) =>
    match item.get? field with
    | some v => sameTrimmed v.plain wanted
    | none   => false

/-- The first relationship, with its index counted from `start`, that has the child and resolves. -/
def firstResolved (child : String) (row : DataRow) (start : Nat) :
    List Relationship → Option (Nat × List (String × String))
  | [] => none
  | r :: rest =>
    if r.childSource = child then
      match r.keys? row with
      | some keys => some (start, keys)
      | none      => firstResolved child row (start + 1) rest
    else firstResolved child row (start + 1) rest

def selectDetailRows (dataset : Dataset) (relationships : List Relationship) (row : DataRow) :
    DetailSelection :=
  if relationships.all fun r => r.childSource != dataset.name then .unrelated dataset.rows
  else
    match firstResolved dataset.name row 0 relationships with
    | some (i, keys) => .filtered i (dataset.rows.filter fun item => item.agrees keys)
    | none           => .unresolvable

end FormReplay
