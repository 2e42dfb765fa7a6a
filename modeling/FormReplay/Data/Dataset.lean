import FormReplay.Json.Record
/-!
# Datasets

The tables that a workflow runs over, and how the rows of one belong to the rows of another.
-/
namespace FormReplay

structure Dataset where
  name : String
  rows : List Record := []

namespace Dataset

/-- The rows after the first `skip`, at most `limit` of them. -/
def sliced (d : Dataset) (skip : Nat) (limit : Option Nat) : Dataset :=
  let rest := d.rows.drop skip
  { d with rows := match limit with | some n => rest.take n | none => rest }

end Dataset

/-- The primary dataset is the one of the outermost loop, or of the whole program when it has no
loops; the others are looped over by name. -/
structure RunInput where
  primary : Dataset
  details : List Dataset := []

def RunInput.detail? (input : RunInput) (name : String) : Option Dataset :=
  input.details.find? (·.name == name)

/-- A field of the parent that a field of the child must agree with. -/
structure FieldMapping where
  parentField : String
  childField  : String
  deriving DecidableEq, Repr

structure Relationship where
  parentSource : String
  childSource  : String
  mappings     : List FieldMapping
  deriving DecidableEq, Repr

end FormReplay
