/-!
# Conditions

The predicates of conditionals and while loops: over the state of one element of the surface, or
over one field of the current row.
-/
namespace FormReplay

inductive UiCheck where
  | visible
  | hidden
  | present
  | textEquals
  | textContains
  | valueEquals
  | valueContains
  deriving DecidableEq, Repr

inductive DataOp where
  | equals
  | notEquals
  | contains
  | empty
  | notEmpty
  deriving DecidableEq, Repr

inductive Condition where
  | ui (target : String) (check : UiCheck) (value : Option String)
  | data (field : String) (op : DataOp) (value : Option String)
  deriving DecidableEq, Repr

end FormReplay
