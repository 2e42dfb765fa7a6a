import FormReplay.Json.Basic
/-!
# Records

A record is an object whose fields stand in the order of their names, each name once, as its type
says.  Rows of data and the free payload of a step are records.
-/
namespace FormReplay

structure Record where
  entries : List (String × Json)
  sorted  : SortedFields entries

namespace Record

def empty : Record := ⟨[], List.Pairwise.nil⟩

instance : Inhabited Record := ⟨empty⟩

def get? (r : Record) (name : String) : Option Json := field? name r.entries

def put (r : Record) (name : String) (v : Json) : Record :=
  ⟨putField name v r.entries, sorted_putField name v r.sorted⟩

/-- The record of a list of fields; the last field of a name counts. -/
def ofFields (fields : List (String × Json)) : Record :=
  fields.foldl (fun r p => r.put p.1 p.2) empty

def isEmpty (r : Record) : Bool := r.entries.isEmpty

def toJson (r : Record) : Json := .obj r.entries

theorem get?_put (r : Record) (name : String) (v : Json) (key : String) :
    (r.put name v).get? key = if name = key then some v else r.get? key :=
  field?_putField name v r.entries key

end Record

end FormReplay
