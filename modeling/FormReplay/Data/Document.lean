import FormReplay.Json.Decode
import FormReplay.Data.DataRow
import FormReplay.Data.Dataset
/-!
# Data documents

The JSON form of datasets, of the input of a run, and of rows.  Rows are kept as they are, so they
are read from JSON whatever notation they were written in.
-/
namespace FormReplay

namespace Dataset

def ofJson? (j : Json) : Option Dataset := do
  let f ← j.fields? ["name", "rows"]
  return ⟨← f.required "name" Readable.string?, ← f.withDefault "rows" (Readable.list? Json.record?) []⟩

def toJson (d : Dataset) : Json :=
  .obj [("name", .str d.name), ("rows", .arr (d.rows.map Record.toJson))]

end Dataset

namespace RunInput

def ofJson? (j : Json) : Option RunInput := do
  let f ← j.fields? ["primary", "details"]
  return ⟨← f.required "primary" Dataset.ofJson?,
    ← f.withDefault "details" (Readable.list? Dataset.ofJson?) []⟩

def toJson (input : RunInput) : Json :=
  .obj [("primary", input.primary.toJson), ("details", .arr (input.details.map Dataset.toJson))]

end RunInput

namespace DataRow

def ofJson? (j : Json) : Option DataRow := do
  let f ← j.fields? ["fields", "lineage"]
  return ⟨← f.required "fields" Json.record?,
    ← f.withDefault "lineage" (Readable.list? Readable.string?) []⟩

def toJson (row : DataRow) : Json :=
  .obj [("fields", row.fields.toJson), ("lineage", .ofStrings row.lineage)]

end DataRow

end FormReplay
