import FormReplay.Pattern.Expression
import FormReplay.Text.Property
import FormReplay.Text.WritingScript
/-!
# Names of properties

The set that `\p` names.  Names are loose: their case, their spaces, underscores and hyphens, and the
word `is` in front do not count.  A name alone is that of a property, a category or a script; a name
with a value asks for the category, for the script, or for the scripts that use a character.
-/
namespace FormReplay

/-- A name without what does not count.  The abbreviation of the category of all others is not
reached through `is`. -/
def looseName (name : String) : String :=
  let kept (cs : List Char) : List Char :=
    (cs.filter fun c => c.toNat < 0x80 && c != ' ' && c != '_' && c != '-').map Char.toLower
  match name.toList with
  | i :: s :: rest =>
    if i.toLower = 'i' ∧ s.toLower = 's' then
      if kept rest = ['c'] then "isc" else String.ofList (kept rest)
    else String.ofList (kept (i :: s :: rest))
  | cs => String.ofList (kept cs)

def categoryCodes? (name : String) : Option CodeTable :=
  match name with
  | "any"      => some [(0, CodeTable.lastCode)]
  | "ascii"    => some [(0, 0x7F)]
  | "assigned" => some Category.assignedCodes
  | name       => (Category.named? name).map Category.codesOfAll

namespace PropertyName

def plainCodes? (name : String) : Option CodeTable :=
  ((CharProperty.named? name).map (·.codes))
    <|> categoryCodes? name
    <|> (WritingScript.named? name).map (·.codes)

def valuedCodes? (property value : String) : Option CodeTable :=
  if ["gc", "generalcategory", "category"].contains property then categoryCodes? value
  else if ["sc", "script"].contains property then (WritingScript.named? value).map (·.codes)
  else if ["scx", "scriptextensions"].contains property then
    (WritingScript.named? value).map (·.usedCodes)
  else none

def codes? : PropertyName → Option CodeTable
  | .plain name            => plainCodes? (looseName name)
  | .valued property value => valuedCodes? (looseName property) (looseName value)

end PropertyName

end FormReplay
