import FormReplay.Text.Blank
import FormReplay.Text.Case
/-!
# Comparing texts

Texts that a person reads (labels of controls, templates, field values in conditions) are compared
without regard to case and spacing: in lower case, with their words one space apart.
-/
namespace FormReplay

def normalize (s : String) : String := String.ofList (lower (squeeze s.toList))

def occursIn (part : List Char) : List Char → Bool
  | [] => part.isEmpty
  | c :: rest => part.isPrefixOf (c :: rest) || occursIn part rest

def hasText (s part : String) : Bool := occursIn part.toList s.toList

end FormReplay
