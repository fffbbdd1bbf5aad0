/-!
# Names

Names of addresses consist of ASCII letters, digits and dollar signs.

## Main definitions

* `Nsis.Text.isNameChar` — the characters of names.
* `Nsis.Text.name` — a text with all other characters replaced.
-/

namespace Nsis.Text

/-- Whether a character may stand in a name. -/
def isNameChar (c : Char) : Bool :=
  c.isAlphanum || c = '$'

/-- A text with an underscore in place of every character that may not stand in a name. -/
def name (text : String) : String :=
  String.ofList (text.toList.map fun c => if isNameChar c then c else '_')

end Nsis.Text
