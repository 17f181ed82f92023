import Phrasebook.Args
import Phrasebook.Text.Replace

/-!
## Placeholder substitution

The placeholder for a name is the name in braces.  Each argument in turn replaces every occurrence
of its placeholder in the whole text, so a value that brings in the placeholder of a later argument
is substituted again.  Placeholders without an argument stay as they are.
-/

namespace Phrasebook

open Phrasebook.Text

/-- The placeholder for a name. -/
def placeholder (name : List Char) : List Char :=
  '{' :: name ++ ['}']

/-- The text with every occurrence of the placeholder for `name` replaced by `value`. -/
def substituteOne (text name value : List Char) : List Char :=
  replaceAll (placeholder name) value text

/-- The text with the arguments put in, one after the other. -/
def substitute (text : String) (args : Args) : String :=
  String.ofList <| args.toList.foldl
    (fun acc pair => substituteOne acc pair.1.toList pair.2.toList) text.toList

end Phrasebook
