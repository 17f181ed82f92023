import Phrasebook.Json.Token

/-!
## Writing JSON

A document is written as its tokens, one after the other and without white space.
-/

namespace Phrasebook.Json

mutual

/-- The tokens of a document. -/
def tokensOf : Document → List Token
  | .null => [.null]
  | .bool b => [.bool b]
  | .number n => [.number n]
  | .text s => [.text s.toList]
  | .unreadable => [.brokenText]
  | .list items => .openBracket :: tokensOfItems items ++ [.closeBracket]
  | .table entries => .openBrace :: tokensOfEntries entries ++ [.closeBrace]

/-- The tokens of the items of a list, with commas between them. -/
def tokensOfItems : List Document → List Token
  | [] => []
  | [item] => tokensOf item
  | item :: rest => tokensOf item ++ .comma :: tokensOfItems rest

/-- The tokens of the entries of a table, with commas between them. -/
def tokensOfEntries : List (String × Document) → List Token
  | [] => []
  | [(key, value)] => .text key.toList :: .colon :: tokensOf value
  | (key, value) :: rest =>
    .text key.toList :: .colon :: tokensOf value ++ .comma :: tokensOfEntries rest

end

/-- A document in compact form. -/
def render (d : Document) : List Char :=
  (tokensOf d).flatMap Token.render

/-- A document in compact form, as a string. -/
def print (d : Document) : String :=
  String.ofList (render d)

end Phrasebook.Json
