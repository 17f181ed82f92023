import Phrasebook.Yaml.Scalar.Basic
import Phrasebook.Yaml.Tag

/-!
## The tokens of YAML

A document is a sequence of scalars and of signs that say how they belong together.  Some of these
signs are characters; others stand for a change of indentation, or for a key that only the colon
behind it shows to be one.
-/

namespace Phrasebook.Yaml

/-- A scalar or a sign. -/
inductive Token where
  /-- The version of YAML that the next document is written in. -/
  | version (major minor : Nat)
  /-- What a handle of tags stands for in the next document. -/
  | handle (name : String) (meaning : Tag)
  /-- The mark before a document. -/
  | start
  /-- The mark behind a document. -/
  | stop
  /-- The start of a list that is written with one item on a line. -/
  | openList
  /-- The start of a table that is written with one entry on a line. -/
  | openTable
  /-- The end of such a list or table. -/
  | close
  | openBracket
  | closeBracket
  | openBrace
  | closeBrace
  /-- The dash before an item of a list. -/
  | dash
  /-- The comma behind an item or entry in brackets. -/
  | comma
  /-- The start of a key. -/
  | key
  /-- The colon before a value. -/
  | value
  | anchor (name : String)
  /-- A reference to an anchor. -/
  | alias (name : String)
  | tag (name : TagName)
  | scalar (style : Style) (text : String)
  deriving DecidableEq, Repr

end Phrasebook.Yaml
