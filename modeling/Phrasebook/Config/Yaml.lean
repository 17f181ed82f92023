import Phrasebook.Config.Reader
import Phrasebook.Message.Catalog
import Phrasebook.Yaml.Parser
import Phrasebook.Yaml.Word

/-!
## Configurations in YAML

A field that is a text takes any scalar as it is written; a field that is a truth value or a number
takes a scalar without quotes only, or one whose tag says so.  Where a section or the catalogs are
missing behind their key, they are as if the key were not there.  In a catalog a scalar without
quotes is a text only if it is no word for anything else.

An alias is read as the node with its anchor, but only where something is asked of it.  A document
can be written so that this never ends, or not soon; so there is a limit to the number of aliases
that are followed.
-/

namespace Phrasebook.Config.Yaml

open Phrasebook.Yaml

/-- Answers that may follow some number of aliases. -/
abbrev Reading := StateT Nat Option

/-- How many aliases may be followed for each part of a document. -/
def aliasFactor : Nat :=
  100

/-- The node that a node stands for: itself, unless it is an alias. -/
def follow (doc : Phrasebook.Yaml.Document) : Node Nat → Reading (Node Nat)
  | .alias anchor => do
    match ← get with
    | 0 => failure
    | left + 1 =>
      set left
      StateT.lift (doc.target? anchor)
  | n => pure n

/-! ### Fields -/

section

variable (doc : Phrasebook.Yaml.Document)

/-- The scalar that a node stands for. -/
def scalar? (n : Node Nat) : Reading Scalar := do
  match ← follow doc n with
  | .scalar _ s => pure s
  | _ => failure

/-- The text of a scalar. -/
def text? (n : Node Nat) : Reading String := do
  return (← scalar? doc n).text

/-- Whether a scalar is written as a word, or on lines of its own with a tag that says what it is.
-/
def isWord (tag : Tag) (s : Scalar) : Bool :=
  s.style = .plain || (s.style = .literal && s.tag = some tag)

/-- The truth value of a scalar. -/
def bool? (n : Node Nat) : Reading Bool := do
  let s ← scalar? doc n
  if isWord .bool s then StateT.lift (Word.bool? s.text) else failure

/-- The natural number of a scalar. -/
def natural? (n : Node Nat) : Reading Nat := do
  let s ← scalar? doc n
  if isWord .int s then StateT.lift (Word.natural64? s.text) else failure

/-- The text of a scalar, or nothing for a word for no value.  A scalar whose tag says that it is no
value has to be such a word. -/
def optionalText? (n : Node Nat) : Reading (Option String) := do
  let s ← scalar? doc n
  if s.style ≠ .plain then return some s.text
  else match s.tag with
    | some tag =>
      if tag ≠ .null then return some s.text
      else if Word.isNull s.text then return none
      else failure
    | none => return if s.text = "" || Word.isNull s.text then none else some s.text

/-- The entries of a table.  A place where nothing is written is taken for a table without any. -/
def entries? (n : Node Nat) : Reading (List (Node Nat × Node Nat)) := do
  match ← follow doc n with
  | .table _ _ entries => pure entries
  | .scalar _ s => if s.style = .plain && s.text = "" then pure [] else failure
  | _ => failure

/-- The values of the named fields of a section. -/
def fields? (names : List String) (n : Node Nat) : Reading (List (Option (Node Nat))) := do
  let entries ← (← entries? doc n).mapM fun (k, v) => do return (← text? doc k, v)
  names.mapM fun name =>
    match entries.filter fun entry => entry.1 = name with
    | [] => pure none
    | [(_, v)] => pure (some v)
    | _ => failure

/-! ### Catalogs -/

/-- Whether a tag says that a scalar is something other than a text, or something that nobody knows.
-/
def isForeign (tag : Tag) : Bool :=
  tag.isLocal || tag = .bool || tag = .int || tag = .float || tag = .null

/-- The text of a scalar that stands for nothing else.  It is taken as a word if it has no quotes,
and no tag that is known. -/
def strictText? (s : Scalar) : Option String :=
  if s.tag.any isForeign then none
  else if s.style = .plain && s.tag.all Tag.isMarked && !Word.isText s.text then none
  else some s.text

/-- The message tree of a node inside so many tables at most, if it has texts and tables only.  Its
keys have to be texts as well. -/
def tree? : Nat → Node Nat → Reading MessageTree
  | depth, n => do
    match ← follow doc n with
    | .scalar _ s => return .text (← StateT.lift (strictText? s))
    | .table _ tag entries =>
      match depth with
      | 0 => failure
      | depth + 1 =>
        if tag.any Tag.isLocal then failure
        else
          return MessageTree.ofPairs (← entries.mapM fun (k, v) => do
            return (← StateT.lift (strictText? (← scalar? doc k)), ← tree? depth v))
    | _ => failure

/-- The greatest depth of a catalog.  The table of catalogs is one more level around it, and the
configuration is another. -/
def catalogDepth : Nat :=
  MessageTree.depthLimit - 1

/-- The catalogs in a table; any scalar names a locale. -/
def catalogs? (n : Node Nat) : Reading (List (String × MessageTree)) := do
  (← entries? doc n).mapM fun (k, v) => do return (← text? doc k, ← tree? doc catalogDepth v)

/-- What a YAML node tells a configuration. -/
def reader : Reader Reading (Node Nat) :=
  ⟨fields? doc, text? doc, optionalText? doc, bool? doc, natural? doc, catalogs? doc⟩

end

/-- The configuration that a YAML text describes. -/
def parse? (text : String) : Option Config := do
  let doc ← Phrasebook.Yaml.parse text.toList
  (read? (reader doc) doc.root).run' (aliasFactor * doc.root.size)

end Phrasebook.Config.Yaml
