import Phrasebook.Yaml.Layout
import Phrasebook.Yaml.Node

/-!
## Reading YAML

The tokens of a document follow a grammar with two kinds of lists and tables: those with one item or
entry on a line, and those in brackets.  Where the grammar asks for a node and there is none, the
node is `Node.absent`.

* `readNode` reads a node, and `readStream` all that a text consists of.
* `parse` gives the document in a text.  There must not be more than one.
-/

namespace Phrasebook.Yaml

/-! ### Anchors and tags -/

/-- What stands before the content of a node. -/
structure Properties where
  anchor : Option String
  tag : Option TagName

/-- The anchor and the tag, each if it is there and in either order, and the rest. -/
def readProperties : List Token → Properties × List Token
  | .anchor a :: .tag t :: ts => (⟨some a, some t⟩, ts)
  | .anchor a :: ts => (⟨some a, none⟩, ts)
  | .tag t :: .anchor a :: ts => (⟨some a, some t⟩, ts)
  | .tag t :: ts => (⟨none, some t⟩, ts)
  | ts => (⟨none, none⟩, ts)

/-! ### Nodes -/

/-- Where a node begins. -/
inductive Position where
  /-- As a document, or as an item of a list with one item on a line. -/
  | item
  /-- As a key or value of a table with one entry on a line; there a list may stand in the column of
  the table. -/
  | entry
  /-- Inside brackets, where everything else is in brackets as well. -/
  | flow
  deriving DecidableEq, Repr

/-- The next node; it is absent if the next token already stands behind it. -/
def orAbsent (isBehind : Token → Bool) (read : List Token → Option (Node String × List Token))
    (ts : List Token) : Option (Node String × List Token) :=
  if ts.head?.any isBehind then some (.absent, ts) else read ts

/-- Whether a token stands behind an item of a list that has a column of its own. -/
def endsItem (t : Token) : Bool :=
  t = .dash || t = .close

/-- Whether a token stands behind a key or value of a table on several lines. -/
def endsEntry (t : Token) : Bool :=
  t = .key || t = .value || t = .close

/-- Whether a token stands behind a value of a list in brackets. -/
def endsFlowItem (t : Token) : Bool :=
  t = .comma || t = .closeBracket

/-- Whether a token stands behind a value of a table in braces. -/
def endsFlowEntry (t : Token) : Bool :=
  t = .comma || t = .closeBrace

/-- The tokens behind the comma between two items or entries in brackets; before the first one there
is none. -/
def skipComma (isFirst : Bool) (ts : List Token) : Option (List Token) :=
  match isFirst, ts with
  | true, ts => some ts
  | false, .comma :: ts => some ts
  | false, _ => none

mutual

/-- The next node, and the rest. -/
def readNode (handles : List (String × Tag)) :
    Nat → Position → List Token → Option (Node String × List Token)
  | 0, _, _ => none
  | _ + 1, _, .alias name :: ts => some (.alias name, ts)
  | fuel + 1, here, ts => do
    let (p, ts) := readProperties ts
    let tag ← match p.tag with
      | some name => (name.resolve? handles).map some
      | none => pure none
    match ts with
    | .scalar style text :: ts => return (.scalar p.anchor ⟨text, style, tag⟩, ts)
    | .openBracket :: ts =>
      let (items, ts) ← readFlowItems handles fuel true ts
      return (.list p.anchor tag items, ts)
    | .openBrace :: ts =>
      let (entries, ts) ← readFlowEntries handles fuel true ts
      return (.table p.anchor tag entries, ts)
    | t :: ts =>
      if t = .dash && here = .entry then
        let (items, ts) ← readEntryItems handles fuel (t :: ts)
        return (.list p.anchor tag items, ts)
      else if t = .openList && here ≠ .flow then
        let (items, ts) ← readItems handles fuel ts
        return (.list p.anchor tag items, ts)
      else if t = .openTable && here ≠ .flow then
        let (entries, ts) ← readEntries handles fuel ts
        return (.table p.anchor tag entries, ts)
      else if p.anchor.isSome || tag.isSome then return (.blank p.anchor tag, t :: ts)
      else none
    | [] => if p.anchor.isSome || tag.isSome then return (.blank p.anchor tag, []) else none

/-- The items of a list with a column of its own, and the rest. -/
def readItems (handles : List (String × Tag)) :
    Nat → List Token → Option (List (Node String) × List Token)
  | 0, _ => none
  | _ + 1, .close :: ts => some ([], ts)
  | fuel + 1, .dash :: ts => do
    let (item, ts) ← orAbsent endsItem (readNode handles fuel .item) ts
    let (items, ts) ← readItems handles fuel ts
    return (item :: items, ts)
  | _ + 1, _ => none

/-- The items of a list that stands in the column of its key, and the rest.  Whatever is no dash
ends it. -/
def readEntryItems (handles : List (String × Tag)) :
    Nat → List Token → Option (List (Node String) × List Token)
  | 0, _ => none
  | fuel + 1, .dash :: ts => do
    let (item, ts) ← orAbsent (fun t => endsItem t || endsEntry t)
      (readNode handles fuel .item) ts
    let (items, ts) ← readEntryItems handles fuel ts
    return (item :: items, ts)
  | _ + 1, ts => some ([], ts)

/-- The entries of a table on several lines, and the rest. -/
def readEntries (handles : List (String × Tag)) :
    Nat → List Token → Option (List (Node String × Node String) × List Token)
  | 0, _ => none
  | _ + 1, .close :: ts => some ([], ts)
  | fuel + 1, .key :: ts => do
    let (key, ts) ← orAbsent endsEntry (readNode handles fuel .entry) ts
    let (value, ts) ← match ts with
      | .value :: ts => orAbsent endsEntry (readNode handles fuel .entry) ts
      | ts => pure (.absent, ts)
    let (entries, ts) ← readEntries handles fuel ts
    return ((key, value) :: entries, ts)
  | _ + 1, _ => none

/-- The items of a list in brackets, and the rest.  An item that has a key is a table with one
entry.  Where the key is missing, the token that shows it is passed over. -/
def readFlowItems (handles : List (String × Tag)) :
    Nat → Bool → List Token → Option (List (Node String) × List Token)
  | 0, _, _ => none
  | _ + 1, _, .closeBracket :: ts => some ([], ts)
  | fuel + 1, isFirst, ts => do
    match ← skipComma isFirst ts with
    | .closeBracket :: ts => return ([], ts)
    | .key :: ts =>
      let (key, ts) ←
        if ts.head?.any fun t => t = .value || endsFlowItem t then pure (.absent, ts.drop 1)
        else readNode handles fuel .flow ts
      let (value, ts) ← match ts with
        | .value :: ts => orAbsent endsFlowItem (readNode handles fuel .flow) ts
        | ts => pure (.absent, ts)
      let (items, ts) ← readFlowItems handles fuel false ts
      return (.table none none [(key, value)] :: items, ts)
    | ts =>
      let (item, ts) ← readNode handles fuel .flow ts
      let (items, ts) ← readFlowItems handles fuel false ts
      return (item :: items, ts)

/-- The entries of a table in braces, and the rest.  A node that is not marked as a key has no
value. -/
def readFlowEntries (handles : List (String × Tag)) :
    Nat → Bool → List Token → Option (List (Node String × Node String) × List Token)
  | 0, _, _ => none
  | _ + 1, _, .closeBrace :: ts => some ([], ts)
  | fuel + 1, isFirst, ts => do
    match ← skipComma isFirst ts with
    | .closeBrace :: ts => return ([], ts)
    | .key :: ts =>
      let (key, ts) ← orAbsent (fun t => t = .value || endsFlowEntry t)
        (readNode handles fuel .flow) ts
      let (value, ts) ← match ts with
        | .value :: ts => orAbsent endsFlowEntry (readNode handles fuel .flow) ts
        | ts => pure (.absent, ts)
      let (entries, ts) ← readFlowEntries handles fuel false ts
      return ((key, value) :: entries, ts)
    | ts =>
      let (key, ts) ← readNode handles fuel .flow ts
      let (entries, ts) ← readFlowEntries handles fuel false ts
      return ((key, .absent) :: entries, ts)

end

/-! ### Documents -/

/-- Whether the version of YAML is one that is understood. -/
def isKnownVersion (major minor : Nat) : Bool :=
  major = 1 && (minor = 1 || minor = 2)

/-- The directives before a document: what handles stand for, and the rest.  `versioned` tells
whether the version has been given, and `handles` are those before here; nothing may be given twice.
-/
def readDirectives : Bool → List (String × Tag) → List Token →
    Option (List (String × Tag) × List Token)
  | versioned, handles, .version major minor :: ts =>
    if versioned || !isKnownVersion major minor then none else readDirectives true handles ts
  | versioned, handles, .handle name meaning :: ts =>
    if (handles.lookup name).isSome then none
    else readDirectives versioned ((name, meaning) :: handles) ts
  | _, handles, ts => some (handles, ts)

/-- Whether a token stands behind a document, or begins one. -/
def endsDocument : Token → Bool
  | .version .. | .handle .. | .start | .stop => true
  | _ => false

/-- The node of the only document among tokens, with marks behind it if there are any.  Directives
need a mark before the document. -/
def readStream (ts : List Token) : Option (Node String) := do
  let fuel := 2 * ts.length + 2
  let (handles, content) ← readDirectives false [] ts
  let (root, ts) ← match content with
    | [] => if ts.isEmpty then pure (.absent, []) else none
    | .start :: ts =>
      if ts.isEmpty then pure (.absent, [])
      else orAbsent endsDocument (readNode (handles ++ commonHandles) fuel .item) ts
    | content =>
      if content.length = ts.length then readNode commonHandles fuel .item ts else none
  if ts.all (· = .stop) then return root else none

/-- The document in a text.  A text without any content is one as well. -/
def parse (s : List Char) : Option Document :=
  ((tokens? s).bind readStream).bind Document.ofNode?

end Phrasebook.Yaml
