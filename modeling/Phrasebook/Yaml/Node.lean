import Phrasebook.Yaml.Scalar.Basic
import Phrasebook.Yaml.Tag

/-!
## The nodes of YAML

A document says one thing: a scalar, a list or a table.  A node can have an anchor, and elsewhere an
alias stands for it.

* `Node.link` finds the anchor that each alias means, and `Node.targets` the nodes with anchors.
* `Document.target?` gives the node that an alias stands for.
-/

namespace Phrasebook.Yaml

/-- A text with its style and tag. -/
structure Scalar where
  text : String
  style : Style
  tag : Option Tag
  deriving DecidableEq, Repr

/-- What a YAML document says.  Anchors are of type `ρ`. -/
inductive Node (ρ : Type) where
  | scalar (anchor : Option ρ) (s : Scalar)
  | list (anchor : Option ρ) (tag : Option Tag) (items : List (Node ρ))
  /-- Values under keys in order; a key may be repeated. -/
  | table (anchor : Option ρ) (tag : Option Tag) (entries : List (Node ρ × Node ρ))
  /-- The node with an anchor, once more. -/
  | alias (anchor : ρ)

namespace Node

variable {ρ : Type}

/-- The node that stands where nothing is written but an anchor and a tag, if these. -/
def blank (anchor : Option ρ) (tag : Option Tag) : Node ρ :=
  .scalar anchor ⟨"", .plain, tag⟩

/-- The node that stands where nothing is written. -/
def absent : Node ρ :=
  blank none none

mutual

/-- How many scalars, aliases, and starts and ends of lists and tables there are. -/
def size : Node ρ → Nat
  | .scalar .. | .alias _ => 1
  | .list _ _ items => 2 + sizeOfItems items
  | .table _ _ entries => 2 + sizeOfEntries entries

/-- The size of all items. -/
def sizeOfItems : List (Node ρ) → Nat
  | [] => 0
  | n :: rest => size n + sizeOfItems rest

/-- The size of all keys and values. -/
def sizeOfEntries : List (Node ρ × Node ρ) → Nat
  | [] => 0
  | (k, v) :: rest => size k + size v + sizeOfEntries rest

end

/-! ### Anchors -/

/-- What the anchors seen so far are known as.  The names differ from each other. -/
abbrev Anchors := List (String × Nat)

/-- The anchors with one more.  It is numbered by how many names there were before, also if its name
is one of them. -/
def declare (anchors : Anchors) : Option String → Anchors × Option Nat
  | none => (anchors, none)
  | some name =>
    ((name, anchors.length) :: anchors.filter (fun anchor => anchor.1 ≠ name), anchors.length)

mutual

/-- The node with numbers for the names of anchors, and all anchors up to its end.  An alias means
the last anchor of its name before it; there must be one. -/
def link (anchors : Anchors) : Node String → Option (Anchors × Node Nat)
  | .scalar name s =>
    let (anchors, anchor) := declare anchors name
    some (anchors, .scalar anchor s)
  | .list name tag items => do
    let (anchors, anchor) := declare anchors name
    let (anchors, items) ← linkItems anchors items
    return (anchors, .list anchor tag items)
  | .table name tag entries => do
    let (anchors, anchor) := declare anchors name
    let (anchors, entries) ← linkEntries anchors entries
    return (anchors, .table anchor tag entries)
  | .alias name => (anchors.lookup name).map fun anchor => (anchors, .alias anchor)

/-- The items with numbers for the names of anchors. -/
def linkItems (anchors : Anchors) : List (Node String) → Option (Anchors × List (Node Nat))
  | [] => some (anchors, [])
  | n :: rest => do
    let (anchors, n) ← link anchors n
    let (anchors, rest) ← linkItems anchors rest
    return (anchors, n :: rest)

/-- The keys and values with numbers for the names of anchors. -/
def linkEntries (anchors : Anchors) :
    List (Node String × Node String) → Option (Anchors × List (Node Nat × Node Nat))
  | [] => some (anchors, [])
  | (k, v) :: rest => do
    let (anchors, k) ← link anchors k
    let (anchors, v) ← link anchors v
    let (anchors, rest) ← linkEntries anchors rest
    return (anchors, (k, v) :: rest)

end

/-- A node under its anchor, if it has one. -/
def under (anchor : Option ρ) (n : Node ρ) : List (ρ × Node ρ) :=
  match anchor with
  | none => []
  | some anchor => [(anchor, n)]

mutual

/-- The nodes with anchors in the order in which they begin. -/
def targets : Node ρ → List (ρ × Node ρ)
  | .scalar anchor s => under anchor (.scalar anchor s)
  | .list anchor tag items => under anchor (.list anchor tag items) ++ targetsOfItems items
  | .table anchor tag entries =>
    under anchor (.table anchor tag entries) ++ targetsOfEntries entries
  | .alias _ => []

/-- The nodes with anchors among the items. -/
def targetsOfItems : List (Node ρ) → List (ρ × Node ρ)
  | [] => []
  | n :: rest => targets n ++ targetsOfItems rest

/-- The nodes with anchors among the keys and values. -/
def targetsOfEntries : List (Node ρ × Node ρ) → List (ρ × Node ρ)
  | [] => []
  | (k, v) :: rest => targets k ++ targets v ++ targetsOfEntries rest

end

end Node

/-! ### Documents -/

/-- A node in which each alias has an anchor. -/
structure Document where
  root : Node Nat
  /-- The nodes with anchors, last first. -/
  targets : List (Nat × Node Nat)

namespace Document

/-- The document of a node, unless it has an alias without an anchor before it. -/
def ofNode? (n : Node String) : Option Document :=
  (n.link []).map fun (_, root) => ⟨root, root.targets.reverse⟩

/-- The node with an anchor.  If several nodes have the same number it is the last of them, also for
an alias before it. -/
def target? (d : Document) (anchor : Nat) : Option (Node Nat) :=
  d.targets.lookup anchor

end Document

end Phrasebook.Yaml
