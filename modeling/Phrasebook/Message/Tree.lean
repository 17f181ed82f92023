import Phrasebook.Entries

/-!
## Message trees

A catalog is a tree: a leaf is a text, and a node has children under keys, in order.  A path of keys
leads from the root to a subtree, or nowhere.

* `MessageTree.walk` follows a path, and `MessageTree.lookup` gives the text at its end.
* `MessageTree.insert` writes a child, and `MessageTree.exchange` also gives the child that was
  there before.  A leaf is turned into a node first.
* `MessageTree.same` compares two trees without regard to the order of children.
* `MessageTree.Keyed` says that no node has two children under one key, at any depth.
-/

namespace Phrasebook

/-- A text, or a mapping from keys to trees. -/
inductive MessageTree where
  | text (s : String)
  | node (children : List (String × MessageTree))

namespace MessageTree

/-- The node without children. -/
def empty : MessageTree :=
  .node []

instance : Inhabited MessageTree := ⟨empty⟩

/-- The children of a node; a leaf has none. -/
def children : MessageTree → Entries MessageTree
  | .text _ => []
  | .node cs => cs

/-- The child of a node under a key. -/
def child (t : MessageTree) (key : String) : Option MessageTree :=
  t.children.find? key

/-- The text of a leaf. -/
def asText : MessageTree → Option String
  | .text s => some s
  | .node _ => none

/-- The subtree at the end of a path. -/
def walk : MessageTree → List String → Option MessageTree
  | t, [] => some t
  | t, key :: path => (t.child key).bind fun c => walk c path

/-- The text at the end of a path.  There is none if a key is missing, if a leaf comes before the
end, or if the path ends on a node. -/
def lookup (t : MessageTree) (path : List String) : Option String :=
  (t.walk path).bind asText

/-- The tree with `value` as the child under `key`. -/
def insert (t : MessageTree) (key : String) (value : MessageTree) : MessageTree :=
  .node (t.children.put key value)

/-- The tree with `value` as the child under `key`, and the child that was there before. -/
def exchange (t : MessageTree) (key : String) (value : MessageTree) :
    Option MessageTree × MessageTree :=
  let (old, children) := t.children.exchange key value
  (old, .node children)

theorem exchange_eq (t : MessageTree) (key : String) (value : MessageTree) :
    t.exchange key value = (t.child key, t.insert key value) := by
  unfold exchange
  rw [Entries.exchange_eq]
  rfl

/-- The node that the pairs make when they are inserted one after the other. -/
def ofPairs (pairs : List (String × MessageTree)) : MessageTree :=
  .node (Entries.ofPairs pairs)

/-- The tree `times` levels below the only child of each level, under the same key. -/
def nest (key : String) : Nat → MessageTree → MessageTree
  | 0, t => t
  | times + 1, t => nest key times (.node [(key, t)])

mutual

/-- The number of leaves. -/
def leafCount : MessageTree → Nat
  | .text _ => 1
  | .node cs => leafCountAll cs

/-- The number of leaves of all children. -/
def leafCountAll : List (String × MessageTree) → Nat
  | [] => 0
  | (_, c) :: rest => leafCount c + leafCountAll rest

end

mutual

/-- Whether two trees are equal up to the order of children: leaves with the same text, or nodes
with as many children of which each equals the other's child under its key. -/
def same : MessageTree → MessageTree → Bool
  | .text s, .text t => s = t
  | .node cs, .node ds => cs.length = ds.length && sameAll cs ds
  | _, _ => false

/-- Whether each of the children equals the one under its key in the second list. -/
def sameAll : List (String × MessageTree) → Entries MessageTree → Bool
  | [], _ => true
  | (key, c) :: rest, ds =>
    (match ds.find? key with
      | some d => same c d
      | none => false) && sameAll rest ds

end

mutual

/-- No node has two children under one key. -/
def Keyed : MessageTree → Prop
  | .text _ => True
  | .node cs => (Entries.keys cs).Nodup ∧ KeyedAll cs

/-- The children are keyed trees. -/
def KeyedAll : List (String × MessageTree) → Prop
  | [] => True
  | (_, c) :: rest => Keyed c ∧ KeyedAll rest

end

mutual

/-- How many nodes stand around the innermost leaf, or the innermost node without children. -/
def depth : MessageTree → Nat
  | .text _ => 0
  | .node cs => 1 + depthAll cs

/-- The depth of the deepest child. -/
def depthAll : List (String × MessageTree) → Nat
  | [] => 0
  | (_, c) :: rest => max (depth c) (depthAll rest)

end

end MessageTree

end Phrasebook
