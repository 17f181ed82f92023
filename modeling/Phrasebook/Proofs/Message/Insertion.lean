import Phrasebook.Proofs.Message.Leaves

/-!
# What writing a child does

A child is written below the root.  All that is below its key comes from the new child, and what is
below other keys stays; of a text nothing stays.

* `MessageTree.Writes` says where the children of a node stand when one of them has been written.
* `MessageTree.leafCount_insert`: the number of leaves changes by those of the two children.
* `MessageTree.exchange_effect` puts the effects together, with the child that is given back.
-/

namespace Phrasebook.MessageTree

variable {t value : MessageTree} {key : String}

/-- The number of leaves below the root: those of a node are, and a text as the root is not. -/
def leavesBelow : MessageTree → ℕ
  | .text _ => 0
  | .node cs => (node cs).leafCount

theorem leavesBelow_eq (t : MessageTree) : t.leavesBelow = leafCountAll t.children := by
  cases t with
  | text s => rfl
  | node cs => exact leafCount.eq_2 cs

theorem lookup_insert_self (path : List String) :
    (t.insert key value).lookup (key :: path) = value.lookup path := by
  rw [lookup_cons, child_insert, if_pos rfl, Option.bind_some]

theorem lookup_insert_of_ne {other : String} (h : other ≠ key) (path : List String) :
    (t.insert key value).lookup (other :: path) = t.lookup (other :: path) := by
  rw [lookup_cons, child_insert, if_neg (Ne.symm h), lookup_cons]

/-- `Writes key value cs ds`: the children `ds` are `cs` with `value` under `key`, in the place of
the old child if there is one and otherwise behind all others. -/
inductive Writes (key : String) (value : MessageTree) :
    List (String × MessageTree) → List (String × MessageTree) → Prop
  | replaced {before after : List (String × MessageTree)} (old : MessageTree)
      (first : key ∉ Entries.keys before) :
      Writes key value (before ++ (key, old) :: after) (before ++ (key, value) :: after)
  | appended {cs : List (String × MessageTree)} (new : key ∉ Entries.keys cs) :
      Writes key value cs (cs ++ [(key, value)])

theorem writes_put (key : String) (value : MessageTree) (cs : Entries MessageTree) :
    Writes key value cs (cs.put key value) := by
  by_cases h : key ∈ Entries.keys cs
  · obtain ⟨before, old, after, rfl, hfirst, hput⟩ := Entries.put_of_mem h value
    exact hput ▸ .replaced old hfirst
  · exact Entries.put_of_not_mem h value ▸ .appended h

/-- The leaves of the child that is replaced are leaves below the root. -/
theorem leafCount_child_le : (t.child key).elim 0 leafCount ≤ t.leavesBelow := by
  rw [leavesBelow_eq]
  cases hchild : t.child key with
  | none => exact Nat.zero_le _
  | some c => exact leafCount_le_leafCountAll hchild

theorem leafCount_insert (t : MessageTree) (key : String) (value : MessageTree) :
    (t.insert key value).leafCount =
      t.leavesBelow - (t.child key).elim 0 leafCount + value.leafCount := by
  have hput := leafCountAll_put t.children key value
  have hle : (t.child key).elim 0 leafCount ≤ t.leavesBelow := leafCount_child_le
  rw [leavesBelow_eq] at hle ⊢
  rw [insert, leafCount]
  change _ + (t.child key).elim 0 leafCount = _ at hput
  omega

/-- **What writing a child does.**  Below the key of the child the new tree has what the child has,
and below other keys what the old tree had, which is nothing if that was a text.  The new child
stands in the place of the one under its key, which is given back, or behind all others; and the
leaves change by those of the two. -/
theorem exchange_effect (t : MessageTree) (key : String) (value : MessageTree) :
    ∃ old t', t.exchange key value = (old, t') ∧
      (∀ path, t'.lookup (key :: path) = value.lookup path) ∧
      (∀ other path, other ≠ key → t'.lookup (other :: path) = t.lookup (other :: path) ∧
        ∀ s, t = .text s → t'.lookup (other :: path) = none) ∧
      (∃ cs, t' = .node cs ∧ (∀ ds, t = .node ds → Writes key value ds cs) ∧
        ∀ s, t = .text s → Writes key value [] cs) ∧
      (old = t.child key ∧ ∀ s, t = .text s → old = none) ∧
      (old.elim 0 leafCount ≤ t.leavesBelow ∧
        t'.leafCount = t.leavesBelow - old.elim 0 leafCount + value.leafCount) := by
  refine ⟨t.child key, t.insert key value, t.exchange_eq key value, lookup_insert_self, ?_,
    ⟨_, rfl, ?_, ?_⟩, ⟨rfl, ?_⟩, leafCount_child_le, t.leafCount_insert key value⟩
  · intro other path hne
    have hlookup : (t.insert key value).lookup (other :: path) = t.lookup (other :: path) :=
      lookup_insert_of_ne hne path
    refine ⟨hlookup, ?_⟩
    rintro s rfl
    rw [hlookup, lookup_cons_text]
  · rintro ds rfl
    exact writes_put key value ds
  · -- A text has no children, so that the new one is written among none.
    rintro s rfl
    exact writes_put key value []
  · rintro s rfl
    rfl

/-- A subtree with two leaves gives its place to one with a single leaf, and a text gives way to a
node. -/
theorem exchange_effect_sample :
    (∃ old t',
      (node [("a", .node [("x", .text "1"), ("y", .text "2")]), ("b", .text "3")]).exchange "a"
        (.text "0") = (old, t') ∧
      old = some (.node [("x", .text "1"), ("y", .text "2")]) ∧ t'.lookup ["a"] = some "0" ∧
      t'.lookup ["b"] = some "3" ∧ t'.leafCount = 2) ∧
    ∃ old t', (text "s").exchange "k" (.node [("b", .text "3")]) = (old, t') ∧ old = none ∧
      t'.lookup ["k", "b"] = some "3" ∧ t'.lookup ["j"] = none := by
  constructor
  · obtain ⟨old, t', hexchange, hself, hothers, -, ⟨rfl, -⟩, -, hleaves⟩ :=
      exchange_effect (node [("a", .node [("x", .text "1"), ("y", .text "2")]), ("b", .text "3")])
        "a" (.text "0")
    exact ⟨_, t', hexchange, rfl, hself [], (hothers "b" [] (by decide)).1,
      hleaves.trans (by decide)⟩
  · obtain ⟨old, t', hexchange, hself, hothers, -, ⟨-, hold⟩, -⟩ :=
      exchange_effect (text "s") "k" (.node [("b", .text "3")])
    exact ⟨old, t', hexchange, hold "s" rfl, hself ["b"], (hothers "j" [] (by decide)).2 "s" rfl⟩

end Phrasebook.MessageTree
