import Phrasebook.Proofs.Message.Path
import Mathlib.Data.Set.Card

/-!
# The leaves of message trees

A leaf is told apart by the path to it.  `MessageTree.paths` lists the paths to the leaves of a tree
in order, and there are as many of them as leaves (`length_paths`).  While no node has two children
under one key the paths differ from each other (`Keyed.nodup_paths`), and they are the paths with a
text at their end (`Keyed.mem_paths_iff`).

* `MessageTree.Keyed.encard_lookup`: so the number of leaves is that of the paths with a text.
* `MessageTree.Keyed.leafCount_eq_of_agrees`: trees with the same texts have as many leaves.
* `MessageTree.leafCountAll_put`: writing a child takes away the leaves of the old one and adds
  those of the new one.
* `MessageTree.lookup_ofPairs` and `MessageTree.leafCount_ofPairs`: a node that is collected from
  pairs has the last value of each key, with all the leaves of that value.
* `MessageTree.leafCount_counts_paths` puts counting and collecting together.
-/

namespace Phrasebook.MessageTree

mutual

/-- The paths to the leaves, in order. -/
def paths : MessageTree → List (List String)
  | .text _ => [[]]
  | .node cs => pathsAll cs

/-- The paths to the leaves of all children, each from the key of the child on. -/
def pathsAll : List (String × MessageTree) → List (List String)
  | [] => []
  | (key, c) :: rest => (paths c).map (key :: ·) ++ pathsAll rest

end

theorem mem_pathsAll_iff {cs : List (String × MessageTree)} {path : List String} :
    path ∈ pathsAll cs ↔ ∃ key c rest, (key, c) ∈ cs ∧ rest ∈ c.paths ∧ path = key :: rest := by
  induction cs with
  | nil => simp [pathsAll]
  | cons entry cs ih =>
    obtain ⟨key, c⟩ := entry
    rw [pathsAll, List.mem_append, List.mem_map, ih]
    constructor
    · rintro (⟨rest, hrest, rfl⟩ | ⟨key', c', rest, hc, hrest, rfl⟩)
      · exact ⟨key, c, rest, List.mem_cons_self, hrest, rfl⟩
      · exact ⟨key', c', rest, List.mem_cons_of_mem _ hc, hrest, rfl⟩
    · rintro ⟨key', c', rest, hc, hrest, rfl⟩
      rcases List.mem_cons.1 hc with heq | hc
      · obtain ⟨rfl, rfl⟩ := Prod.mk.inj heq
        exact Or.inl ⟨rest, hrest, rfl⟩
      · exact Or.inr ⟨key', c', rest, hc, hrest, rfl⟩

/-- There is one path to each leaf. -/
theorem length_paths (t : MessageTree) : t.paths.length = t.leafCount := by
  induction t using MessageTree.induct with
  | text s => simp [paths, leafCount]
  | node cs ih =>
    rw [paths, leafCount]
    induction cs with
    | nil => simp [pathsAll, leafCountAll]
    | cons entry cs ihcs =>
      obtain ⟨key, c⟩ := entry
      obtain ⟨hfirst, hrest⟩ := List.forall_mem_cons.1 ih
      rw [pathsAll, leafCountAll, List.length_append, List.length_map, hfirst, ihcs hrest]

/-- The paths to the leaves are those with a text at the end. -/
theorem Keyed.mem_paths_iff {t : MessageTree} (h : t.Keyed) {path : List String} :
    path ∈ t.paths ↔ (t.lookup path).isSome := by
  induction path generalizing t with
  | nil =>
    cases t with
    | text s => simp [paths, lookup, walk, asText]
    | node cs => simp [paths, mem_pathsAll_iff, lookup, walk, asText]
  | cons key path ih =>
    cases t with
    | text s => simp [paths]
    | node cs =>
      rw [paths, mem_pathsAll_iff, lookup_cons, Option.isSome_bind]
      constructor
      · rintro ⟨key', c, rest, hc, hrest, heq⟩
        obtain ⟨rfl, rfl⟩ := List.cons.inj heq
        rw [h.child_eq_some_iff.2 hc]
        exact (ih (h.of_mem_children hc)).1 hrest
      · -- A path that leads to a text begins with a child, which is the only one under its key.
        intro hsome
        cases hchild : (node cs).child key with
        | none => simp [hchild] at hsome
        | some c =>
          have hc := h.child_eq_some_iff.1 hchild
          rw [hchild] at hsome
          exact ⟨key, c, path, hc, (ih (h.of_mem_children hc)).2 hsome, rfl⟩

/-- No two leaves have the same path. -/
theorem Keyed.nodup_paths {t : MessageTree} (h : t.Keyed) : t.paths.Nodup := by
  induction t using MessageTree.induct with
  | text s => simp [paths]
  | node cs ih =>
    rw [paths]
    rw [Keyed, keyedAll_iff] at h
    obtain ⟨hkeys, hcs⟩ := h
    induction cs with
    | nil => exact List.nodup_nil
    | cons entry cs ihcs =>
      obtain ⟨key, c⟩ := entry
      obtain ⟨hfirst, hrest⟩ := List.forall_mem_cons.1 ih
      obtain ⟨hc, hcs⟩ := List.forall_mem_cons.1 hcs
      obtain ⟨hkey, hkeys⟩ := List.nodup_cons.1 hkeys
      have hinj : Function.Injective (key :: · : List String → List String) :=
        List.cons_injective
      rw [pathsAll]
      refine List.nodup_append.2 ⟨(hfirst hc).map hinj, ihcs hrest hkeys hcs, ?_⟩
      -- paths through two children differ in their first key
      rintro path hpath _ hother rfl
      obtain ⟨rest, -, rfl⟩ := List.mem_map.1 hpath
      obtain ⟨key', c', rest', hc', -, heq⟩ := mem_pathsAll_iff.1 hother
      obtain ⟨rfl, -⟩ := List.cons.inj heq
      exact hkey (List.mem_map.2 ⟨_, hc', rfl⟩)

/-- There are as many leaves as there are paths with a text at the end. -/
theorem Keyed.encard_lookup {t : MessageTree} (h : t.Keyed) :
    {path | (t.lookup path).isSome}.encard = t.leafCount := by
  have hset : {path | (t.lookup path).isSome} = (t.paths.toFinset : Set (List String)) := by
    ext path
    simp [h.mem_paths_iff]
  rw [hset, Set.encard_coe_eq_coe_finsetCard, List.toFinset_card_of_nodup h.nodup_paths,
    length_paths]

/-- Trees with the same texts have as many leaves. -/
theorem Keyed.leafCount_eq_of_agrees {t u : MessageTree} (ht : t.Keyed) (hu : u.Keyed)
    (h : t.Agrees u) : t.leafCount = u.leafCount := by
  have hperm : t.paths.Perm u.paths := by
    refine (List.perm_ext_iff_of_nodup ht.nodup_paths hu.nodup_paths).2 fun path => ?_
    rw [ht.mem_paths_iff, hu.mem_paths_iff, h path]
  rw [← length_paths, ← length_paths, hperm.length_eq]

/-! ### Writing a child -/

/-- A child has no more leaves than all children together. -/
theorem leafCount_le_leafCountAll {cs : Entries MessageTree} {key : String} {c : MessageTree}
    (h : cs.find? key = some c) : c.leafCount ≤ leafCountAll cs := by
  induction cs with
  | nil => exact nomatch h
  | cons entry cs ih =>
    obtain ⟨k, d⟩ := entry
    rw [Entries.find?_cons] at h
    rw [leafCountAll]
    split_ifs at h with hk
    · obtain rfl := Option.some.inj h
      exact Nat.le_add_right _ _
    · exact Nat.le_trans (ih h) (Nat.le_add_left _ _)

/-- A child that is written takes the place of the old one in the number of leaves. -/
theorem leafCountAll_put (cs : Entries MessageTree) (key : String) (value : MessageTree) :
    leafCountAll (cs.put key value) + (cs.find? key).elim 0 leafCount =
      leafCountAll cs + value.leafCount := by
  induction cs with
  | nil => simp [Entries.put, leafCountAll]
  | cons entry cs ih =>
    obtain ⟨k, d⟩ := entry
    rw [Entries.put, Entries.find?_cons]
    split_ifs with hk
    · simp only [leafCountAll, Option.elim_some]
      omega
    · simp only [leafCountAll]
      omega

/-! ### Collecting pairs -/

section Pairs

variable {pairs : List (String × MessageTree)}

/-- In a node that is collected from pairs, a path goes through the last value of its first key. -/
theorem lookup_ofPairs (pairs : List (String × MessageTree)) (key : String) (path : List String) :
    (ofPairs pairs).lookup (key :: path) =
      (Entries.last? key pairs).bind fun value => value.lookup path := by
  have hchild : (ofPairs pairs).child key = Entries.last? key pairs :=
    Entries.find?_ofPairs key pairs
  rw [lookup_cons, hchild]

/-- The node has no two children under one key, whatever keys the pairs have. -/
theorem keyed_ofPairs (h : ∀ pair ∈ pairs, pair.2.Keyed) : (ofPairs pairs).Keyed := by
  rw [ofPairs, Keyed, keyedAll_iff]
  refine ⟨Entries.nodup_keys_ofPairs pairs, ?_⟩
  rintro ⟨key, value⟩ hmem
  -- a child of the node is the last value of its key, and so one of those that were given
  have hfind := (Entries.find?_eq_some_iff (Entries.nodup_keys_ofPairs pairs)).2 hmem
  rw [Entries.find?_ofPairs] at hfind
  exact h _ (Entries.mem_of_last?_eq_some hfind)

/-- Children that are there for some keys only have their leaves for those. -/
theorem leafCountAll_filterMap (value : String → Option MessageTree) (keys : List String) :
    leafCountAll (keys.filterMap fun key => (value key).map (key, ·)) =
      (keys.map fun key => (value key).elim 0 leafCount).sum := by
  induction keys with
  | nil => simp [leafCountAll]
  | cons key keys ih =>
    rw [List.filterMap_cons, List.map_cons, List.sum_cons, ← ih]
    cases value key with
    | none => simp
    | some c => simp [leafCountAll]

/-- The leaves of the node are those of the last value of each key. -/
theorem leafCount_ofPairs (pairs : List (String × MessageTree)) :
    (ofPairs pairs).leafCount =
      ((Entries.keys pairs).eraseDups.map fun key =>
        (Entries.last? key pairs).elim 0 leafCount).sum := by
  rw [ofPairs, Entries.ofPairs_eq_collapsed, leafCount, Entries.collapsed, leafCountAll_filterMap]

end Pairs

/-- **The number of leaves is the number of paths with a text**, if no node has two children under
one key.  A node that is collected from any pairs looks a path up in the last value of its first
key; its keys stand in the order in which they first came, and it has the leaves of the last values
together. -/
theorem leafCount_counts_paths :
    (∀ t : MessageTree, t.Keyed → {path | (t.lookup path).isSome}.encard = t.leafCount) ∧
    ∀ pairs : List (String × MessageTree),
      (∀ before key value after, pairs = before ++ (key, value) :: after →
        key ∉ Entries.keys after →
          ∀ path, (ofPairs pairs).lookup (key :: path) = value.lookup path) ∧
      (∀ key, key ∉ Entries.keys pairs → ∀ path, (ofPairs pairs).lookup (key :: path) = none) ∧
      Entries.keys (ofPairs pairs).children = (Entries.keys pairs).eraseDups ∧
      (ofPairs pairs).leafCount =
        ((Entries.keys pairs).eraseDups.map fun key =>
          (Entries.last? key pairs).elim 0 leafCount).sum ∧
      ((∀ pair ∈ pairs, pair.2.Keyed) → (ofPairs pairs).Keyed) := by
  refine ⟨fun t ht => ht.encard_lookup, fun pairs => ⟨?_, ?_, ?_, ?_, keyed_ofPairs⟩⟩
  · intro before key value after hpairs hafter path
    -- The value behind which its key does not come again is the last one.
    have hlast : Entries.last? key pairs = some value :=
      Entries.last?_eq_some_iff.2 ⟨before, after, hpairs, hafter⟩
    rw [lookup_ofPairs, hlast, Option.bind_some]
  · intro key hkey path
    rw [lookup_ofPairs, Entries.last?_eq_none_iff.2 hkey, Option.bind_none]
  · exact Entries.keys_ofPairs pairs
  · exact leafCount_ofPairs pairs

/-- Pairs of which one key comes twice, first with a text and then with a node. -/
def repeatedPairs : List (String × MessageTree) :=
  [("a", .text "1"), ("b", .text "2"), ("a", .node [("x", .text "3"), ("y", .text "4")])]

/-- The node takes the place of the text in front, and three paths lead to texts. -/
theorem leafCount_counts_paths_repeated :
    (ofPairs repeatedPairs).Keyed ∧
    {path | ((ofPairs repeatedPairs).lookup path).isSome}.encard = 3 ∧
    (ofPairs repeatedPairs).lookup ["a", "x"] = some "3" ∧
    (ofPairs repeatedPairs).lookup ["c"] = none ∧
    Entries.keys (ofPairs repeatedPairs).children = ["a", "b"] := by
  obtain ⟨hcount, hpairs⟩ := leafCount_counts_paths
  obtain ⟨hlast, hmissing, hkeys, hleaves, hkeyed⟩ := hpairs repeatedPairs
  have hvalues : ∀ pair ∈ repeatedPairs, pair.2.Keyed := by
    simp [repeatedPairs, Keyed, KeyedAll, Entries.keys]
  have hthree : (ofPairs repeatedPairs).leafCount = 3 := hleaves.trans (by decide)
  refine ⟨hkeyed hvalues, ?_, ?_, hmissing "c" (by decide) [], hkeys.trans (by decide)⟩
  · rw [hcount _ (hkeyed hvalues), hthree]
    rfl
  · exact (hlast (repeatedPairs.take 2) "a" _ [] rfl (by decide) ["x"]).trans (by decide)

end Phrasebook.MessageTree
