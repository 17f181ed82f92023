import Phrasebook.Proofs.Key
import Phrasebook.Proofs.Message.Leaves

/-!
# When message trees are equal

Two trees are compared node by node, each child of the one with what stands under its key in the
other.  While keys stand once, this is to compare what the paths of the two trees lead to, so the
comparison is an equivalence although it treats its two sides differently.

* `MessageTree.Keyed.same_iff`: trees are equal exactly if they end alike on each path.
* `MessageTree.Reordered`: a tree with the children of some of its nodes in another order.  Equal
  trees are those (`MessageTree.Keyed.reordered_of_same`, `MessageTree.Reordered.endsAlike`).
* `MessageTree.same_iff_endsAlike` puts this together with what follows: the laws of an equivalence,
  and that equal trees have as many leaves and give the same for each key.
-/

namespace Phrasebook.MessageTree

/-- Trees that end alike on each path are equal. -/
theorem Keyed.same_of_endsAlike {t u : MessageTree} (ht : t.Keyed) (hu : u.Keyed)
    (h : ∀ path, EndsAlike (t.walk path) (u.walk path)) : t.same u = true := by
  induction t using MessageTree.induct generalizing u with
  | text s =>
    have hroot : EndsAlike (some (.text s)) (some u) := h []
    cases hroot
    rw [same, decide_eq_true_eq]
  | node cs ih =>
    have hroot : EndsAlike (some (.node cs)) (some u) := h []
    cases hroot with
    | node _ ds =>
      -- a key leads somewhere in both nodes or in neither
      have hkeys : ∀ key, key ∈ Entries.keys cs ↔ key ∈ Entries.keys ds := by
        intro key
        have hend : EndsAlike ((Entries.find? key cs).bind some)
            ((Entries.find? key ds).bind some) := h [key]
        rw [Option.bind_fun_some, Option.bind_fun_some] at hend
        rw [← Entries.find?_isSome_iff, ← Entries.find?_isSome_iff]
        generalize Entries.find? key cs = e at hend ⊢
        generalize Entries.find? key ds = e' at hend ⊢
        cases hend <;> simp
      have hperm := (List.perm_ext_iff_of_nodup ht.nodup hu.nodup).2 hkeys
      have hlength : cs.length = ds.length := by
        simpa [Entries.keys, children] using hperm.length_eq
      rw [same, Bool.and_eq_true, decide_eq_true_eq, sameAll_iff]
      refine ⟨hlength, fun key c hc => ?_⟩
      have hmem : key ∈ Entries.keys cs := List.mem_map.2 ⟨(key, c), hc, rfl⟩
      obtain ⟨d, hd⟩ := Option.isSome_iff_exists.1
        ((Entries.find?_isSome_iff key ds).2 ((hkeys key).1 hmem))
      have hchild : (node cs).child key = some c := ht.child_eq_some_iff.2 hc
      have hchild' : (node ds).child key = some d := hd
      refine ⟨d, hd, ih (key, c) hc (ht.of_mem_children hc)
        (hu.of_mem_children (hu.child_eq_some_iff.1 hd)) fun path => ?_⟩
      have hpath := h (key :: path)
      rwa [walk, walk, hchild, hchild'] at hpath

/-- Equality is to end alike on each path. -/
theorem Keyed.same_iff {t u : MessageTree} (ht : t.Keyed) (hu : u.Keyed) :
    t.same u = true ↔ ∀ path, EndsAlike (t.walk path) (u.walk path) :=
  ⟨ht.endsAlike_of_same, ht.same_of_endsAlike hu⟩

/-! ### The order of children -/

/-- `t.Reordered u`: the tree `u` is `t` with the children of some nodes, at any depth, in another
order. -/
inductive Reordered : MessageTree → MessageTree → Prop
  | refl (t : MessageTree) : Reordered t t
  | order {cs ds : List (String × MessageTree)} (h : cs.Perm ds) : Reordered (.node cs) (.node ds)
  | inside {before after : List (String × MessageTree)} {key : String} {c d : MessageTree}
      (h : Reordered c d) :
      Reordered (.node (before ++ (key, c) :: after)) (.node (before ++ (key, d) :: after))
  | trans {t u v : MessageTree} (h : Reordered t u) (h' : Reordered u v) : Reordered t v

theorem Reordered.keyed {t u : MessageTree} (h : t.Reordered u) (ht : t.Keyed) : u.Keyed := by
  induction h with
  | refl t => exact ht
  | order hperm =>
    rw [Keyed, keyedAll_iff] at ht ⊢
    refine ⟨(hperm.map Prod.fst).nodup_iff.1 ht.1, fun entry hentry => ?_⟩
    exact ht.2 entry (hperm.mem_iff.2 hentry)
  | @inside before after key c d _ ih =>
    have hd := ih (ht.of_mem_children (List.mem_append_right before List.mem_cons_self))
    rw [Keyed, keyedAll_iff, List.forall_mem_append, List.forall_mem_cons] at ht ⊢
    refine ⟨?_, ht.2.1, hd, ht.2.2.2⟩
    simpa [Entries.keys] using ht.1
  | trans _ _ ih ih' => exact ih' (ih ht)

/-- Where the children of a node stand does not matter for where its paths lead. -/
theorem Reordered.endsAlike {t u : MessageTree} (h : t.Reordered u) (ht : t.Keyed)
    (path : List String) : EndsAlike (t.walk path) (u.walk path) := by
  rw [endsAlike_iff]
  induction h generalizing path with
  | refl t => rfl
  | @order cs ds hperm =>
    cases path with
    | nil => rfl
    | cons key path =>
      have hfind : Entries.find? key ds = Entries.find? key cs :=
        Entries.find?_eq_of_perm ht.nodup hperm.symm key
      rw [walk, walk, child, child, children, children, hfind]
  | @inside before after key c d _ ih =>
    have hc := ih (ht.of_mem_children (List.mem_append_right before List.mem_cons_self))
    cases path with
    | nil => rfl
    | cons key' path =>
      rw [walk, walk, child, child, children, children, Entries.find?_append, Entries.find?_append,
        Entries.find?_cons, Entries.find?_cons]
      -- the path goes to a child in front, to the one that has changed, or to one behind it
      cases Entries.find? key' before with
      | some b => rfl
      | none =>
        rw [Option.none_or, Option.none_or]
        split
        · exact hc path
        · rfl
  | trans h _ ih ih' => exact (ih ht path).trans (ih' (h.keyed ht) path)

/-- The children of a node can be reordered one after the other. -/
theorem reordered_of_forall₂ {cs ds : List (String × MessageTree)}
    (h : List.Forall₂ (fun c d => c.1 = d.1 ∧ c.2.Reordered d.2) cs ds)
    (before : List (String × MessageTree)) :
    (node (before ++ cs)).Reordered (.node (before ++ ds)) := by
  induction h generalizing before with
  | nil => exact .refl _
  | @cons c d cs ds hfirst _ ih =>
    obtain ⟨key, c⟩ := c
    obtain ⟨_, d⟩ := d
    obtain ⟨rfl, hcd⟩ := hfirst
    have hrest := ih (before ++ [(key, d)])
    rw [List.append_assoc, List.append_assoc] at hrest
    exact .trans (.inside hcd) hrest

/-- Equal trees are reorderings of each other. -/
theorem Keyed.reordered_of_same {t u : MessageTree} (ht : t.Keyed) (hu : u.Keyed)
    (h : t.same u = true) : t.Reordered u := by
  induction t using MessageTree.induct generalizing u with
  | text s =>
    cases u with
    | text s' =>
      rw [same, decide_eq_true_eq] at h
      exact h ▸ .refl _
    | node ds => simp [same] at h
  | node cs ih =>
    cases u with
    | text s => simp [same] at h
    | node ds =>
      have hkeys := mem_keys_iff_of_same ht.nodup h
      rw [same, Bool.and_eq_true, sameAll_iff] at h
      -- first each child becomes the one under its key in `ds`, and then these change places
      let es := cs.map fun entry => (entry.1, (Entries.find? entry.1 ds).getD entry.2)
      have hchildren : (node cs).Reordered (.node es) := by
        refine reordered_of_forall₂ (List.forall₂_map_right_iff.2 (List.forall₂_same.2 ?_)) []
        rintro ⟨key, c⟩ hc
        obtain ⟨d, hd, hsame⟩ := h.2 key c hc
        have hdkeyed := hu.of_mem_children (hu.child_eq_some_iff.1 hd)
        rw [hd]
        exact ⟨rfl, ih _ hc (ht.of_mem_children hc) hdkeyed hsame⟩
      have hes : Entries.keys es = Entries.keys cs := by
        rw [Entries.keys, List.map_map]
        rfl
      have hnodup : (Entries.keys es).Nodup := hes ▸ ht.nodup
      have hperm : es.Perm ds := by
        refine (List.perm_ext_iff_of_nodup hnodup.of_map hu.nodup.of_map).2 ?_
        rintro ⟨key, d⟩
        constructor
        · intro hd
          obtain ⟨⟨_, c⟩, hc, heq⟩ := List.mem_map.1 hd
          obtain ⟨rfl, rfl⟩ := Prod.mk.inj heq
          obtain ⟨d, hd, -⟩ := h.2 _ c hc
          rw [hd]
          exact hu.child_eq_some_iff.1 hd
        · intro hd
          have hmem := (hkeys key).2 (List.mem_map.2 ⟨_, hd, rfl⟩)
          obtain ⟨⟨_, c⟩, hc, rfl⟩ := List.mem_map.1 hmem
          have hfind : Entries.find? _ ds = some d := hu.child_eq_some_iff.2 hd
          exact List.mem_map.2 ⟨_, hc, by rw [hfind]; rfl⟩
      exact .trans hchildren (.order hperm)

/-! ### Equality -/

/-- **Equality of trees is extensional.**  Two trees in which no node has two children under one key
are equal if and only if each path leads nowhere in both, or to the same text in both, or to nodes
in both.  So equality is reflexive, symmetric and transitive.  Trees are equal exactly if they
differ in the order of children alone, at whatever depth, and so the order on either side does not
matter.  Equal trees have as many leaves, and give the same for every key. -/
theorem same_iff_endsAlike :
    (∀ t u : MessageTree, t.Keyed → u.Keyed →
      (t.same u = true ↔ ∀ path, EndsAlike (t.walk path) (u.walk path))) ∧
    (∀ t : MessageTree, t.Keyed → t.same t = true) ∧
    (∀ t u : MessageTree, t.Keyed → u.Keyed → t.same u = true → u.same t = true) ∧
    (∀ t u v : MessageTree, t.Keyed → u.Keyed → v.Keyed →
      t.same u = true → u.same v = true → t.same v = true) ∧
    (∀ t u : MessageTree, t.Keyed → u.Keyed → (t.same u = true ↔ t.Reordered u)) ∧
    (∀ t t' u u' : MessageTree, t.Keyed → u.Keyed → t.Reordered t' → u.Reordered u' →
      t'.same u' = t.same u) ∧
    ∀ t u : MessageTree, t.Keyed → u.Keyed → t.same u = true →
      t.leafCount = u.leafCount ∧ ∀ key, resolve key t = resolve key u := by
  -- Ending alike is to be equal in what a path ends with, so it has the laws of an equation.
  refine ⟨fun t u ht hu => ht.same_iff hu, ?_, ?_, ?_, ?_, ?_, ?_⟩
  · exact fun t ht => ht.same_of_endsAlike ht fun path => endsAlike_iff.2 rfl
  · intro t u ht hu h
    refine hu.same_of_endsAlike ht fun path => endsAlike_iff.2 ?_
    exact (endsAlike_iff.1 (ht.endsAlike_of_same h path)).symm
  · intro t u v ht hu hv h h'
    refine ht.same_of_endsAlike hv fun path => endsAlike_iff.2 ?_
    exact (endsAlike_iff.1 (ht.endsAlike_of_same h path)).trans
      (endsAlike_iff.1 (hu.endsAlike_of_same h' path))
  · exact fun t u ht hu =>
      ⟨ht.reordered_of_same hu, fun h => ht.same_of_endsAlike hu (h.endsAlike ht)⟩
  · intro t t' u u' ht hu hreorder hreorder'
    rw [Bool.eq_iff_iff, (hreorder.keyed ht).same_iff (hreorder'.keyed hu), ht.same_iff hu]
    refine forall_congr' fun path => ?_
    rw [endsAlike_iff, endsAlike_iff, endsAlike_iff.1 (hreorder.endsAlike ht path),
      endsAlike_iff.1 (hreorder'.endsAlike hu path)]
  · intro t u ht hu h
    have hagrees := ht.agrees_of_same h
    refine ⟨ht.leafCount_eq_of_agrees hu hagrees, fun key => ?_⟩
    rw [resolve_eq, resolve_eq, hagrees]

/-- The trees differ in the order of children at both levels.  The third has no child where they
have an empty node: it has as many leaves, and says the same to each key, but is not equal. -/
theorem same_iff_endsAlike_sample :
    (node [("a", .node [("x", .text "1"), ("y", .node [])]), ("b", .text "2")]).same
        (.node [("b", .text "2"), ("a", .node [("y", .node []), ("x", .text "1")])]) = true ∧
      (node [("b", .text "2"), ("a", .node [("y", .node []), ("x", .text "1")])]).leafCount = 2 ∧
      (node [("a", .node [("x", .text "1"), ("y", .node [])]), ("b", .text "2")]).same
        (.node [("b", .text "2"), ("a", .node [("x", .text "1")])]) = false := by
  obtain ⟨hiff, -, -, -, horder, -, hequal⟩ := same_iff_endsAlike
  have ht : (node [("a", .node [("x", .text "1"), ("y", .node [])]), ("b", .text "2")]).Keyed := by
    simp [Keyed, KeyedAll, Entries.keys]
  have hu : (node [("b", .text "2"), ("a", .node [("x", .text "1")])]).Keyed := by
    simp [Keyed, KeyedAll, Entries.keys]
  have hinside : (node [("x", .text "1"), ("y", .node [])]).Reordered
      (.node [("y", .node []), ("x", .text "1")]) := .order (List.Perm.swap _ _ [])
  have hreorder :
      (node [("a", .node [("x", .text "1"), ("y", .node [])]), ("b", .text "2")]).Reordered
        (.node [("b", .text "2"), ("a", .node [("y", .node []), ("x", .text "1")])]) :=
    .trans (.order (List.Perm.swap _ _ []))
      (@Reordered.inside [("b", .text "2")] [] "a" _ _ hinside)
  have hsame := (horder _ _ ht (hreorder.keyed ht)).2 hreorder
  refine ⟨hsame, ?_, ?_⟩
  · exact ((hequal _ _ ht (hreorder.keyed ht) hsame).1).symm.trans (by decide)
  · rw [Bool.eq_false_iff, Ne, hiff _ _ ht hu]
    intro h
    -- The second tree has no node under the key that the first one has.
    have hend := endsAlike_iff.1 (h ["a", "y"])
    exact absurd hend (by decide)

end Phrasebook.MessageTree
