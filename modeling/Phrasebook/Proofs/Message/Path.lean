import Phrasebook.Message.Tree
import Phrasebook.Proofs.Entries
import Mathlib.Data.List.Perm.Subperm

/-!
# Paths in message trees

A path of keys leads from the root of a tree to a subtree by the children that stand under the keys
(`MessageTree.Reaches`).  While no node has two children under one key it leads to one subtree at
most, and following it gives that subtree: `MessageTree.reaches_iff_walk`.

* `MessageTree.setText` puts a text at the end of a path.
* `MessageTree.lookup_setText`: if there was a text before, then this changes what is found at the
  end of this path and of no other.
* `MessageTree.Agrees`: two trees have the same text at the end of each path.
* `MessageTree.EndsAlike`: two paths lead nowhere, to the same text, or to nodes.  Keyed trees that
  are equal up to the order of children end alike on each path, and so they agree
  (`MessageTree.Keyed.endsAlike_of_same`, `MessageTree.Keyed.agrees_of_same`).
-/

namespace Phrasebook.MessageTree

/-- `t.Reaches path u`: from the root of `t` one comes to `u` by going in turn to a child under each
key of the path. -/
inductive Reaches : MessageTree → List String → MessageTree → Prop
  | here (t : MessageTree) : Reaches t [] t
  | step {cs : List (String × MessageTree)} {key : String} {path : List String}
      {c u : MessageTree} (hc : (key, c) ∈ cs) (h : Reaches c path u) :
      Reaches (.node cs) (key :: path) u

/-- What holds of a tree if it holds of all children of a node. -/
@[elab_as_elim]
theorem induct {motive : MessageTree → Prop} (text : ∀ s, motive (.text s))
    (node : ∀ cs, (∀ entry ∈ cs, motive entry.2) → motive (.node cs)) (t : MessageTree) :
    motive t := by
  refine @MessageTree.rec motive (fun cs => ∀ entry ∈ cs, motive entry.2)
    (fun entry => motive entry.2) text node ?_ ?_ ?_ t
  · exact fun _ hentry => absurd hentry List.not_mem_nil
  · exact fun _ _ hentry hcs => List.forall_mem_cons.2 ⟨hentry, hcs⟩
  · exact fun _ _ hc => hc

/-! ### Keyed trees -/

theorem keyedAll_iff {cs : List (String × MessageTree)} :
    KeyedAll cs ↔ ∀ entry ∈ cs, entry.2.Keyed := by
  induction cs with
  | nil => simp [KeyedAll]
  | cons entry rest ih =>
    obtain ⟨key, c⟩ := entry
    rw [KeyedAll, ih, List.forall_mem_cons]

theorem Keyed.nodup {t : MessageTree} (h : t.Keyed) : (Entries.keys t.children).Nodup := by
  cases t with
  | text s => exact List.nodup_nil
  | node cs =>
    rw [Keyed] at h
    exact h.1

/-- A child of a keyed tree is one that stands under its key. -/
theorem Keyed.child_eq_some_iff {t c : MessageTree} (h : t.Keyed) {key : String} :
    t.child key = some c ↔ (key, c) ∈ t.children :=
  Entries.find?_eq_some_iff h.nodup

theorem Keyed.of_mem_children {t c : MessageTree} (h : t.Keyed) {key : String}
    (hc : (key, c) ∈ t.children) : c.Keyed := by
  cases t with
  | text s => exact absurd hc List.not_mem_nil
  | node cs =>
    rw [Keyed] at h
    exact keyedAll_iff.1 h.2 (key, c) hc

/-! ### Following a path -/

theorem reaches_nil_iff {t u : MessageTree} : t.Reaches [] u ↔ t = u := by
  constructor
  · intro h
    cases h
    rfl
  · rintro rfl
    exact .here t

theorem reaches_cons_iff {t u : MessageTree} {key : String} {path : List String} :
    t.Reaches (key :: path) u ↔ ∃ c, (key, c) ∈ t.children ∧ c.Reaches path u := by
  constructor
  · intro h
    cases h with
    | step hc h => exact ⟨_, hc, h⟩
  · rintro ⟨c, hc, h⟩
    cases t with
    | text s => exact absurd hc List.not_mem_nil
    | node cs => exact .step hc h

/-- A path of one key leads to the children of the root. -/
theorem reaches_singleton_iff {t u : MessageTree} {key : String} :
    t.Reaches [key] u ↔ ∃ cs, t = .node cs ∧ (key, u) ∈ cs := by
  rw [reaches_cons_iff]
  constructor
  · rintro ⟨c, hc, h⟩
    obtain rfl := reaches_nil_iff.1 h
    cases t with
    | text s => exact absurd hc List.not_mem_nil
    | node cs => exact ⟨cs, rfl, hc⟩
  · rintro ⟨cs, rfl, hu⟩
    exact ⟨u, hu, .here u⟩

/-- In a keyed tree, following a path gives the subtree to which it leads. -/
theorem reaches_iff_walk {t u : MessageTree} (h : t.Keyed) {path : List String} :
    t.Reaches path u ↔ t.walk path = some u := by
  induction path generalizing t with
  | nil => rw [reaches_nil_iff, walk, Option.some_inj]
  | cons key path ih =>
    rw [reaches_cons_iff, walk, Option.bind_eq_some_iff]
    refine exists_congr fun c => ?_
    rw [h.child_eq_some_iff]
    exact and_congr_right fun hc => ih (h.of_mem_children hc)

theorem lookup_eq_some_iff {t : MessageTree} {path : List String} {s : String} :
    t.lookup path = some s ↔ t.walk path = some (.text s) := by
  unfold lookup
  rw [Option.bind_eq_some_iff]
  constructor
  · rintro ⟨u, hu, hs⟩
    cases u with
    | text s' => rw [hu, Option.some.inj hs]
    | node cs => exact nomatch hs
  · exact fun h => ⟨_, h, rfl⟩

/-- In a keyed tree, looking a path up gives the text to which it leads. -/
theorem lookup_eq_some_iff_reaches {t : MessageTree} (h : t.Keyed) {path : List String}
    {s : String} : t.lookup path = some s ↔ t.Reaches path (.text s) := by
  rw [lookup_eq_some_iff, reaches_iff_walk h]

theorem lookup_cons (t : MessageTree) (key : String) (path : List String) :
    t.lookup (key :: path) = (t.child key).bind fun c => c.lookup path := by
  unfold lookup
  rw [walk, Option.bind_assoc]

@[simp] theorem lookup_cons_text (s key : String) (path : List String) :
    (text s).lookup (key :: path) = none :=
  rfl

/-! ### Putting a text at the end of a path -/

/-- The tree with `s` as the text at the end of a path.  A path to nowhere changes nothing. -/
def setText (t : MessageTree) : List String → String → MessageTree
  | [], s => .text s
  | key :: path, s =>
    match t.child key with
    | some c => t.insert key (c.setText path s)
    | none => t

theorem child_insert (t : MessageTree) (key other : String) (c : MessageTree) :
    (t.insert key c).child other = if key = other then some c else t.child other :=
  Entries.find?_put key other c t.children

/-- A new text at the end of a path that leads to a text is found there, and changes nothing at the
ends of other paths. -/
theorem lookup_setText {t : MessageTree} {path : List String} {old : String}
    (h : t.lookup path = some old) (s : String) (other : List String) :
    (t.setText path s).lookup other = if other = path then some s else t.lookup other := by
  induction path generalizing t other with
  | nil =>
    cases t with
    | node cs => exact nomatch h
    | text s' => cases other <;> rfl
  | cons key path ih =>
    rw [lookup_cons, Option.bind_eq_some_iff] at h
    obtain ⟨c, hc, hold⟩ := h
    have hset : t.setText (key :: path) s = t.insert key (c.setText path s) := by
      rw [setText, hc]
    rw [hset]
    -- the other path ends at the root, goes to the same child, or goes past it
    cases other with
    | nil =>
      cases t with
      | text s' => exact nomatch hc
      | node cs => rfl
    | cons key' path' =>
      rw [lookup_cons, child_insert, lookup_cons]
      by_cases hkey : key = key'
      · subst hkey
        rw [if_pos rfl, hc, Option.bind_some, Option.bind_some, ih hold]
        simp only [List.cons.injEq, true_and]
      · have hne : key' :: path' ≠ key :: path := fun heq => hkey (List.cons.inj heq).1.symm
        rw [if_neg hkey, if_neg hne]

/-! ### Trees with the same texts -/

/-- The trees have the same text at the end of each path, or both have none there. -/
def Agrees (t u : MessageTree) : Prop :=
  ∀ path, t.lookup path = u.lookup path

theorem sameAll_iff {cs : List (String × MessageTree)} {ds : Entries MessageTree} :
    sameAll cs ds = true ↔
      ∀ key c, (key, c) ∈ cs → ∃ d, ds.find? key = some d ∧ same c d = true := by
  induction cs with
  | nil => simp [sameAll]
  | cons entry rest ih =>
    obtain ⟨key, c⟩ := entry
    rw [sameAll, Bool.and_eq_true, ih]
    constructor
    · rintro ⟨hfirst, hrest⟩ key' c' hmem
      rcases List.mem_cons.1 hmem with heq | hmem
      · obtain ⟨rfl, rfl⟩ := Prod.mk.inj heq
        -- The first child is compared with the one under its key, if there is one.
        cases hd : ds.find? key' with
        | none => simp [hd] at hfirst
        | some d => exact ⟨d, rfl, by simpa [hd] using hfirst⟩
      · exact hrest key' c' hmem
    · intro h
      obtain ⟨d, hd, hsame⟩ := h key c List.mem_cons_self
      refine ⟨?_, fun key' c' hmem => h key' c' (List.mem_cons_of_mem _ hmem)⟩
      rw [hd]
      exact hsame

/-- Nodes with as many children, those of one under keys of the other, have them under the same
keys. -/
theorem mem_keys_iff_of_same {cs ds : Entries MessageTree} (h : (Entries.keys cs).Nodup)
    (hsame : same (.node cs) (.node ds) = true) (key : String) :
    key ∈ Entries.keys cs ↔ key ∈ Entries.keys ds := by
  rw [same, Bool.and_eq_true, decide_eq_true_eq, sameAll_iff] at hsame
  obtain ⟨hlength, hall⟩ := hsame
  have hsub : Entries.keys cs ⊆ Entries.keys ds := by
    intro key' hkey
    obtain ⟨⟨_, c⟩, hc, rfl⟩ := List.mem_map.1 hkey
    obtain ⟨d, hd, -⟩ := hall _ c hc
    exact (Entries.find?_isSome_iff _ ds).1 (Option.isSome_of_eq_some hd)
  have hcount : (Entries.keys ds).length ≤ (Entries.keys cs).length := by
    rw [Entries.keys, Entries.keys, List.length_map, List.length_map]
    exact Nat.le_of_eq hlength.symm
  have hperm := (h.subperm hsub).perm_of_length_le hcount
  exact hperm.mem_iff

/-- What two paths lead to is alike: both lead nowhere, or to the same text, or to nodes. -/
inductive EndsAlike : Option MessageTree → Option MessageTree → Prop
  | nowhere : EndsAlike none none
  | text (s : String) : EndsAlike (some (.text s)) (some (.text s))
  | node (cs ds : List (String × MessageTree)) : EndsAlike (some (.node cs)) (some (.node ds))

theorem endsAlike_iff {e e' : Option MessageTree} :
    EndsAlike e e' ↔ e.map asText = e'.map asText := by
  constructor
  · intro h
    cases h <;> rfl
  · intro h
    rcases e with _ | s | cs <;> rcases e' with _ | s' | ds <;> simp [asText] at h
    · exact .nowhere
    · exact h ▸ .text s
    · exact .node cs ds

/-- Trees that are equal up to the order of children end alike on each path. -/
theorem Keyed.endsAlike_of_same {t u : MessageTree} (h : t.Keyed) (hsame : t.same u = true)
    (path : List String) : EndsAlike (t.walk path) (u.walk path) := by
  induction path generalizing t u with
  | nil =>
    cases t <;> cases u
    case text.text s s' =>
      rw [same, decide_eq_true_eq] at hsame
      exact hsame ▸ .text s
    case node.node cs ds => exact .node cs ds
    all_goals simp [same] at hsame
  | cons key path ih =>
    cases t <;> cases u
    case text.text => exact .nowhere
    case node.node cs ds =>
      -- The two nodes have the same keys, since they have equally many and none twice.
      have hkeys : (Entries.find? key cs).isSome ↔ (Entries.find? key ds).isSome := by
        rw [Entries.find?_isSome_iff, Entries.find?_isSome_iff]
        exact mem_keys_iff_of_same h.nodup hsame key
      rw [same, Bool.and_eq_true, sameAll_iff] at hsame
      change EndsAlike ((Entries.find? key cs).bind _) ((Entries.find? key ds).bind _)
      cases hc : Entries.find? key cs with
      | none =>
        rw [hc, Option.isSome_none] at hkeys
        rw [Option.not_isSome_iff_eq_none.1 (mt hkeys.2 Bool.false_ne_true)]
        exact .nowhere
      | some c =>
        have hmem := Entries.mem_of_find?_eq_some hc
        obtain ⟨d, hd, hcd⟩ := hsame.2 key c hmem
        rw [hd]
        exact ih (h.of_mem_children hmem) hcd
    all_goals simp [same] at hsame

/-- Trees that end alike on each path have the same texts. -/
theorem agrees_of_endsAlike {t u : MessageTree}
    (h : ∀ path, EndsAlike (t.walk path) (u.walk path)) : t.Agrees u := by
  intro path
  have hends := h path
  unfold lookup
  generalize t.walk path = e at hends ⊢
  generalize u.walk path = e' at hends ⊢
  cases hends <;> rfl

theorem Keyed.agrees_of_same {t u : MessageTree} (h : t.Keyed) (hsame : t.same u = true) :
    t.Agrees u :=
  agrees_of_endsAlike (h.endsAlike_of_same hsame)

end Phrasebook.MessageTree
