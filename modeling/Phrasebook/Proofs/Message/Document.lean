import Phrasebook.Message.Catalog
import Phrasebook.Proofs.Json.Parser
import Phrasebook.Proofs.Message.Path

/-!
# Documents of message trees

A document describes a tree if all its values are texts and tables (`Document.IsCatalog`).  A key
that is repeated in a table is one child, at the place where the key came first and built from the
value that came last (`MessageTree.BuiltFrom`).

* `MessageTree.ofDocument?_eq_some_iff`: the reader accepts the documents of texts and tables and no
  others, and gives the tree that is built from them.
* `MessageTree.Keyed.ofDocument?_toDocument`: a keyed tree is read back from its document.
-/

namespace Phrasebook

/-- All values in the document are texts and tables, those under repeated keys included. -/
def Document.IsCatalog (d : Document) : Prop :=
  d.All fun v => (∃ s, v = .text s) ∨ ∃ entries, v = .table entries

namespace MessageTree

/-- `t.BuiltFrom d`: the texts of `t` are those of `d`, and at each table of `d` a node of `t` has
one child for each key, in the order in which the keys came first, which is built from the last
value of its key. -/
inductive BuiltFrom : MessageTree → Document → Prop
  | text (s : String) : BuiltFrom (.text s) (.text s)
  | node {cs : List (String × MessageTree)} {entries : List (String × Document)}
      (hkeys : Entries.keys cs = (Entries.keys entries).eraseDups)
      (hlast : ∀ key c d, (key, c) ∈ cs → Entries.last? key entries = some d → BuiltFrom c d) :
      BuiltFrom (.node cs) (.table entries)

/-! ### Reading a document -/

theorem pairsOf?_eq_some_iff {entries : List (String × Document)}
    {pairs : List (String × MessageTree)} :
    pairsOf? entries = some pairs ↔
      List.Forall₂ (fun entry pair => entry.1 = pair.1 ∧ ofDocument? entry.2 = some pair.2)
        entries pairs := by
  induction entries generalizing pairs with
  | nil =>
    rw [pairsOf?, Option.some_inj, List.forall₂_nil_left_iff]
    exact eq_comm
  | cons entry entries ih =>
    obtain ⟨key, d⟩ := entry
    rw [List.forall₂_cons_left_iff]
    constructor
    · intro h
      rw [pairsOf?] at h
      split at h
      · rename_i t rest ht hrest
        exact ⟨(key, t), rest, ⟨rfl, ht⟩, ih.1 hrest, (Option.some.inj h).symm⟩
      · exact nomatch h
    · rintro ⟨⟨_, t⟩, rest, ⟨rfl, ht⟩, hrest, rfl⟩
      rw [pairsOf?, ht, ih.2 hrest]

/-- The values of a table are read if each of them is. -/
theorem pairsOf?_isSome_iff {entries : List (String × Document)} :
    (pairsOf? entries).isSome ↔ ∀ entry ∈ entries, (ofDocument? entry.2).isSome := by
  induction entries with
  | nil => simp [pairsOf?]
  | cons entry entries ih =>
    obtain ⟨key, d⟩ := entry
    rw [List.forall_mem_cons, ← ih, pairsOf?]
    cases ofDocument? d <;> cases pairsOf? entries <;> simp

/-- The reader accepts the documents of texts and tables. -/
theorem ofDocument?_isSome_iff (d : Document) : (ofDocument? d).isSome ↔ d.IsCatalog := by
  unfold Document.IsCatalog
  induction d using Document.induct with
  | null | bool | number | text | unreadable => rw [Document.all_iff_self] <;> simp [ofDocument?]
  | list items => rw [Document.all_list_iff]; simp [ofDocument?]
  | table entries ih =>
    rw [Document.all_table_iff, ofDocument?, Option.isSome_map, pairsOf?_isSome_iff]
    simpa using forall₂_congr ih

/-- The tree that is read is built from the document. -/
theorem builtFrom_of_ofDocument? (d : Document) {t : MessageTree} (h : ofDocument? d = some t) :
    t.BuiltFrom d := by
  induction d using Document.induct generalizing t with
  | null | bool | number | list | unreadable => exact nomatch h
  | text s =>
    obtain rfl := Option.some.inj h
    exact .text s
  | table entries ih =>
    rw [ofDocument?, Option.map_eq_some_iff] at h
    obtain ⟨pairs, hpairs, rfl⟩ := h
    have hread := pairsOf?_eq_some_iff.1 hpairs
    refine .node ?_ fun key c d hc hd => ?_
    · rw [Entries.keys_ofPairs, Entries.keys_eq_of_forall₂ (hread.imp fun _ _ h => h.1)]
    · -- the child under a key is read from the last value of the key, as both lists go in step
      have hfind := (Entries.find?_eq_some_iff (Entries.nodup_keys_ofPairs pairs)).2 hc
      rw [Entries.find?_ofPairs] at hfind
      have hvalue := Entries.rel_of_last? (fun d c => ofDocument? d = some c) hread hd hfind
      exact ih (key, d) (Entries.mem_of_last?_eq_some hd) hvalue

/-- The document determines the tree that is built from it. -/
theorem BuiltFrom.unique {d : Document} {t u : MessageTree} (ht : t.BuiltFrom d)
    (hu : u.BuiltFrom d) : t = u := by
  induction ht generalizing u with
  | text s =>
    cases hu
    rfl
  | @node cs entries hkeys hlast ih =>
    cases hu with
    | @node ds _ hkeys' hlast' =>
      -- both nodes have the keys of the table, and under each key what its last value determines
      refine congrArg MessageTree.node (Entries.ext_of_keys (hkeys.trans hkeys'.symm) ?_)
      intro key c c' hc hc'
      have hmem : key ∈ Entries.keys entries := by
        rw [← List.mem_eraseDups, ← hkeys]
        exact List.mem_map.2 ⟨_, hc, rfl⟩
      obtain ⟨d, hd⟩ := Option.isSome_iff_exists.1 ((Entries.last?_isSome_iff key entries).2 hmem)
      exact ih key c d hc hd (hlast' key c' d hc' hd)

/-- The reader accepts the documents of texts and tables, and gives the tree that is built. -/
theorem ofDocument?_eq_some_iff {d : Document} {t : MessageTree} :
    ofDocument? d = some t ↔ d.IsCatalog ∧ t.BuiltFrom d := by
  constructor
  · intro h
    have hcatalog := (ofDocument?_isSome_iff d).1 (Option.isSome_of_eq_some h)
    exact ⟨hcatalog, builtFrom_of_ofDocument? d h⟩
  · rintro ⟨hcatalog, ht⟩
    obtain ⟨u, hu⟩ := Option.isSome_iff_exists.1 ((ofDocument?_isSome_iff d).2 hcatalog)
    rw [hu, ht.unique (builtFrom_of_ofDocument? d hu)]

/-! ### The document of a tree -/

theorem entriesOf_eq_map (cs : List (String × MessageTree)) :
    entriesOf cs = cs.map fun entry => (entry.1, entry.2.toDocument) := by
  induction cs with
  | nil => rfl
  | cons entry cs ih =>
    obtain ⟨key, c⟩ := entry
    rw [entriesOf, ih, List.map_cons]

theorem keys_entriesOf (cs : List (String × MessageTree)) :
    Entries.keys (entriesOf cs) = Entries.keys cs := by
  rw [entriesOf_eq_map, Entries.keys, Entries.keys, List.map_map]
  rfl

/-- A tree has texts and tables in its document and nothing else. -/
theorem isCatalog_toDocument (t : MessageTree) : t.toDocument.IsCatalog := by
  unfold Document.IsCatalog
  induction t using MessageTree.induct with
  | text s => rw [toDocument, Document.all_iff_self] <;> simp
  | node cs ih =>
    rw [toDocument, Document.all_table_iff, entriesOf_eq_map, List.forall_mem_map]
    exact ⟨Or.inr ⟨_, rfl⟩, ih⟩

/-- A keyed tree is built from its own document. -/
theorem Keyed.builtFrom_toDocument {t : MessageTree} (h : t.Keyed) : t.BuiltFrom t.toDocument := by
  induction t using MessageTree.induct with
  | text s => exact .text s
  | node cs ih =>
    have hnodup : (Entries.keys cs).Nodup := h.nodup
    have hdups : (Entries.keys cs).eraseDups = Entries.keys cs := by
      rw [← Entries.keys_ofPairs, Entries.ofPairs_eq_self hnodup]
    rw [toDocument]
    refine .node (by rw [keys_entriesOf, hdups]) fun key c d hc hd => ?_
    have hmem := Entries.mem_of_last?_eq_some hd
    rw [entriesOf_eq_map, List.mem_map] at hmem
    obtain ⟨⟨_, c'⟩, hc', heq⟩ := hmem
    obtain ⟨rfl, rfl⟩ := Prod.mk.inj heq
    -- one key has one child, so the value that is found is the child's
    have hsame := ((Entries.find?_eq_some_iff hnodup).2 hc).symm.trans
      ((Entries.find?_eq_some_iff hnodup).2 hc')
    obtain rfl := Option.some.inj hsame
    exact ih _ hc (h.of_mem_children hc)

/-- A keyed tree is read back from its document. -/
theorem Keyed.ofDocument?_toDocument {t : MessageTree} (h : t.Keyed) :
    ofDocument? t.toDocument = some t :=
  ofDocument?_eq_some_iff.2 ⟨t.isCatalog_toDocument, h.builtFrom_toDocument⟩

/-- Each node is one table. -/
theorem depth_toDocument (t : MessageTree) : t.toDocument.depth = t.depth := by
  induction t using MessageTree.induct with
  | text s => rw [toDocument, Document.depth, depth] <;> simp
  | node cs ih =>
    have hall : Document.depthOfEntries (entriesOf cs) = depthAll cs := by
      induction cs with
      | nil => rfl
      | cons entry cs ihcs =>
        obtain ⟨hfirst, hrest⟩ := List.forall_mem_cons.1 ih
        obtain ⟨key, c⟩ := entry
        rw [entriesOf, Document.depthOfEntries, depthAll, hfirst, ihcs hrest]
    rw [toDocument, Document.depth, depth, hall]

theorem depth_node_le {cs : List (String × MessageTree)} {n : ℕ}
    (h : ∀ entry ∈ cs, entry.2.depth ≤ n) : (node cs).depth ≤ n + 1 := by
  have hall : depthAll cs ≤ n := by
    induction cs with
    | nil => exact Nat.zero_le n
    | cons entry cs ih =>
      obtain ⟨hfirst, hrest⟩ := List.forall_mem_cons.1 h
      obtain ⟨key, c⟩ := entry
      exact Nat.max_le.2 ⟨hfirst, ih hrest⟩
  rw [depth, Nat.add_comm]
  exact Nat.succ_le_succ hall

end MessageTree

/-- Texts and tables can be written. -/
theorem Document.IsCatalog.isPlain {d : Document} (h : d.IsCatalog) : Json.IsPlain d := by
  intro v hv
  rcases h v hv with ⟨s, rfl⟩ | ⟨entries, rfl⟩ <;> simp

end Phrasebook
