import Phrasebook.Proofs.Entries
import Phrasebook.Proofs.Text.Utf8
import Phrasebook.Store

/-!
# What a store remembers

A store is a map from locales to trees.  Behind any sequence of changes the catalog of a locale is
the tree that was stored last for it, if the locale has not been removed since, and there is no
other trace of the trees before.

* `Store.Change` is a change of a store.  `Store.Change.writes` takes it apart into writes to single
  locales, and `Store.LastStored` says of these writes which of them count in the end.
* `Store.catalog_change` is what one change does to all catalogs, and `Store.catalog_after` is what
  a sequence of changes leaves, by induction on the sequence.
* `Store.change_comm`: changes of different locales can be made in either order.
* `Store.history_faithful` puts these together, with the list of locales.
-/

namespace Phrasebook

namespace SortedMap

theorem mem_keys_iff {β : Type} (m : SortedMap β) (key : String) :
    key ∈ m.keys ↔ m.contains key = true := by
  show key ∈ m.entries.map Prod.fst ↔ (lookup key m.entries).isSome = true
  induction m.entries with
  | nil => simp [lookup]
  | cons entry rest ih =>
    obtain ⟨k, v⟩ := entry
    by_cases hk : k = key
    · simp [lookup, hk]
    · simp [lookup, hk, Ne.symm hk, ih]

end SortedMap

namespace Store

/-! ### Catalogs -/

/-- Setting a catalog changes that of its own locale and no other. -/
theorem catalog_set (s : Store) (locale other : String) (tree : MessageTree) :
    (s.set locale tree).catalog other = if locale = other then some tree else s.catalog other :=
  SortedMap.find?_insert s.catalogs locale other tree

theorem catalog_remove (s : Store) (locale other : String) :
    (s.remove locale).catalog other = if locale = other then none else s.catalog other :=
  SortedMap.find?_erase s.catalogs locale other

theorem has_eq_isSome_catalog (s : Store) (locale : String) :
    s.has locale = (s.catalog locale).isSome :=
  rfl

@[simp] theorem has_set_self (s : Store) (locale : String) (tree : MessageTree) :
    (s.set locale tree).has locale = true := by
  rw [has_eq_isSome_catalog, catalog_set, if_pos rfl]
  rfl

/-- A loaded locale stays loaded when a catalog is set. -/
theorem has_set_of_has {s : Store} {other : String} (h : s.has other = true) (locale : String)
    (tree : MessageTree) : (s.set locale tree).has other = true := by
  rw [has_eq_isSome_catalog, catalog_set]
  split
  · rfl
  · exact h

/-- The catalogs of all locales make up the store. -/
theorem ext_catalog {s t : Store} (h : ∀ locale, s.catalog locale = t.catalog locale) : s = t := by
  have hcatalogs : s.catalogs = t.catalogs := SortedMap.ext_find? h
  cases s
  cases t
  cases hcatalogs
  rfl

/-- The locales are listed in the order of their bytes. -/
theorem pairwise_locales (s : Store) :
    s.locales.Pairwise fun l m => Text.Utf8.encode l.toList < Text.Utf8.encode m.toList := by
  refine List.pairwise_map.2 (s.catalogs.increasing.imp fun h => ?_)
  exact Text.Utf8.encode_lt_encode h

/-! ### Changes -/

/-- What can be done to a store. -/
inductive Change where
  | set (locale : String) (tree : MessageTree)
  | remove (locale : String)
  | extend (catalogs : List (String × MessageTree))

/-- What a change writes to single locales, in order: a tree, or nothing where a catalog goes. -/
def Change.writes : Change → List (String × Option MessageTree)
  | .set locale tree => [(locale, some tree)]
  | .remove locale => [(locale, none)]
  | .extend catalogs => catalogs.map fun pair => (pair.1, some pair.2)

/-- The catalog that a change gives back, and the store behind it. -/
def change (s : Store) : Change → Option MessageTree × Store
  | .set locale tree => s.exchange locale tree
  | .remove locale => s.take locale
  | .extend catalogs => (none, s.extend catalogs)

/-- The store behind a sequence of changes that begins with the empty store. -/
def after (changes : List Change) : Store :=
  changes.foldl (fun s c => (s.change c).2) empty

/-- `LastStored changes locale tree`: one of the changes stores `tree` for `locale`, and behind that
nothing is stored for the locale and it is not removed. -/
def LastStored (changes : List Change) (locale : String) (tree : MessageTree) : Prop :=
  ∃ before after, changes.flatMap Change.writes = before ++ (locale, some tree) :: after ∧
    locale ∉ Entries.keys after

/-- The two changes have no locale in common. -/
def Change.Apart (c d : Change) : Prop :=
  ∀ locale ∈ Entries.keys c.writes, locale ∉ Entries.keys d.writes

variable {s : Store} {c d : Change}

theorem catalog_extend (s : Store) (catalogs : List (String × MessageTree)) (locale : String) :
    (s.extend catalogs).catalog locale =
      (Entries.last? locale (Change.extend catalogs).writes).getD (s.catalog locale) := by
  induction catalogs generalizing s with
  | nil => rfl
  | cons pair catalogs ih =>
    have hrest := ih (s.set pair.1 pair.2)
    rw [catalog_set] at hrest
    show ((s.set pair.1 pair.2).extend catalogs).catalog locale =
      (Entries.last? locale ((pair.1, some pair.2) :: (Change.extend catalogs).writes)).getD _
    rw [hrest, Entries.last?_cons, Option.getD_or]
    split <;> rfl

/-- A change writes to its own locales and leaves all others as they are. -/
theorem catalog_change (s : Store) (c : Change) (locale : String) :
    (s.change c).2.catalog locale = (Entries.last? locale c.writes).getD (s.catalog locale) := by
  cases c with
  | set l tree =>
    show (s.exchange l tree).2.catalog locale = (Entries.last? locale [(l, some tree)]).getD _
    rw [exchange_eq, catalog_set, Entries.last?_cons]
    split <;> rfl
  | remove l =>
    show (s.take l).2.catalog locale = (Entries.last? locale [(l, none)]).getD _
    rw [take_eq, catalog_remove, Entries.last?_cons]
    split <;> rfl
  | extend catalogs => exact catalog_extend s catalogs locale

theorem catalog_change_of_not_mem {locale : String} (h : locale ∉ Entries.keys c.writes) :
    (s.change c).2.catalog locale = s.catalog locale := by
  rw [catalog_change, Entries.last?_eq_none_iff.2 h]
  rfl

/-- A sequence of changes leaves what the last write to a locale says. -/
theorem catalog_after (changes : List Change) (locale : String) :
    (after changes).catalog locale =
      (Entries.last? locale (changes.flatMap Change.writes)).getD none := by
  induction changes using List.reverseRecOn with
  | nil => rfl
  | append_singleton changes c ih =>
    have hafter : after (changes ++ [c]) = ((after changes).change c).2 := List.foldl_concat ..
    rw [hafter, catalog_change, ih, List.flatMap_append, List.flatMap_singleton,
      Entries.last?_append, Option.getD_or]

theorem catalog_after_eq_some_iff {changes : List Change} {locale : String} {tree : MessageTree} :
    (after changes).catalog locale = some tree ↔ LastStored changes locale tree := by
  unfold LastStored
  rw [catalog_after, ← Entries.last?_eq_some_iff]
  cases Entries.last? locale (changes.flatMap Change.writes) <;> simp

/-! ### Changes of different locales -/

theorem Change.Apart.symm (h : c.Apart d) : d.Apart c :=
  fun locale hd hc => h locale hc hd

/-- What a change gives back is not touched by changes of other locales. -/
theorem fst_change_change (h : c.Apart d) : ((s.change c).2.change d).1 = (s.change d).1 := by
  cases d with
  | set locale tree =>
    have hlocale : locale ∉ Entries.keys c.writes :=
      fun hmem => h locale hmem List.mem_cons_self
    show ((s.change c).2.exchange locale tree).1 = (s.exchange locale tree).1
    rw [exchange_eq, exchange_eq]
    exact catalog_change_of_not_mem hlocale
  | remove locale =>
    have hlocale : locale ∉ Entries.keys c.writes :=
      fun hmem => h locale hmem List.mem_cons_self
    show ((s.change c).2.take locale).1 = (s.take locale).1
    rw [take_eq, take_eq]
    exact catalog_change_of_not_mem hlocale
  | extend catalogs => rfl

/-- Changes of different locales can be made in either order. -/
theorem change_comm (h : c.Apart d) :
    ((s.change c).2.change d).2 = ((s.change d).2.change c).2 := by
  refine ext_catalog fun locale => ?_
  by_cases hc : locale ∈ Entries.keys c.writes
  · rw [catalog_change_of_not_mem (h locale hc), catalog_change, catalog_change,
      catalog_change_of_not_mem (h locale hc)]
  · rw [catalog_change_of_not_mem hc, catalog_change, catalog_change_of_not_mem hc,
      catalog_change]

/-- **A store is what its history says.**  From the empty store on, the catalog of a locale is the
tree that was stored last for it, if the locale has not been removed since.  This decides what is
loaded, listed, counted and given back; and two changes of different locales can be made in either
order. -/
theorem history_faithful (changes : List Change) :
    (∀ locale tree,
      (after changes).catalog locale = some tree ↔ LastStored changes locale tree) ∧
    (∀ locale, (after changes).has locale = true ↔ ∃ tree, LastStored changes locale tree) ∧
    (∀ locale tree,
      ((after changes).change (.set locale tree)).1 = (after changes).catalog locale ∧
      ((after changes).change (.remove locale)).1 = (after changes).catalog locale) ∧
    ((after changes).locales.Pairwise fun l m =>
      Text.Utf8.encode l.toList < Text.Utf8.encode m.toList) ∧
    (∀ locale, locale ∈ (after changes).locales ↔ (after changes).has locale = true) ∧
    (after changes).size = (after changes).locales.length ∧
    ((after changes).isEmpty = true ↔ (after changes).locales = []) ∧
    ∀ c d : Change, c.Apart d → ∃ s,
      ((after changes).change c).2.change d = (((after changes).change d).1, s) ∧
      ((after changes).change d).2.change c = (((after changes).change c).1, s) := by
  refine ⟨fun _ _ => catalog_after_eq_some_iff, fun locale => ?_, fun locale tree => ?_,
    pairwise_locales _, fun locale => SortedMap.mem_keys_iff _ locale, ?_, ?_, fun c d h => ?_⟩
  · -- What is loaded and what is given back are read off the catalogs.
    rw [has_eq_isSome_catalog, Option.isSome_iff_exists]
    exact exists_congr fun tree => catalog_after_eq_some_iff
  · constructor
    · exact congrArg Prod.fst (exchange_eq _ locale tree)
    · exact congrArg Prod.fst (take_eq _ locale)
  · exact (List.length_map _).symm
  · show (after changes).catalogs.entries.isEmpty = true ↔
      (after changes).catalogs.entries.map Prod.fst = []
    rw [List.isEmpty_iff, List.map_eq_nil_iff]
  · refine ⟨(((after changes).change c).2.change d).2, ?_, ?_⟩
    · rw [← fst_change_change h]
    · rw [change_comm h, ← fst_change_change h.symm]

/-- A catalog that comes back behind a removal, one that is written twice, and one that is removed
in the end. -/
theorem history_faithful_sample :
    let changes : List Change := [.set "fr" (.text "1"), .extend [("de", .text "2"),
      ("es", .text "3"), ("de", .text "4")], .remove "fr", .remove "es", .set "fr" (.text "5")]
    (after changes).catalog "fr" = some (.text "5") ∧
      ((after changes).change (.set "de" (.text "6"))).1 = some (.text "4") ∧
      "es" ∉ (after changes).locales ∧
      ∃ s, ((after changes).change (.remove "fr")).2.change (.set "de" (.text "6")) =
          (some (.text "4"), s) ∧
        ((after changes).change (.set "de" (.text "6"))).2.change (.remove "fr") =
          (some (.text "5"), s) := by
  intro changes
  obtain ⟨hcatalog, hhas, hback, -, hlocales, -, -, hcomm⟩ := history_faithful changes
  -- The write that counts is shown with those before it and those behind.
  have hfr : (after changes).catalog "fr" = some (.text "5") :=
    (hcatalog "fr" _).2 ⟨[("fr", some (.text "1")), ("de", some (.text "2")),
      ("es", some (.text "3")), ("de", some (.text "4")), ("fr", none), ("es", none)], [], rfl,
      by decide⟩
  have hde : (after changes).catalog "de" = some (.text "4") :=
    (hcatalog "de" _).2 ⟨[("fr", some (.text "1")), ("de", some (.text "2")),
      ("es", some (.text "3"))], [("fr", none), ("es", none), ("fr", some (.text "5"))], rfl,
      by decide⟩
  have hset := (hback "de" (.text "6")).1.trans hde
  have hremove := (hback "fr" (.text "6")).2.trans hfr
  refine ⟨hfr, hset, fun hes => ?_, ?_⟩
  · obtain ⟨tree, htree⟩ := (hhas "es").1 ((hlocales "es").1 hes)
    exact nomatch (catalog_after changes "es").symm.trans ((hcatalog "es" tree).2 htree)
  · obtain ⟨s, hfirst, hsecond⟩ := hcomm (.remove "fr") (.set "de" (.text "6")) (by
      unfold Change.Apart
      decide)
    exact ⟨s, hfirst.trans (by rw [hset]), hsecond.trans (by rw [hremove])⟩

end Store

end Phrasebook
