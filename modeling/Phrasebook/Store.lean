import Phrasebook.Message.Tree
import Phrasebook.SortedMap

/-!
## The catalog store

One message tree for each loaded locale.  Storing a tree for a locale replaces the one that was
there as a whole; nothing is merged.

* `Store.set` and `Store.remove` change the catalog of one locale, and `Store.exchange` and
  `Store.take` also give the catalog that goes.
-/

namespace Phrasebook

/-- The catalogs of the loaded locales. -/
structure Store where
  /-- The catalogs by locale. -/
  catalogs : SortedMap MessageTree

namespace Store

/-- The store without catalogs. -/
def empty : Store :=
  ⟨SortedMap.empty⟩

instance : Inhabited Store := ⟨empty⟩

/-- The catalog of a locale, if it is loaded. -/
def catalog (s : Store) (locale : String) : Option MessageTree :=
  s.catalogs.find? locale

/-- Whether the catalog of a locale is loaded. -/
def has (s : Store) (locale : String) : Bool :=
  s.catalogs.contains locale

/-- The store with `tree` as the catalog of `locale`. -/
def set (s : Store) (locale : String) (tree : MessageTree) : Store :=
  ⟨s.catalogs.insert locale tree⟩

/-- The store without a catalog for `locale`. -/
def remove (s : Store) (locale : String) : Store :=
  ⟨s.catalogs.erase locale⟩

/-- The store with `tree` as the catalog of `locale`, and the catalog that it replaces. -/
def exchange (s : Store) (locale : String) (tree : MessageTree) : Option MessageTree × Store :=
  let (old, catalogs) := s.catalogs.exchange locale tree
  (old, ⟨catalogs⟩)

/-- The store without a catalog for `locale`, and the catalog that was there. -/
def take (s : Store) (locale : String) : Option MessageTree × Store :=
  let (old, catalogs) := s.catalogs.take locale
  (old, ⟨catalogs⟩)

theorem exchange_eq (s : Store) (locale : String) (tree : MessageTree) :
    s.exchange locale tree = (s.catalog locale, s.set locale tree) := by
  unfold exchange
  rw [SortedMap.exchange_eq]
  rfl

theorem take_eq (s : Store) (locale : String) :
    s.take locale = (s.catalog locale, s.remove locale) := by
  unfold take
  rw [SortedMap.take_eq]
  rfl

/-- The store after the catalogs have been set in order. -/
def extend (s : Store) (catalogs : List (String × MessageTree)) : Store :=
  catalogs.foldl (fun s pair => s.set pair.1 pair.2) s

/-- The loaded locales in increasing order. -/
def locales (s : Store) : List String :=
  s.catalogs.keys

/-- The number of loaded locales. -/
def size (s : Store) : Nat :=
  s.catalogs.size

/-- Whether no locale is loaded. -/
def isEmpty (s : Store) : Bool :=
  s.catalogs.isEmpty

end Store

end Phrasebook
