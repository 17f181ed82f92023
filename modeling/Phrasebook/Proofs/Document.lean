import Phrasebook.Document
import Mathlib.Data.Nat.Notation

/-!
# The values in a document

A document holds itself, its items and values, and what these hold (`Document.Holds`).  What is
proved of all documents is proved by `Document.induct`, which goes from the items of a list and the
values of a table to the whole.
-/

namespace Phrasebook.Document

/-- What holds of a document if it holds of all items of a list and all values of a table. -/
@[elab_as_elim]
theorem induct {motive : Document → Prop} (null : motive .null) (bool : ∀ b, motive (.bool b))
    (number : ∀ n, motive (.number n)) (text : ∀ s, motive (.text s))
    (list : ∀ items, (∀ d ∈ items, motive d) → motive (.list items))
    (table : ∀ entries, (∀ entry ∈ entries, motive entry.2) → motive (.table entries))
    (unreadable : motive .unreadable) (d : Document) : motive d := by
  refine @Document.rec motive (fun items => ∀ d ∈ items, motive d)
    (fun entries => ∀ entry ∈ entries, motive entry.2) (fun entry => motive entry.2)
    null bool number text list table unreadable ?_ ?_ ?_ ?_ ?_ d
  · exact fun _ hd => absurd hd List.not_mem_nil
  · exact fun _ _ hd hitems => List.forall_mem_cons.2 ⟨hd, hitems⟩
  · exact fun _ hentry => absurd hentry List.not_mem_nil
  · exact fun _ _ hentry hentries => List.forall_mem_cons.2 ⟨hentry, hentries⟩
  · exact fun _ _ hd => hd

/-- `d.Holds v`: the value `v` stands somewhere in `d`. -/
inductive Holds : Document → Document → Prop
  | self (d : Document) : Holds d d
  | item {items : List Document} {d v : Document} (hd : d ∈ items) (h : Holds d v) :
      Holds (.list items) v
  | value {entries : List (String × Document)} {key : String} {d v : Document}
      (hd : (key, d) ∈ entries) (h : Holds d v) : Holds (.table entries) v

/-- Each value in the document, itself included, has a property. -/
def All (P : Document → Prop) (d : Document) : Prop :=
  ∀ v, d.Holds v → P v

section All

variable {P : Document → Prop} {d : Document}

/-- A value that is no list and no table holds only itself. -/
theorem all_iff_self (hlist : ∀ items, d ≠ .list items) (htable : ∀ entries, d ≠ .table entries) :
    d.All P ↔ P d := by
  constructor
  · exact fun h => h d (.self d)
  · intro h v hv
    cases hv with
    | self => exact h
    | item => exact absurd rfl (hlist _)
    | value => exact absurd rfl (htable _)

theorem all_list_iff {items : List Document} :
    (list items).All P ↔ P (.list items) ∧ ∀ d ∈ items, d.All P := by
  constructor
  · exact fun h => ⟨h _ (.self _), fun d hd v hv => h v (.item hd hv)⟩
  · rintro ⟨hself, hitems⟩ v hv
    cases hv with
    | self => exact hself
    | item hd hv => exact hitems _ hd v hv

theorem all_table_iff {entries : List (String × Document)} :
    (table entries).All P ↔ P (.table entries) ∧ ∀ entry ∈ entries, entry.2.All P := by
  constructor
  · exact fun h => ⟨h _ (.self _), fun entry hentry v hv => h v (.value hentry hv)⟩
  · rintro ⟨hself, hentries⟩ v hv
    cases hv with
    | self => exact hself
    | value hd hv => exact hentries _ hd v hv

end All

/-! ### Documents that can be read -/

theorem areReadableItems_iff {items : List Document} :
    areReadableItems items = true ↔ ∀ d ∈ items, d.isReadable = true := by
  induction items with
  | nil => simp [areReadableItems]
  | cons d items ih => rw [areReadableItems, Bool.and_eq_true, ih, List.forall_mem_cons]

theorem areReadableEntries_iff {entries : List (String × Document)} :
    areReadableEntries entries = true ↔ ∀ entry ∈ entries, entry.2.isReadable = true := by
  induction entries with
  | nil => simp [areReadableEntries]
  | cons entry entries ih =>
    obtain ⟨key, d⟩ := entry
    rw [areReadableEntries, Bool.and_eq_true, ih, List.forall_mem_cons]

end Phrasebook.Document
