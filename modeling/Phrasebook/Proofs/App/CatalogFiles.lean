import Phrasebook.App
import Phrasebook.Proofs.Result
import Phrasebook.Proofs.Translator.Builder

/-!
# Catalog files

A catalog file gives a message tree, or there is one thing that is wrong with it.  Of several files
the first that is refused counts, and if there is none then all are added to the builder.

* `Files.Provides` and `Files.Refuses` are the two things that can be said of a file, without the
  steps of reading it, and `App.readCatalog_eq_ok_iff` and `App.readCatalog_eq_error_iff` say that
  reading it finds out which.
* `App.fst_addCatalogs_eq_ok_iff` and `App.fst_addCatalogs_eq_error_iff`: the files are added
  exactly if none is refused, and otherwise the first that is refused says why
  (`Files.FirstRefused`).
* `App.collects_addCatalogs`: the builder has been given what the files provide, in order.
-/

namespace Phrasebook

open CommandLine (CatalogFile)

namespace Files

variable {files : Files} {file : CatalogFile} {catalogs : List CatalogFile} {tree : MessageTree}
  {e : AppError}

/-- `files.Provides file tree`: the file is the UTF-8 of a text that is a message tree. -/
def Provides (files : Files) (file : CatalogFile) (tree : MessageTree) : Prop :=
  ∃ text : String, files file.path = .ok text.toUTF8 ∧ MessageTree.parse text = .ok tree

/-- `files.Refuses file e`: the file is no message tree, for the reason `e`. -/
inductive Refuses (files : Files) (file : CatalogFile) : AppError → Prop
  | unreadable {fault : ReadFault} (read : files file.path = .error fault) :
      Refuses files file (.catalogFile file.path fault)
  | notText {bytes : ByteArray} (read : files file.path = .ok bytes)
      (utf8 : ∀ text : String, bytes ≠ text.toUTF8) :
      Refuses files file (.catalogFile file.path .notText)
  | invalid {text : String} {fault : CatalogFault} (read : files file.path = .ok text.toUTF8)
      (parse : MessageTree.parse text = .error fault) :
      Refuses files file (.load (.invalidCatalog fault))

/-- `files.FirstRefused catalogs e`: among the files, the first that is refused is so for the
reason `e`. -/
def FirstRefused (files : Files) (catalogs : List CatalogFile) (e : AppError) : Prop :=
  ∃ before file after, catalogs = before ++ file :: after ∧
    (∀ other ∈ before, ∃ tree, files.Provides other tree) ∧ files.Refuses file e

/-- `files.Gives file pair`: the file provides the second of the pair and is meant for the first. -/
def Gives (files : Files) (file : CatalogFile) (pair : String × MessageTree) : Prop :=
  pair.1 = file.locale ∧ files.Provides file pair.2

theorem provides_of_gives {given : List (String × MessageTree)}
    (h : List.Forall₂ files.Gives catalogs given) :
    ∀ file ∈ catalogs, ∃ tree, files.Provides file tree := by
  induction h with
  | nil => exact fun file hfile => absurd hfile List.not_mem_nil
  | cons hgives _ ih => exact List.forall_mem_cons.2 ⟨⟨_, hgives.2⟩, ih⟩

theorem keys_of_gives {given : List (String × MessageTree)}
    (h : List.Forall₂ files.Gives catalogs given) :
    Entries.keys given = catalogs.map CatalogFile.locale := by
  induction h with
  | nil => rfl
  | cons hgives _ ih => exact congrArg₂ List.cons hgives.1 ih

/-! ### Reading a file -/

theorem fromUTF8?_eq_some_iff {bytes : ByteArray} {text : String} :
    String.fromUTF8? bytes = some text ↔ bytes = text.toUTF8 := by
  unfold String.fromUTF8?
  constructor
  · intro h
    split_ifs at h with hvalid
    exact congrArg String.toUTF8 (Option.some.inj h)
  · rintro rfl
    exact dif_pos text.isValidUTF8

/-- The text of a file is what it is the UTF-8 of. -/
theorem readText_eq_ok_iff {path text : String} :
    files.readText path = .ok text ↔ files path = .ok text.toUTF8 := by
  unfold readText
  cases files path with
  | error fault => simp
  | ok bytes =>
    rw [Except.ok.injEq, ← fromUTF8?_eq_some_iff]
    dsimp only
    cases String.fromUTF8? bytes <;> simp

/-- A file has no text if it cannot be read, or is the UTF-8 of none. -/
theorem readText_eq_error_iff {path : String} {fault : ReadFault} :
    files.readText path = .error fault ↔ files path = .error fault ∨
      fault = .notText ∧
        ∃ bytes, files path = .ok bytes ∧ ∀ text : String, bytes ≠ text.toUTF8 := by
  unfold readText
  cases files path with
  | error other => simp
  | ok bytes =>
    simp only [Ne, ← fromUTF8?_eq_some_iff]
    cases hutf8 : String.fromUTF8? bytes <;> simp [hutf8, eq_comm]

end Files

namespace App

open Files

variable {files : Files} {file : CatalogFile} {catalogs : List CatalogFile} {tree : MessageTree}
  {e : AppError}

/-- Reading a catalog file gives the tree that it provides. -/
theorem readCatalog_eq_ok_iff : readCatalog files file = .ok tree ↔ files.Provides file tree := by
  unfold readCatalog Provides
  simp only [← readText_eq_ok_iff]
  cases files.readText file.path with
  | error fault => simp
  | ok text => cases hparse : MessageTree.parse text <;> simp [Except.mapError, hparse]

/-- Otherwise it says why the file is refused. -/
theorem readCatalog_eq_error_iff : readCatalog files file = .error e ↔ files.Refuses file e := by
  unfold readCatalog
  constructor
  · intro h
    -- A file is refused where it is read, where it is decoded, or where it is parsed.
    cases htext : files.readText file.path with
    | error fault =>
      rw [htext] at h
      obtain rfl := Except.error.inj h
      rcases readText_eq_error_iff.1 htext with hread | ⟨rfl, bytes, hread, hutf8⟩
      · exact .unreadable hread
      · exact .notText hread hutf8
    | ok text =>
      rw [htext] at h
      dsimp only at h
      cases hparse : MessageTree.parse text with
      | ok tree =>
        rw [hparse] at h
        exact nomatch h
      | error fault =>
        rw [hparse] at h
        obtain rfl := Except.error.inj h
        exact .invalid (readText_eq_ok_iff.1 htext) hparse
  · intro h
    cases h with
    | unreadable hread => rw [readText_eq_error_iff.2 (Or.inl hread)]
    | notText hread hutf8 => rw [readText_eq_error_iff.2 (Or.inr ⟨rfl, _, hread, hutf8⟩)]
    | invalid hread hparse =>
      rw [readText_eq_ok_iff.2 hread]
      dsimp only
      rw [hparse]
      rfl

/-! ### Adding catalog files -/

theorem firstRefused_cons {rest : List CatalogFile} :
    files.FirstRefused (file :: rest) e ↔
      files.Refuses file e ∨ (∃ tree, files.Provides file tree) ∧ files.FirstRefused rest e :=
  exists_first_cons_iff

/-- Adding catalog files fails with what is wrong with the first that is refused. -/
theorem fst_addCatalogs_eq_error_iff {b : Builder} :
    (addCatalogs files catalogs b).1 = .error e ↔ files.FirstRefused catalogs e := by
  induction catalogs generalizing b with
  | nil =>
    constructor
    · exact fun h => nomatch h
    · rintro ⟨before, file, after, heq, -⟩
      exact absurd heq.symm (List.append_ne_nil_of_right_ne_nil _ (List.cons_ne_nil _ _))
  | cons file rest ih =>
    rw [firstRefused_cons, ← readCatalog_eq_error_iff]
    simp only [← readCatalog_eq_ok_iff]
    unfold addCatalogs
    cases readCatalog files file with
    | error fault => simp
    | ok tree => simp [ih]

/-- If no catalog file is refused, then all are added. -/
theorem collects_addCatalogs {b : Builder} (h : (addCatalogs files catalogs b).1 = .ok ()) :
    ∃ given, List.Forall₂ files.Gives catalogs given ∧
      b.Collects given (addCatalogs files catalogs b).2 := by
  induction catalogs generalizing b with
  | nil => exact ⟨[], .nil, .refl b⟩
  | cons file rest ih =>
    unfold addCatalogs at h ⊢
    cases hread : readCatalog files file with
    | error fault =>
      rw [hread] at h
      exact nomatch h
    | ok tree =>
      rw [hread] at h
      obtain ⟨given, hgiven, hcollects⟩ := ih h
      have hgives : files.Gives file (file.locale, tree) := ⟨rfl, readCatalog_eq_ok_iff.1 hread⟩
      refine ⟨(file.locale, tree) :: given, .cons hgives hgiven, ?_⟩
      -- the event that is reported meanwhile is no part of what a builder collects
      exact .cons ⟨hcollects.catalog, hcollects.fallback, hcollects.url, hcollects.preference⟩

theorem fst_addCatalogs_eq_ok_iff {b : Builder} :
    (addCatalogs files catalogs b).1 = .ok () ↔
      ∀ file ∈ catalogs, ∃ tree, files.Provides file tree := by
  induction catalogs generalizing b with
  | nil => exact ⟨fun _ file hfile => absurd hfile List.not_mem_nil, fun _ => rfl⟩
  | cons file rest ih =>
    rw [List.forall_mem_cons]
    simp only [← readCatalog_eq_ok_iff] at ih ⊢
    unfold addCatalogs
    cases readCatalog files file with
    | error fault => simp
    | ok tree => simp [ih]

/-- There is one failure that counts. -/
theorem firstRefused_unique {e' : AppError} (h : files.FirstRefused catalogs e)
    (h' : files.FirstRefused catalogs e') : e = e' := by
  rw [← fst_addCatalogs_eq_error_iff (b := Builder.empty)] at h h'
  exact Except.error.inj (h.symm.trans h')

theorem not_provides_of_firstRefused (h : files.FirstRefused catalogs e) :
    ¬ ∀ file ∈ catalogs, ∃ tree, files.Provides file tree := by
  intro hprovides
  rw [← fst_addCatalogs_eq_error_iff (b := Builder.empty)] at h
  rw [← fst_addCatalogs_eq_ok_iff (b := Builder.empty)] at hprovides
  exact nomatch h.symm.trans hprovides

end App

end Phrasebook
