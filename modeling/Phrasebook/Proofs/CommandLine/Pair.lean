import Phrasebook.CommandLine.Usage
import Phrasebook.Proofs.Text.Split

/-!
# Pairs on the command line

An argument writes a pair as its name, an equals sign and its value (`writePair`).  It is read at
its first equals sign, so reading undoes writing for every value and for the names that are not
empty and have no equals sign (`IsName`).  All other arguments are `Unpaired` and are refused.

* `unpaired_or_exists_writePair`: an argument is unpaired or writes a pair.
* `splitPair_eq_ok_iff`, `splitPair_eq_error_iff`: which pair is read in which argument, and which
  arguments are refused, with what reason.
* `parseCatalogFile_eq_ok_iff`, `parseCatalogFile_eq_error_iff`: the same for the file with the
  catalog of a locale, which must not be empty.
* `pairs_read_back` puts these together.
-/

namespace Phrasebook.CommandLine

open Phrasebook.Text

variable {raw name value : String} {fault : UsageFault}

/-- What can stand before the equals sign of a pair. -/
structure IsName (name : String) : Prop where
  ne_empty : name ≠ ""
  free : '=' ∉ name.toList

/-- The argument that writes a pair. -/
def writePair (name value : String) : String :=
  name ++ "=" ++ value

/-- An argument without an equals sign, or with nothing before the first one. -/
def Unpaired (raw : String) : Prop :=
  '=' ∉ raw.toList ∨ ∃ rest, raw = "=" ++ rest

/-! ### Writing -/

theorem toList_writePair (name value : String) :
    (writePair name value).toList = name.toList ++ '=' :: value.toList := by
  simp [writePair]

/-- Two pairs with names that have no equals sign are written in two ways. -/
theorem writePair_inj {name' value' : String} (hname : '=' ∉ name.toList)
    (hname' : '=' ∉ name'.toList) (h : writePair name value = writePair name' value') :
    name = name' ∧ value = value' := by
  rw [← String.toList_inj, toList_writePair, toList_writePair] at h
  obtain ⟨hnames, hvalues⟩ := append_cons_inj hname hname' h
  exact ⟨String.toList_inj.1 hnames, String.toList_inj.1 hvalues⟩

/-- Where the first equals sign stands decides whether an argument writes a pair. -/
theorem unpaired_or_exists_writePair (raw : String) :
    Unpaired raw ∨ ∃ name value, IsName name ∧ raw = writePair name value := by
  by_cases hmem : '=' ∈ raw.toList
  · obtain ⟨l, rest, hraw, hl⟩ := List.eq_append_cons_of_mem hmem
    cases l with
    | nil =>
      refine Or.inl (Or.inr ⟨String.ofList rest, ?_⟩)
      rw [← String.toList_inj, hraw]
      simp
    | cons c l =>
      refine Or.inr ⟨String.ofList (c :: l), String.ofList rest, ⟨?_, ?_⟩, ?_⟩
      · simp [← String.toList_inj]
      · rwa [String.toList_ofList]
      · rw [← String.toList_inj, toList_writePair, hraw, String.toList_ofList, String.toList_ofList]
  · exact Or.inl (Or.inl hmem)

/-! ### Reading -/

/-- What is written is read back. -/
theorem splitPair_writePair (hname : IsName name) (value : String) :
    splitPair (writePair name value) = .ok (name, value) := by
  obtain ⟨c, l, hl⟩ := List.exists_cons_of_ne_nil (mt String.toList_eq_nil_iff.1 hname.ne_empty)
  have hcut : cut? '=' (writePair name value).toList = some (c :: l, value.toList) := by
    rw [toList_writePair, ← hl]
    exact cut?_append hname.free _
  rw [splitPair, hcut]
  dsimp only
  rw [← hl, String.ofList_toList, String.ofList_toList]

theorem splitPair_of_unpaired (h : Unpaired raw) :
    splitPair raw = .error (.badValue ("expected NAME=VALUE, got '" ++ raw ++ "'")) := by
  unfold splitPair
  obtain hnot | ⟨rest, rfl⟩ := h
  · rw [cut?_eq_none hnot]
  · have hcut : cut? '=' ("=" ++ rest).toList = some ([], rest.toList) := by
      rw [String.toList_append]
      exact cut?_append (l := []) List.not_mem_nil _
    rw [hcut]

theorem splitPair_eq_ok_iff :
    splitPair raw = .ok (name, value) ↔ IsName name ∧ raw = writePair name value := by
  constructor
  · intro h
    obtain hraw | ⟨name', value', hname, rfl⟩ := unpaired_or_exists_writePair raw
    · exact nomatch (splitPair_of_unpaired hraw).symm.trans h
    · rw [splitPair_writePair hname] at h
      obtain ⟨rfl, rfl⟩ := Prod.mk.inj (Except.ok.inj h)
      exact ⟨hname, rfl⟩
  · rintro ⟨hname, rfl⟩
    exact splitPair_writePair hname value

theorem splitPair_eq_error_iff :
    splitPair raw = .error fault ↔
      Unpaired raw ∧ fault = .badValue ("expected NAME=VALUE, got '" ++ raw ++ "'") := by
  constructor
  · intro h
    obtain hraw | ⟨name, value, hname, rfl⟩ := unpaired_or_exists_writePair raw
    · exact ⟨hraw, Except.error.inj (h.symm.trans (splitPair_of_unpaired hraw))⟩
    · exact nomatch (splitPair_writePair hname value).symm.trans h
  · rintro ⟨hraw, rfl⟩
    exact splitPair_of_unpaired hraw

/-! ### Catalog files -/

theorem parseCatalogFile_writePair {locale path : String} (hlocale : IsName locale)
    (hpath : path ≠ "") : parseCatalogFile (writePair locale path) = .ok ⟨locale, path⟩ := by
  have hempty : ¬ path.isEmpty = true := by simpa using hpath
  rw [parseCatalogFile, splitPair_writePair hlocale]
  exact if_neg hempty

theorem parseCatalogFile_writePair_empty {locale : String} (hlocale : IsName locale) :
    parseCatalogFile (writePair locale "") =
      .error (.badValue ("missing catalog file in '" ++ writePair locale "" ++ "'")) := by
  rw [parseCatalogFile, splitPair_writePair hlocale]
  exact if_pos rfl

theorem parseCatalogFile_of_unpaired (h : Unpaired raw) :
    parseCatalogFile raw = .error (.badValue ("expected NAME=VALUE, got '" ++ raw ++ "'")) := by
  rw [parseCatalogFile, splitPair_of_unpaired h]

/-- Each argument is unpaired, or writes a locale without a file, or writes both. -/
theorem catalogFile_cases (raw : String) :
    Unpaired raw ∨ (∃ locale, IsName locale ∧ raw = writePair locale "") ∨
      ∃ locale path, IsName locale ∧ path ≠ "" ∧ raw = writePair locale path := by
  obtain hraw | ⟨locale, path, hlocale, hraw⟩ := unpaired_or_exists_writePair raw
  · exact Or.inl hraw
  · rcases eq_or_ne path "" with rfl | hpath
    · exact Or.inr (Or.inl ⟨locale, hlocale, hraw⟩)
    · exact Or.inr (Or.inr ⟨locale, path, hlocale, hpath, hraw⟩)

theorem parseCatalogFile_eq_ok_iff {file : CatalogFile} :
    parseCatalogFile raw = .ok file ↔
      IsName file.locale ∧ file.path ≠ "" ∧ raw = writePair file.locale file.path := by
  constructor
  · intro h
    obtain hraw | ⟨locale, hlocale, rfl⟩ | ⟨locale, path, hlocale, hpath, rfl⟩ :=
      catalogFile_cases raw
    · exact nomatch (parseCatalogFile_of_unpaired hraw).symm.trans h
    · exact nomatch (parseCatalogFile_writePair_empty hlocale).symm.trans h
    · obtain rfl := Except.ok.inj ((parseCatalogFile_writePair hlocale hpath).symm.trans h)
      exact ⟨hlocale, hpath, rfl⟩
  · rintro ⟨hlocale, hpath, rfl⟩
    exact parseCatalogFile_writePair hlocale hpath

theorem parseCatalogFile_eq_error_iff :
    parseCatalogFile raw = .error fault ↔
      Unpaired raw ∧ fault = .badValue ("expected NAME=VALUE, got '" ++ raw ++ "'") ∨
        (∃ locale, IsName locale ∧ raw = writePair locale "") ∧
          fault = .badValue ("missing catalog file in '" ++ raw ++ "'") := by
  constructor
  · intro h
    obtain hraw | ⟨locale, hlocale, rfl⟩ | ⟨locale, path, hlocale, hpath, rfl⟩ :=
      catalogFile_cases raw
    · exact Or.inl ⟨hraw, Except.error.inj (h.symm.trans (parseCatalogFile_of_unpaired hraw))⟩
    · have hfault := Except.error.inj (h.symm.trans (parseCatalogFile_writePair_empty hlocale))
      exact Or.inr ⟨⟨locale, hlocale, rfl⟩, hfault⟩
    · exact nomatch (parseCatalogFile_writePair hlocale hpath).symm.trans h
  · rintro (⟨hraw, rfl⟩ | ⟨⟨locale, hlocale, rfl⟩, rfl⟩)
    · exact parseCatalogFile_of_unpaired hraw
    · exact parseCatalogFile_writePair_empty hlocale

/-- **An argument is read as the pair that it writes, and as no other.**  So every value comes back,
and every path that is not empty, and two pairs are never written alike.  What is refused are the
arguments that have no equals sign or begin with one, and as a catalog file also those that end
behind their first one. -/
theorem pairs_read_back :
    (∀ raw name value, parsePlaceholder raw = .ok (name, value) ↔
      IsName name ∧ raw = writePair name value) ∧
    (∀ raw fault, parsePlaceholder raw = .error fault ↔
      Unpaired raw ∧ fault = .badValue ("expected NAME=VALUE, got '" ++ raw ++ "'")) ∧
    (∀ raw locale path, parseCatalogFile raw = .ok ⟨locale, path⟩ ↔
      IsName locale ∧ path ≠ "" ∧ raw = writePair locale path) ∧
    (∀ raw fault, parseCatalogFile raw = .error fault ↔
      Unpaired raw ∧ fault = .badValue ("expected NAME=VALUE, got '" ++ raw ++ "'") ∨
        (∃ locale, IsName locale ∧ raw = writePair locale "") ∧
          fault = .badValue ("missing catalog file in '" ++ raw ++ "'")) ∧
    (∀ name value, IsName name → parsePlaceholder (writePair name value) = .ok (name, value)) ∧
    (∀ locale path, IsName locale → path ≠ "" →
      parseCatalogFile (writePair locale path) = .ok ⟨locale, path⟩) ∧
    ∀ name value name' value', '=' ∉ name.toList → '=' ∉ name'.toList →
      writePair name value = writePair name' value' → name = name' ∧ value = value' := by
  refine ⟨?_, ?_, ?_, ?_, ?_, ?_, ?_⟩
  · exact fun raw name value => splitPair_eq_ok_iff
  · exact fun raw fault => splitPair_eq_error_iff
  · exact fun raw locale path => parseCatalogFile_eq_ok_iff
  · exact fun raw fault => parseCatalogFile_eq_error_iff
  · exact fun name value hname => splitPair_writePair hname value
  · exact fun locale path hlocale hpath => parseCatalogFile_writePair hlocale hpath
  · exact fun name value name' value' hname hname' => writePair_inj hname hname'

/-- A value with an equals sign of its own and an empty one come back, and a catalog without a file
is refused. -/
theorem pairs_read_back_sample :
    parsePlaceholder "x=a=b" = .ok ("x", "a=b") ∧
    parsePlaceholder "en=" = .ok ("en", "") ∧
    (∃ fault, parsePlaceholder "=v" = .error fault) ∧
    (∃ fault, parseCatalogFile "en=" = .error fault) ∧
    parseCatalogFile "fr=/tmp/fr.json" = .ok ⟨"fr", "/tmp/fr.json"⟩ ∧
    writePair "a" "b=c" ≠ writePair "b" "a=c" := by
  obtain ⟨-, hrefused, -, hrefusedFile, hpair, hfile, hinj⟩ := pairs_read_back
  refine ⟨hpair "x" "a=b" ⟨by decide, by decide⟩, hpair "en" "" ⟨by decide, by decide⟩, ?_, ?_,
    hfile "fr" "/tmp/fr.json" ⟨by decide, by decide⟩ (by decide), ?_⟩
  · exact ⟨_, (hrefused _ _).2 ⟨Or.inr ⟨"v", rfl⟩, rfl⟩⟩
  · exact ⟨_, (hrefusedFile _ _).2 (Or.inr ⟨⟨"en", ⟨by decide, by decide⟩, rfl⟩, rfl⟩)⟩
  · exact fun heq => absurd (hinj _ _ _ _ (by decide) (by decide) heq).1 (by decide)

end Phrasebook.CommandLine
