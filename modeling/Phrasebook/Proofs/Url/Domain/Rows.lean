import Phrasebook.Url.Domain.Direction
import Mathlib.Data.Nat.Notation

/-!
# Ranges that a table says nothing about

Whether a table has a row about a character is decided for a range of characters at once: all rows
have to be outside the range (`Row.IsClearOf`).

* `Row.forall_readAll_cons`: this is decided one line of the table after the other.
* `isFromRight_directionOf`: no character outside two of the tables is written from the right, and
  a name without such characters is not checked for its directions (`directionsFit_of_isFromRight`).
-/

namespace Phrasebook.Url.Domain

open Phrasebook.Text

namespace Row

variable {first last n : ℕ} {rows : List Row}

/-- Whether a row is about no code point from `first` to `last`. -/
def isOutside (first last : ℕ) (r : Row) : Bool :=
  r.last < first || last < r.first

/-- What holds of the rows of each line holds of all rows of a table. -/
theorem forall_readAll_cons {P : Row → Bool} {line : List Char} {lines : List String}
    (hline : ((splitAt ' ' line).map read).all P = true)
    (hlines : ∀ r ∈ readAll lines, P r = true) :
    ∀ r ∈ readAll (String.ofList line :: lines), P r = true := by
  intro r hr
  unfold readAll at hr
  rw [List.flatMap_cons, String.toList_ofList] at hr
  rcases List.mem_append.1 hr with hr | hr
  · exact List.all_eq_true.1 hline r hr
  · exact hlines r hr

theorem forall_readAll_nil {P : Row → Bool} : ∀ r ∈ readAll [], P r = true := fun _ hr => nomatch hr

/-- No row is about a code point from `first` to `last`. -/
def IsClearOf (first last : ℕ) (rows : List Row) : Prop :=
  ∀ r ∈ rows, r.isOutside first last = true

theorem IsClearOf.has_eq_false (h : IsClearOf first last rows) (hfirst : first ≤ n)
    (hlast : n ≤ last) : ∀ r ∈ rows, has n r = false := by
  intro r hr
  have houtside := h r hr
  unfold isOutside at houtside
  unfold has
  simp only [Bool.or_eq_true, Bool.and_eq_false_iff, decide_eq_true_eq,
    decide_eq_false_iff_not] at *
  omega

theorem IsClearOf.find?_eq_none (h : IsClearOf first last rows) (hfirst : first ≤ n)
    (hlast : n ≤ last) : find? rows n = none :=
  List.find?_eq_none.2 fun r hr => Bool.eq_false_iff.1 (h.has_eq_false hfirst hlast r hr)

theorem IsClearOf.anyHas_eq_false {c : Char} (h : IsClearOf first last rows)
    (hfirst : first ≤ c.toNat) (hlast : c.toNat ≤ last) : anyHas rows c = false :=
  List.any_eq_false.2 fun r hr => Bool.eq_false_iff.1 (h.has_eq_false hfirst hlast r hr)

end Row

/-- Characters that are neither letters from right to left nor Arabic digits do not have a name
checked. -/
theorem isFromRight_directionOf {first last : ℕ} {c : Char}
    (hletters : Row.IsClearOf first last (Row.readAll rightText))
    (hnumbers : Row.IsClearOf first last (Row.readAll arabicNumbersText))
    (hfirst : first ≤ c.toNat) (hlast : c.toNat ≤ last) :
    isFromRight (directionOf c) = false := by
  have hletter := hletters.anyHas_eq_false hfirst hlast
  have hnumber := hnumbers.anyHas_eq_false hfirst hlast
  have hrows : ∀ entry ∈ directionRows, isFromRight entry.1 = true →
      Row.anyHas entry.2 c = false := by
    unfold directionRows
    simp only [List.forall_mem_cons, hletter, hnumber]
    simp [isFromRight]
  unfold directionOf
  -- From here on the tables are any tables, so that none is read.
  generalize directionRows = tables at hrows
  split
  · rename_i d rows hfind
    rw [Bool.eq_false_iff]
    intro hright
    have hhas := List.find?_some hfind
    have hnone := hrows _ (List.mem_of_find?_eq_some hfind) hright
    exact Bool.false_ne_true (hnone.symm.trans hhas)
  · rfl

/-- A name with no character from the right is not checked. -/
theorem directionsFit_of_isFromRight {labels : List (List Char)}
    (h : ∀ label ∈ labels, ∀ c ∈ label, isFromRight (directionOf c) = false) :
    directionsFit labels = true := by
  have hnone : (labels.map (·.map directionOf)).any (·.any isFromRight) = false := by
    rw [List.any_eq_false]
    intro directions hdirections hright
    obtain ⟨label, hlabel, rfl⟩ := List.mem_map.1 hdirections
    obtain ⟨direction, hdirection, hright⟩ := List.any_eq_true.1 hright
    obtain ⟨c, hc, rfl⟩ := List.mem_map.1 hdirection
    exact Bool.false_ne_true ((h label hlabel c hc).symm.trans hright)
  exact Bool.or_eq_true_iff.2 (Or.inl (by rw [hnone]; rfl))

/-- No digit is written from the right. -/
theorem isFromRight_directionOf_digit {c : Char} (h : isDigit c = true) :
    isFromRight (directionOf c) = false := by
  have hletters : Row.IsClearOf 0x30 0x39 (Row.readAll rightText) := by
    unfold rightText
    repeat' (apply Row.forall_readAll_cons; decide +kernel)
    exact Row.forall_readAll_nil
  have hnumbers : Row.IsClearOf 0x30 0x39 (Row.readAll arabicNumbersText) := by
    unfold arabicNumbersText
    repeat' (apply Row.forall_readAll_cons; decide +kernel)
    exact Row.forall_readAll_nil
  have hdigit := isDigit_iff.1 h
  exact isFromRight_directionOf hletters hnumbers hdigit.1 hdigit.2

end Phrasebook.Url.Domain
