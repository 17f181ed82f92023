import Phrasebook.Proofs.Result
import Phrasebook.Proofs.Text.Decimal
import Phrasebook.Proofs.Url.Domain.Punycode
import Phrasebook.Proofs.Url.Domain.Rows
import Phrasebook.Url.Domain.Name

/-!
# Reading names back

A domain name in ASCII is in the spelling of domain names already, and each of its labels is one in
clear (`IsClear`), encoded if it has to be.  So the name stands for the same labels again, except
that a label that is too long to be decoded is refused: `toAscii?_of_eq_some`.

* `isReadable` tells whether no label of a name is too long for that.
* `clearLabel?_encodeLabel`: what becomes of one label.
* `toAscii?_joinWith`: numbers with dots between them are a name in ASCII.
-/

namespace Phrasebook.Url.Domain

open Phrasebook.Text

variable {s name label : List Char} {labels : List (List Char)}

/-! ### Labels -/

/-- Whether a label is in clear, or short enough to be decoded. -/
def isReadableLabel (label : List Char) : Bool :=
  !encodedMark.isPrefixOf label || (label.drop encodedMark.length).length ≤ encodedLimit

/-- Whether all labels of a name in ASCII are in clear, or short enough to be decoded. -/
def isReadable (name : List Char) : Bool :=
  (splitAt '.' name).all isReadableLabel

/-- A label in clear of some name. -/
structure IsClear (label : List Char) : Prop where
  fits : isLabel label = true
  noDot : '.' ∉ label
  unmarked : isAscii label = true → encodedMark.isPrefixOf label = false

/-- Whether a character is what a name in ASCII is written with between dots. -/
def isNameChar (c : Char) : Bool :=
  c.toNat < 0x80 && !c.isUpper && c != '.'

theorem isClear_of_clearLabel? (hdot : '.' ∉ s) (h : clearLabel? s = some label) :
    IsClear label := by
  unfold clearLabel? at h
  split_ifs at h with hmark hlabel
  · unfold decodeLabel? at h
    split_ifs at h with hlimit
    obtain ⟨hdecode, hlabel⟩ := (Option.filter_eq_some_iff).1 h
    obtain ⟨hfrom, c, hc, hge⟩ := Punycode.of_decode?_eq_some hdecode
    refine ⟨hlabel, fun hmem => ?_, fun hascii => ?_⟩
    · rcases hfrom '.' hmem with hmem | hge
      · exact hdot (List.mem_of_mem_drop hmem)
      · exact absurd hge (by decide)
    · have hlt := of_decide_eq_true (List.all_eq_true.1 hascii c hc)
      omega
  · obtain rfl := Option.some.inj h
    exact ⟨hlabel, hdot, fun _ => Bool.eq_false_iff.2 hmark⟩

theorem isUpper_of_isValid {c : Char} (hvalid : isValid c = true) (hascii : c.toNat < 0x80) :
    c.isUpper = false := by
  unfold isValid at hvalid
  rw [if_pos hascii] at hvalid
  exact Bool.not_eq_true' _ ▸ hvalid

namespace IsClear

theorem isNameChar_of_mem (h : IsClear label) {c : Char} (hc : c ∈ label)
    (hascii : c.toNat < 0x80) :
    isNameChar c = true := by
  have hvalid := List.all_eq_true.1 (Bool.and_eq_true_iff.1 h.fits).1 c hc
  have hdot : c ≠ '.' := fun heq => h.noDot (heq ▸ hc)
  simp [isNameChar, hascii, isUpper_of_isValid hvalid hascii, hdot]

theorem length_le (h : IsClear label) (hbeyond : isAscii label = false) :
    label.length ≤ clearLimit := by
  have hfits := h.fits
  unfold isLabel at hfits
  simp only [hbeyond, Bool.false_or, Bool.and_eq_true, decide_eq_true_eq] at hfits
  exact hfits.2.2

theorem isNameChar_encodeLabel (h : IsClear label) :
    ∀ c ∈ encodeLabel label, isNameChar c = true := by
  unfold encodeLabel
  split_ifs with hascii
  · exact fun c hc => h.isNameChar_of_mem hc (of_decide_eq_true (List.all_eq_true.1 hascii c hc))
  · intro c hc
    rcases List.mem_append.1 hc with hc | hc
    · exact List.all_eq_true.1 (by decide : encodedMark.all isNameChar = true) c hc
    · exact Punycode.forall_mem_encode (P := fun c => isNameChar c = true)
        (h.length_le (Bool.eq_false_iff.2 hascii)) (fun c hc hlt => h.isNameChar_of_mem hc hlt)
        (by decide) (by decide) c hc

/-- A label in clear that has been encoded is read back, if it is short enough. -/
theorem clearLabel?_encodeLabel (h : IsClear label) :
    clearLabel? (encodeLabel label) =
      if isReadableLabel (encodeLabel label) then some label else none := by
  have hchars := h.isNameChar_encodeLabel
  unfold encodeLabel at hchars ⊢
  split_ifs at hchars ⊢ with hascii hreadable hreadable
  · unfold clearLabel?
    rw [h.unmarked hascii, if_neg Bool.false_ne_true, if_pos h.fits]
  · unfold isReadableLabel at hreadable
    rw [h.unmarked hascii] at hreadable
    exact absurd rfl hreadable
  all_goals
    have hmark : encodedMark.isPrefixOf (encodedMark ++ Punycode.encode label) = true :=
      List.isPrefixOf_iff_prefix.2 (List.prefix_append _ _)
    have hascii' : isAscii (Punycode.encode label) = true := by
      refine List.all_eq_true.2 fun c hc => ?_
      have hchar := hchars c (List.mem_append_right _ hc)
      unfold isNameChar at hchar
      exact (Bool.and_eq_true_iff.1 (Bool.and_eq_true_iff.1 hchar).1).1
    unfold isReadableLabel at hreadable
    rw [hmark, List.drop_left] at hreadable
    unfold clearLabel? decodeLabel?
    rw [if_pos hmark, List.drop_left, hascii']
  · -- The label has been encoded, and is decoded if it is short enough.
    have hbeyond : ∃ c ∈ label, 0x80 ≤ c.toNat := by
      simpa [isAscii] using hascii
    have hdecode := Punycode.decode?_encode (h.length_le (Bool.eq_false_iff.2 hascii)) hbeyond
    rw [if_pos (by simpa using hreadable), hdecode, Option.filter_some, if_pos h.fits]
  · rw [if_neg (by simpa using hreadable)]

end IsClear

/-! ### Names -/

theorem mapping?_of_isAscii {c : Char} (hascii : c.toNat < 0x80) (hupper : c.isUpper = false) :
    mapping? c = some [c] := by
  have hall : ∀ n < 0x80, (Char.ofNat n).isUpper = false →
      (Char.ofNat n).toLower = Char.ofNat n := by decide
  have hlower := hall c.toNat hascii
  rw [Char.ofNat_toNat] at hlower
  unfold mapping?
  rw [if_pos hascii, hlower hupper]

/-- A name in ASCII without capital letters is in the spelling of domain names. -/
theorem spell?_eq_self (hascii : ∀ c ∈ name, c.toNat < 0x80)
    (hupper : ∀ c ∈ name, c.isUpper = false) : spell? name = some name := by
  have hall : isAscii name = true := List.all_eq_true.2 fun c hc => decide_eq_true (hascii c hc)
  have hmap : name.mapM mapping? = some (name.map fun c => [c]) :=
    mapM_eq_some_map fun c hc => mapping?_of_isAscii (hascii c hc) (hupper c hc)
  have hflatten : (name.map fun c => [c]).flatten = name := by
    rw [← List.flatMap_def, List.flatMap_singleton']
  unfold spell?
  rw [hmap, Option.map_some, hflatten, if_pos hall]

theorem encodeLabels_eq (labels : List (List Char)) :
    encodeLabels labels = joinWith ['.'] (labels.map encodeLabel) :=
  rfl

/-- The labels of a name in ASCII are those that it has been put together from. -/
theorem splitAt_encodeLabels (hne : labels ≠ []) (h : ∀ label ∈ labels, IsClear label) :
    splitAt '.' (encodeLabels labels) = labels.map encodeLabel := by
  refine splitAt_joinWith (by simpa using hne) fun piece hpiece hdot => ?_
  obtain ⟨label, hlabel, rfl⟩ := List.mem_map.1 hpiece
  exact absurd ((h label hlabel).isNameChar_encodeLabel '.' hdot) (by decide)

/-- **A name that has been put together from labels in clear stands for them**, if none is too long
when it is encoded. -/
theorem toAscii?_encodeLabels (hne : labels ≠ []) (h : ∀ label ∈ labels, IsClear label)
    (hdirections : directionsFit labels = true) :
    toAscii? (encodeLabels labels) =
      if isReadable (encodeLabels labels) then some (encodeLabels labels) else none := by
  have hchars : ∀ c ∈ encodeLabels labels, c.toNat < 0x80 ∧ c.isUpper = false := by
    intro c hc
    rcases mem_joinWith hc with hdot | ⟨piece, hpiece, hc⟩
    · rw [List.mem_singleton.1 hdot]
      decide
    · obtain ⟨label, hlabel, rfl⟩ := List.mem_map.1 hpiece
      have hchar := (h label hlabel).isNameChar_encodeLabel c hc
      simp only [isNameChar, Bool.and_eq_true, decide_eq_true_eq, Bool.not_eq_true'] at hchar
      exact hchar.1
  -- The name is in ASCII and has no capitals, so it is spelled as it stands.
  have hspell := spell?_eq_self (fun c hc => (hchars c hc).1) fun c hc => (hchars c hc).2
  have hlabels : (splitAt '.' (encodeLabels labels)).mapM clearLabel? =
      if isReadable (encodeLabels labels) then some labels else none := by
    unfold isReadable
    have hmap := mapM_eq_ite (f := clearLabel? ∘ encodeLabel) (p := isReadableLabel ∘ encodeLabel)
      (g := id) fun label hlabel => (h label hlabel).clearLabel?_encodeLabel
    rw [splitAt_encodeLabels hne h, List.mapM_map, List.all_map, hmap, List.map_id]
  unfold toAscii? clearLabels?
  rw [hspell, Option.bind_some, hlabels]
  split_ifs with hreadable
  · rw [Option.filter_some, if_pos hdirections, Option.map_some]
  · rfl

/-- The name in ASCII of a text is put together from labels in clear. -/
theorem exists_labels_of_toAscii? (h : toAscii? s = some name) :
    ∃ labels, labels ≠ [] ∧ (∀ label ∈ labels, IsClear label) ∧ directionsFit labels = true ∧
      encodeLabels labels = name := by
  obtain ⟨labels, hlabels, rfl⟩ := Option.map_eq_some_iff.1 h
  obtain ⟨spelled, -, hclear⟩ := Option.bind_eq_some_iff.1 hlabels
  obtain ⟨hmap, hdirections⟩ := Option.filter_eq_some_iff.1 hclear
  refine ⟨labels, ne_nil_of_mapM (splitAt_ne_nil _ _) hmap, ?_, hdirections, rfl⟩
  exact forall_mem_of_mapM
    (fun piece hpiece _ => isClear_of_clearLabel? (not_mem_of_mem_splitAt hpiece)) hmap

/-- **A name in ASCII is in ASCII already**, but it is refused if a label is too long to be decoded.
-/
theorem toAscii?_of_eq_some (h : toAscii? s = some name) :
    toAscii? name = if isReadable name then some name else none := by
  obtain ⟨labels, hne, hclear, hdirections, rfl⟩ := exists_labels_of_toAscii? h
  exact toAscii?_encodeLabels hne hclear hdirections

/-! ### Numbers with dots between them -/

theorem isClear_of_isDigit (h : ∀ c ∈ label, isDigit c = true) :
    IsClear label ∧ isAscii label = true ∧ encodedMark.isPrefixOf label = false := by
  have hdigit : ∀ {c}, isDigit c = true → c.toNat < 0x80 ∧ isValid c = true ∧ c ≠ '.' := fun hc =>
    forall_isDigit (P := fun c => c.toNat < 0x80 ∧ isValid c = true ∧ c ≠ '.') (by decide) hc
  have hascii : isAscii label = true :=
    List.all_eq_true.2 fun c hc => decide_eq_true (hdigit (h c hc)).1
  have hmark : encodedMark.isPrefixOf label = false := by
    rw [Bool.eq_false_iff]
    intro hmark
    obtain ⟨rest, rfl⟩ := List.isPrefixOf_iff_prefix.1 hmark
    exact absurd (h 'x' (List.mem_append_left _ (by decide))) (by decide)
  have hvalid : label.all isValid = true := List.all_eq_true.2 fun c hc => (hdigit (h c hc)).2.1
  refine ⟨⟨?_, fun hdot => (hdigit (h '.' hdot)).2.2 rfl, fun _ => hmark⟩, hascii, hmark⟩
  unfold isLabel
  rw [hvalid, hascii]
  rfl

/-- Numbers with dots between them are a name in ASCII. -/
theorem toAscii?_joinWith (hne : labels ≠ [])
    (h : ∀ label ∈ labels, ∀ c ∈ label, isDigit c = true) :
    toAscii? (joinWith ['.'] labels) = some (joinWith ['.'] labels) := by
  have hlabel := fun label hlabel => isClear_of_isDigit (h label hlabel)
  have hclear : ∀ label ∈ labels, IsClear label := fun label hmem => (hlabel label hmem).1
  -- Labels of digits are written as they stand, and so is the name.
  have hself : labels.map encodeLabel = labels.map id :=
    List.map_congr_left fun label hmem => if_pos (hlabel label hmem).2.1
  rw [List.map_id] at hself
  have hencode : encodeLabels labels = joinWith ['.'] labels := by rw [encodeLabels_eq, hself]
  have hreadable : isReadable (encodeLabels labels) = true := by
    unfold isReadable
    rw [splitAt_encodeLabels hne hclear, hself, List.all_eq_true]
    intro label hmem
    unfold isReadableLabel
    rw [(hlabel label hmem).2.2]
    rfl
  have hdirections : directionsFit labels = true := directionsFit_of_isFromRight
    fun label hmem c hc => isFromRight_directionOf_digit (h label hmem c hc)
  have hascii := toAscii?_encodeLabels hne hclear hdirections
  rwa [if_pos hreadable, hencode] at hascii

end Phrasebook.Url.Domain
