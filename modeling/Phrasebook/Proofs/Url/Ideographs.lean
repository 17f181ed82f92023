import Phrasebook.Proofs.Url.Domain.Ideographs
import Phrasebook.Proofs.Url.Parser

/-!
# URLs with ideographs

A URL whose host is a label of ideographs is read (`parse_ideographUrl`), and its host is the
encoded label.  If the label is long and its ideographs are far apart, then the URL cannot be read
as it is written: `isReadable_of_isIdeograph`, and `longLabel` is such a label.
-/

namespace Phrasebook.Url

open Phrasebook.Text

variable {s : List Char}

namespace Host

/-- The name in ASCII of a label of ideographs is the host. -/
theorem parseSpecial_of_isIdeograph (hne : s ≠ []) (h : ∀ c ∈ s, Domain.isIdeograph c = true)
    (hlength : s.length ≤ Domain.clearLimit) :
    parseSpecial s = .ok (.domain (Domain.encodedMark ++ Domain.Punycode.encode s)) := by
  obtain ⟨hascii, hsplit⟩ := Domain.toAscii?_of_isIdeograph hne h hlength
  have hnot : ∀ {c}, Domain.isIdeograph c = false → c ∉ s := Domain.not_mem_of_isIdeograph h
  have hallowed :
      (Domain.encodedMark ++ Domain.Punycode.encode s).any isForbiddenInDomain = false := by
    have hmark : Domain.encodedMark.any isForbiddenInDomain = false := by decide
    have hencode := Domain.Punycode.forall_mem_encode (P := fun c => isForbiddenInDomain c = false)
      hlength (fun c hc hlt => by
        have := (Domain.isIdeograph_iff.1 (h c hc)).1
        omega) (by decide) (by decide)
    rw [List.any_append, hmark, Bool.false_or]
    exact List.any_eq_false.2 fun c hc => Bool.eq_false_iff.1 (hencode c hc)
  have hnamed : endsInNumber (Domain.encodedMark ++ Domain.Punycode.encode s) = false := by
    unfold endsInNumber labels
    rw [hsplit]
    rfl
  rw [parseSpecial_of_toAscii? (hnot (by decide)) (hnot (by decide)) hascii hallowed rfl, hnamed,
    if_neg Bool.false_ne_true]

/-- A host that is written with ideographs ends where they end. -/
theorem isDelimited_of_isIdeograph (hne : s ≠ []) (h : ∀ c ∈ s, Domain.isIdeograph c = true) :
    (Host.plain s).IsDelimited where
  nonempty := hne
  plain := fun c hc => by
    have hfirst := (Domain.isIdeograph_iff.1 (h c hc)).1
    have hne : ∀ {d}, Domain.isIdeograph d = false → c ≠ d := fun hd heq =>
      Bool.false_ne_true (hd.symm.trans (heq ▸ h c hc))
    have hsigns : c ≠ '?' ∧ c ≠ '#' ∧ c ≠ '/' ∧ c ≠ '\\' :=
      ⟨hne (by decide), hne (by decide), hne (by decide), hne (by decide)⟩
    have hplain : 0x20 < c.toNat := by omega
    simp [isPlainInAuthority, isPlain, isSlash, hsigns, hplain]
  noAt := fun hmem => absurd (h '@' hmem) (by decide)
  cut := cutSocket_append fun c hc => by
    refine ⟨?_, ?_, ?_⟩
    all_goals
      rintro rfl
      exact absurd (h _ hc) (by decide)

end Host

/-- A URL as it may be written with ideographs in place of the host. -/
def ideographUrl (s : List Char) : Url where
  scheme := "http".toList
  location := .served ⟨[], [], .plain s, none⟩ [[]]
  query := none
  fragment := none

/-- **A URL with ideographs in place of the host is read.** -/
theorem parse_ideographUrl (hne : s ≠ []) (h : ∀ c ∈ s, Domain.isIdeograph c = true)
    (hlength : s.length ≤ Domain.clearLimit) :
    parse (ideographUrl s).toString =
      .ok ⟨"http".toList,
        .served ⟨[], [], .domain (Domain.encodedMark ++ Domain.Punycode.encode s), none⟩ [[]],
        none, none⟩ := by
  have hauthority : (⟨[], [], .plain s, none⟩ : Authority).IsKept "http".toList :=
    { username := fun c hc => nomatch hc
      password := fun c hc => nomatch hc
      host := Host.isDelimited_of_isIdeograph hne h
      socket := fun n hn => nomatch hn }
  have hpath : ∀ segment ∈ [[]], IsSegment segment := fun segment hsegment =>
    List.mem_singleton.1 hsegment ▸ isSegment_nil
  -- It is a kept URL with the label as it stands in place of the host, so only the host is read
  -- anew.
  have hkept : (ideographUrl s).IsKept :=
    { special := show isSpecial "http".toList = true by decide
      web := show "http".toList ≠ fileScheme by decide
      location := .served hauthority (List.cons_ne_nil _ _) hpath
      query := fun _ hq => nomatch hq
      fragment := fun _ hf => nomatch hf }
  rw [hkept.parse_toString_eq_map rfl]
  show Except.map _ (Host.parseSpecial s) = _
  rw [Host.parseSpecial_of_isIdeograph hne h hlength]
  rfl

/-! ### A label that is too long -/

/-- If there are many ideographs, and they are far apart, then the encoded label is too long to be
decoded. -/
theorem isReadable_of_isIdeograph (hne : s ≠ []) (h : ∀ c ∈ s, Domain.isIdeograph c = true)
    (hlength : s.length ≤ Domain.clearLimit) (hmany : 2102 < 3 * s.length)
    (hsorted : s.Pairwise fun c d => c.toNat + 28 ≤ d.toNat) :
    Domain.isReadable (Domain.encodedMark ++ Domain.Punycode.encode s) = false := by
  have hencode := Domain.Punycode.le_length_encode hsorted fun c hc => by
    have := (Domain.isIdeograph_iff.1 (h c hc)).1
    omega
  have hmark : Domain.encodedMark.isPrefixOf
      (Domain.encodedMark ++ Domain.Punycode.encode s) = true :=
    List.isPrefixOf_iff_prefix.2 (List.prefix_append _ _)
  have hlong : ¬ (Domain.Punycode.encode s).length ≤ Domain.encodedLimit := by
    unfold Domain.encodedLimit
    omega
  unfold Domain.isReadable
  rw [(Domain.toAscii?_of_isIdeograph hne h hlength).2, List.all_cons, Domain.isReadableLabel,
    hmark, List.drop_left, decide_eq_false hlong]
  rfl

/-- Ideographs that are far apart. -/
def longLabel : List Char :=
  (List.range 750).map fun j => Char.ofNat (0x4E00 + 28 * j)

theorem length_longLabel : longLabel.length = 750 := by
  simp [longLabel]

theorem toNat_of_lt {j : ℕ} (h : j < 750) :
    (Char.ofNat (0x4E00 + 28 * j)).toNat = 0x4E00 + 28 * j :=
  Utf8.toNat_ofNat_of_valid (Or.inl (by omega))

theorem isIdeograph_of_mem_longLabel : ∀ c ∈ longLabel, Domain.isIdeograph c = true := by
  intro c hc
  obtain ⟨j, hj, rfl⟩ := List.mem_map.1 hc
  rw [Domain.isIdeograph_iff, toNat_of_lt (List.mem_range.1 hj)]
  have := List.mem_range.1 hj
  omega

theorem pairwise_longLabel : longLabel.Pairwise fun c d => c.toNat + 28 ≤ d.toNat := by
  unfold longLabel
  rw [List.pairwise_map]
  refine List.Pairwise.imp_of_mem (fun {i j} hi hj hlt => ?_) List.pairwise_lt_range
  rw [toNat_of_lt (List.mem_range.1 hi), toNat_of_lt (List.mem_range.1 hj)]
  omega

/-- A URL with these ideographs is read, and cannot be read as it is written. -/
theorem parse_longLabel :
    parse (ideographUrl longLabel).toString =
      .ok ⟨"http".toList, .served ⟨[], [], .domain
        (Domain.encodedMark ++ Domain.Punycode.encode longLabel), none⟩ [[]], none, none⟩ ∧
    isReadable ⟨"http".toList, .served ⟨[], [], .domain
      (Domain.encodedMark ++ Domain.Punycode.encode longLabel), none⟩ [[]], none, none⟩ =
        false := by
  have hne : longLabel ≠ [] := List.ne_nil_of_length_pos (by rw [length_longLabel]; decide)
  have hlength : longLabel.length ≤ Domain.clearLimit := by
    rw [length_longLabel]
    decide
  have hmany : 2102 < 3 * longLabel.length := by
    rw [length_longLabel]
    decide
  exact ⟨parse_ideographUrl hne isIdeograph_of_mem_longLabel hlength,
    isReadable_of_isIdeograph hne isIdeograph_of_mem_longLabel hlength hmany pairwise_longLabel⟩

end Phrasebook.Url
