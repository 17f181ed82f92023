import Phrasebook.Proofs.Text.Split
import Mathlib.Data.List.DropRight

/-!
# Words and the white space between them

A text is cut into its words at any of its white space (`words_append_cons`), and all that is said
of words here comes from this one equation.

* `exists_trim`: trimming removes white space at the two ends and nothing else, and
  `not_isBlank_head_trim`, `not_isBlank_getLast_trim`: all that there is at the ends.
* `words_ends`: white space at the ends belongs to no word, so trimming keeps the words
  (`words_trim`).
* `HasGap s`: the text has white space with something else before it and behind it.  This is so if
  it has two words or more (`hasGap_iff_two_le_length_words`), and if there is white space in what
  trimming leaves (`hasGap_iff_exists_mem_trim`).
* `Respaced s t`: the texts are the same up to how long their gaps are and which white space they
  have.  Such texts have the same words (`Respaced.words_eq`).
-/

namespace Phrasebook.Text

variable {s t g before after : List Char} {w : Char}

/-! ### Words -/

/-- A text is cut into its words at any white space. -/
theorem words_append_cons (hw : isBlank w) (s t : List Char) :
    words (s ++ w :: t) = words s ++ words t := by
  simp only [words, pieces_eq_splitOnP]
  rw [List.splitOnP_append_cons s t hw, List.filter_append]

theorem words_cons_of_isBlank (hw : isBlank w) (s : List Char) : words (w :: s) = words s :=
  words_append_cons hw [] s

/-- A character that is no white space belongs to a word. -/
theorem words_cons_ne_nil (hw : ¬ isBlank w) (s : List Char) : words (w :: s) ≠ [] := by
  obtain ⟨piece, rest, hs⟩ := List.exists_cons_of_ne_nil (pieces_ne_nil isBlank s)
  rw [words, pieces, if_neg hw, hs]
  exact List.cons_ne_nil _ _

theorem words_eq_nil_iff : words s = [] ↔ ∀ c ∈ s, isBlank c := by
  induction s with
  | nil => exact ⟨fun _ c hc => absurd hc List.not_mem_nil, fun _ => rfl⟩
  | cons c s ih =>
    rw [List.forall_mem_cons]
    by_cases hc : isBlank c
    · rw [words_cons_of_isBlank hc, ih, and_iff_right hc]
    · exact ⟨fun heq => absurd heq (words_cons_ne_nil hc s), fun hall => absurd hall.1 hc⟩

/-- A text with something else than white space has a word. -/
theorem length_words_pos_iff : 0 < (words s).length ↔ ∃ c ∈ s, ¬ isBlank c := by
  rw [List.length_pos_iff_ne_nil, Ne, words_eq_nil_iff]
  push Not
  rfl

/-- A text without white space is one word at most. -/
theorem length_words_le_one (hs : ∀ c ∈ s, ¬ isBlank c) : (words s).length ≤ 1 := by
  have hpieces : pieces isBlank s = [s] := by
    rw [pieces_eq_splitOnP]
    exact List.splitOnP_eq_singleton fun c hc => by simpa using hs c hc
  rw [words, hpieces]
  exact List.length_filter_le _ _

theorem words_append_of_blank (hbefore : ∀ c ∈ before, isBlank c) (s : List Char) :
    words (before ++ s) = words s := by
  induction before with
  | nil => rfl
  | cons w before ih =>
    obtain ⟨hw, hbefore⟩ := List.forall_mem_cons.1 hbefore
    rw [List.cons_append, words_cons_of_isBlank hw, ih hbefore]

/-- White space at the ends belongs to no word. -/
theorem words_ends (hbefore : ∀ c ∈ before, isBlank c) (hafter : ∀ c ∈ after, isBlank c)
    (s : List Char) : words (before ++ s ++ after) = words s := by
  rw [List.append_assoc, words_append_of_blank hbefore]
  cases after with
  | nil => rw [List.append_nil]
  | cons w after =>
    obtain ⟨hw, hafter⟩ := List.forall_mem_cons.1 hafter
    rw [words_append_cons hw, words_eq_nil_iff.2 hafter, List.append_nil]

/-! ### Trimming -/

/-- Trimming removes nothing but white space at the ends. -/
theorem exists_trim (s : List Char) :
    ∃ before after, s = before ++ trim s ++ after ∧
      (∀ c ∈ before, isBlank c) ∧ ∀ c ∈ after, isBlank c := by
  refine ⟨s.takeWhile isBlank, (trimStart s).rtakeWhile isBlank, ?_, ?_, ?_⟩
  · have hend : trim s ++ (trimStart s).rtakeWhile isBlank = trimStart s :=
      List.rdropWhile_append_rtakeWhile
    rw [List.append_assoc, hend]
    exact List.takeWhile_append_dropWhile.symm
  · exact fun c hc => List.mem_takeWhile_imp hc
  · exact fun c hc => List.mem_rtakeWhile_imp hc

theorem not_isBlank_getLast_trim (hs : trim s ≠ []) : ¬ isBlank ((trim s).getLast hs) :=
  List.rdropWhile_last_not _ _ hs

/-- What is trimmed at its end begins as before. -/
theorem not_isBlank_head_trim (hs : trim s ≠ []) : ¬ isBlank ((trim s).head hs) := by
  have hstart : trim s <+: trimStart s := List.rdropWhile_prefix _ _
  rw [hstart.head hs]
  exact ne_true_of_eq_false (List.head_dropWhile_not isBlank _)

theorem words_trim (s : List Char) : words (trim s) = words s := by
  obtain ⟨before, after, hs, hbefore, hafter⟩ := exists_trim s
  conv_rhs => rw [hs]
  exact (words_ends hbefore hafter _).symm

/-! ### Gaps -/

/-- The text has white space with something else before it and behind it. -/
def HasGap (s : List Char) : Prop :=
  ∃ a w b, s = a ++ w :: b ∧ isBlank w ∧ (∃ c ∈ a, ¬ isBlank c) ∧ ∃ c ∈ b, ¬ isBlank c

theorem HasGap.two_le_length_words (hs : HasGap s) : 2 ≤ (words s).length := by
  obtain ⟨a, w, b, rfl, hw, ha, hb⟩ := hs
  rw [words_append_cons hw, List.length_append]
  exact Nat.add_le_add (length_words_pos_iff.2 ha) (length_words_pos_iff.2 hb)

/-- White space that trimming leaves lies in a gap. -/
theorem hasGap_of_mem_trim (hmem : w ∈ trim s) (hw : isBlank w) : HasGap s := by
  obtain ⟨before, after, hs, -, -⟩ := exists_trim s
  obtain ⟨a, b, htrim⟩ := List.append_of_mem hmem
  have hne : trim s ≠ [] := List.ne_nil_of_mem hmem
  refine ⟨before ++ a, w, b ++ after, ?_, hw, ?_, ?_⟩
  · rw [hs, htrim]
    simp
  · -- what is trimmed does not begin with this white space, so it begins before it
    have hhead := not_isBlank_head_trim hne
    cases a with
    | nil => simp [htrim, hw] at hhead
    | cons c a => exact ⟨c, by simp, by simpa [htrim] using hhead⟩
  · have hlast := not_isBlank_getLast_trim hne
    rcases List.eq_nil_or_concat b with rfl | ⟨b, c, rfl⟩
    · simp [htrim, hw] at hlast
    · exact ⟨c, by simp, by simpa [htrim] using hlast⟩

theorem exists_mem_trim_of_two_le (hs : 2 ≤ (words s).length) : ∃ w ∈ trim s, isBlank w := by
  by_contra hnone
  push Not at hnone
  have hle := length_words_le_one (s := trim s) (by simpa using hnone)
  rw [words_trim] at hle
  omega

/-- Two words or more have a gap between them. -/
theorem hasGap_iff_two_le_length_words : HasGap s ↔ 2 ≤ (words s).length := by
  refine ⟨HasGap.two_le_length_words, fun hs => ?_⟩
  obtain ⟨w, hmem, hw⟩ := exists_mem_trim_of_two_le hs
  exact hasGap_of_mem_trim hmem hw

theorem hasGap_iff_exists_mem_trim : HasGap s ↔ ∃ w ∈ trim s, isBlank w :=
  ⟨fun hs => exists_mem_trim_of_two_le hs.two_le_length_words,
    fun ⟨_, hmem, hw⟩ => hasGap_of_mem_trim hmem hw⟩

/-! ### Writing gaps in another way -/

/-- White space, of one character or more. -/
structure IsGap (g : List Char) : Prop where
  ne_nil : g ≠ []
  blank : ∀ c ∈ g, isBlank c

/-- `Respaced s t`: the texts are the same but for gaps, in whose place the other text has gaps too,
shorter or longer ones and of any white space. -/
inductive Respaced : List Char → List Char → Prop
  | refl (s : List Char) : Respaced s s
  | gap (l : List Char) {g h s t : List Char} (hg : IsGap g) (hh : IsGap h) (hst : Respaced s t) :
      Respaced (l ++ g ++ s) (l ++ h ++ t)

/-- A text is cut into its words at any gap, whatever the gap consists of. -/
theorem words_append_gap (hg : IsGap g) (s t : List Char) :
    words (s ++ g ++ t) = words s ++ words t := by
  obtain ⟨hne, hblank⟩ := hg
  cases g with
  | nil => exact absurd rfl hne
  | cons w g =>
    obtain ⟨hw, hg⟩ := List.forall_mem_cons.1 hblank
    rw [List.append_assoc, List.cons_append, words_append_cons hw, words_append_of_blank hg]

/-- Words do not depend on how the gaps between them are written. -/
theorem Respaced.words_eq (hst : Respaced s t) : words s = words t := by
  induction hst with
  | refl s => rfl
  | gap l hg hh hst ih => rw [words_append_gap hg, words_append_gap hh, ih]

end Phrasebook.Text
