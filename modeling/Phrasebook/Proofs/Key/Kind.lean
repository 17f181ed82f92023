import Phrasebook.Proofs.Key
import Phrasebook.Proofs.Text.Words

/-!
# Which keys are phrases

A key is a phrase if and only if it has a gap: white space with something else before it and behind
it (`kind_eq_phrase_iff_hasGap`).  So white space at its ends does not matter, and of the gaps it
does not matter how they are written (`kind_eq_of_words_eq`); and names without white space make a
path (`kind_intercalate_dot`).

`KeyKind.tells_inner_blank` puts these together.
-/

namespace Phrasebook

open Phrasebook.Text

variable {key other : String}

theorem kind_eq_phrase_iff_hasGap : KeyKind.of key = .phrase ↔ HasGap key.toList := by
  rw [kind_eq_phrase_iff, wordCount, hasGap_iff_two_le_length_words]

/-- A gap of a key, in texts. -/
theorem hasGap_toList_iff :
    HasGap key.toList ↔
      ∃ (a : String) (w : Char) (b : String), key = a ++ String.singleton w ++ b ∧ isBlank w ∧
        (∃ c ∈ a.toList, ¬ isBlank c) ∧ ∃ c ∈ b.toList, ¬ isBlank c := by
  constructor
  · rintro ⟨a, w, b, hkey, hw, ha, hb⟩
    refine ⟨String.ofList a, w, String.ofList b, ?_, hw, ?_, ?_⟩
    · rw [← String.toList_inj, hkey]
      simp
    · rwa [String.toList_ofList]
    · rwa [String.toList_ofList]
  · rintro ⟨a, w, b, rfl, hw, ha, hb⟩
    exact ⟨a.toList, w, b.toList, by simp, hw, ha, hb⟩

/-- The kind of a key depends on its words only. -/
theorem kind_eq_of_words_eq (h : words other.toList = words key.toList) :
    KeyKind.of other = KeyKind.of key := by
  unfold KeyKind.of
  rw [h]

/-- Names without white space make a path. -/
theorem kind_intercalate_dot {names : List String}
    (h : ∀ name ∈ names, ∀ c ∈ name.toList, ¬ isBlank c) :
    KeyKind.of (".".intercalate names) = .path := by
  refine kind_eq_path_iff.2 (length_words_le_one fun c hc => ?_)
  rw [toList_intercalate_dot, ← joinWith_eq_intercalate] at hc
  obtain hdot | ⟨piece, hpiece, hc⟩ := mem_joinWith hc
  · obtain rfl := List.mem_singleton.1 hdot
    decide
  · obtain ⟨name, hname, rfl⟩ := List.mem_map.1 hpiece
    exact h name hname c hc

/-- **A key is a phrase if and only if it has white space inside**, with something else before it
and behind it.  So neither the white space at its ends nor the way its gaps are written changes its
kind, and names without white space make a path, however many they are. -/
theorem KeyKind.tells_inner_blank (key : String) :
    (KeyKind.of key = .phrase ↔
      ∃ (a : String) (w : Char) (b : String), key = a ++ String.singleton w ++ b ∧ isBlank w ∧
        (∃ c ∈ a.toList, ¬ isBlank c) ∧ ∃ c ∈ b.toList, ¬ isBlank c) ∧
    (KeyKind.of key = .phrase ↔ ∃ w ∈ trim key.toList, isBlank w) ∧
    (∀ before after : String, (∀ c ∈ before.toList, isBlank c) → (∀ c ∈ after.toList, isBlank c) →
      KeyKind.of (before ++ key ++ after) = KeyKind.of key) ∧
    (∀ other : String, Respaced key.toList other.toList → KeyKind.of other = KeyKind.of key) ∧
    ∀ names : List String, (∀ name ∈ names, ∀ c ∈ name.toList, ¬ isBlank c) →
      KeyKind.of (".".intercalate names) = .path := by
  refine ⟨?_, ?_, ?_, ?_, fun names => kind_intercalate_dot⟩
  · rw [kind_eq_phrase_iff_hasGap, hasGap_toList_iff]
  · rw [kind_eq_phrase_iff_hasGap, hasGap_iff_exists_mem_trim]
  · intro before after hbefore hafter
    refine kind_eq_of_words_eq ?_
    rw [String.toList_append, String.toList_append, words_ends hbefore hafter]
  · exact fun other hother => kind_eq_of_words_eq hother.words_eq.symm

/-- A phrase stays one with an ideographic space in front, and with a tab for its two spaces. -/
theorem KeyKind.tells_inner_blank_sample :
    KeyKind.of "two  words" = .phrase ∧
    KeyKind.of "\u3000two  words\u00a0" = .phrase ∧
    Respaced "two  words".toList "two\twords".toList ∧ KeyKind.of "two\twords" = .phrase ∧
    KeyKind.of "\u2003padded " = .path ∧
    KeyKind.of (".".intercalate ["user", "", "name"]) = .path := by
  obtain ⟨hgap, -, hends, hrespaced, hnames⟩ := KeyKind.tells_inner_blank "two  words"
  have hphrase : KeyKind.of "two  words" = .phrase :=
    hgap.2 ⟨"two", ' ', " words", by decide, by decide, ⟨'t', by decide⟩, ⟨'w', by decide⟩⟩
  have hother : Respaced "two  words".toList "two\twords".toList :=
    .gap "two".toList (g := [' ', ' ']) (h := ['\t']) ⟨by simp, by simp [isBlank]⟩
      ⟨by simp, by simp [isBlank]⟩ (.refl "words".toList)
  refine ⟨hphrase, ?_, hother, (hrespaced _ hother).trans hphrase, ?_,
    hnames _ (by simp [isBlank])⟩
  · exact (hends "\u3000" "\u00a0" (by simp [isBlank]) (by simp [isBlank])).trans hphrase
  · obtain ⟨-, -, hpadded, -⟩ := KeyKind.tells_inner_blank "padded"
    exact (hpadded "\u2003" " " (by simp [isBlank]) (by simp [isBlank])).trans
      (hnames ["padded"] (by simp [isBlank]))

end Phrasebook
