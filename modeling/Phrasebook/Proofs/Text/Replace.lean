import Phrasebook.Text.Replace
import Mathlib.Data.List.Infix

/-!
# Laws of replacing

`replaceAll` reads a text from left to right.  At each place it meets an occurrence of the pattern
as a whole (`replaceAll_append`), or a character that it leaves (`replaceAll_cons`), so what holds
of all texts is proved by the same two steps: `occurrence_induction`.

* `length_replaceAll`: how the length changes.
* `mem_of_mem_replaceAll`: where a character comes from.
* `replaceAll_append_cons`: a character that the pattern does not have keeps the texts on both
  sides of it apart.
* `eq_of_replaceAll_eq_self`: a text with an occurrence changes, unless the pattern is replaced by
  itself.
-/

namespace Phrasebook.Text

theorem replaceFrom_drop (pattern new l s : List Char) :
    replaceFrom pattern new l.length (l ++ s) = replaceFrom pattern new 0 s := by
  induction l with
  | nil => rfl
  | cons c l ih => exact ih

/-- An occurrence at the start is replaced, and the search goes on behind it. -/
theorem replaceAll_append {pattern : List Char} (hne : pattern ≠ []) (new s : List Char) :
    replaceAll pattern new (pattern ++ s) = new ++ replaceAll pattern new s := by
  obtain ⟨c, cs, rfl⟩ := List.exists_cons_of_ne_nil hne
  have hpre : (c :: cs).isPrefixOf (c :: (cs ++ s)) = true :=
    List.isPrefixOf_iff_prefix.2 (List.prefix_append (c :: cs) s)
  unfold replaceAll
  rw [List.cons_append, replaceFrom, if_pos hpre, List.length_cons, Nat.add_sub_cancel,
    replaceFrom_drop]

/-- Where no occurrence begins the character stays. -/
theorem replaceAll_cons {pattern s : List Char} {c : Char} (h : ¬ pattern <+: c :: s)
    (new : List Char) : replaceAll pattern new (c :: s) = c :: replaceAll pattern new s := by
  unfold replaceAll
  rw [replaceFrom, if_neg fun hpre => h (List.isPrefixOf_iff_prefix.1 hpre)]

@[simp] theorem replaceAll_nil (pattern new : List Char) : replaceAll pattern new [] = [] := by
  simp [replaceAll, replaceFrom]

/-- A text is empty, or begins with one of some patterns, or begins with a character at which none
of them does. -/
theorem occurrence_induction {patterns : List (List Char)} (hne : ∀ p ∈ patterns, p ≠ [])
    {motive : List Char → Prop} (nil : motive [])
    (occurrence : ∀ p ∈ patterns, ∀ s, motive s → motive (p ++ s))
    (other : ∀ c s, (∀ p ∈ patterns, ¬ p <+: c :: s) → motive s → motive (c :: s))
    (s : List Char) : motive s := by
  induction h : s.length using Nat.strong_induction_on generalizing s with
  | _ n ih =>
    cases s with
    | nil => exact nil
    | cons c s =>
      subst h
      by_cases hpre : ∃ p ∈ patterns, p <+: c :: s
      · -- An occurrence is passed at once, and as it is not empty the rest is shorter.
        obtain ⟨p, hp, t, ht⟩ := hpre
        have hlen : t.length < (c :: s).length := by
          have hpos := List.length_pos_of_ne_nil (hne p hp)
          rw [← ht, List.length_append]
          omega
        rw [← ht]
        exact occurrence p hp t (ih _ hlen t rfl)
      · refine other c s (fun p hp h => hpre ⟨p, hp, h⟩) (ih _ ?_ s rfl)
        exact Nat.lt_succ_self _

/-- Each occurrence that is replaced changes the length by the same number. -/
theorem length_replaceAll {pattern : List Char} (hne : pattern ≠ []) (new s : List Char) :
    ∃ n, (replaceAll pattern new s).length + n * pattern.length = s.length + n * new.length := by
  have hpatterns : ∀ p ∈ [pattern], p ≠ [] := by simpa using hne
  induction s using occurrence_induction hpatterns with
  | nil => exact ⟨0, by simp⟩
  | occurrence p hp s ih =>
    obtain rfl := List.mem_singleton.1 hp
    obtain ⟨n, hn⟩ := ih
    refine ⟨n + 1, ?_⟩
    rw [replaceAll_append hne, List.length_append, List.length_append, Nat.add_mul, Nat.add_mul]
    omega
  | other c s hpre ih =>
    obtain ⟨n, hn⟩ := ih
    refine ⟨n, ?_⟩
    rw [replaceAll_cons (hpre pattern List.mem_cons_self), List.length_cons, List.length_cons]
    omega

/-- A character of the result has been put in, or has been there. -/
theorem mem_of_mem_replaceAll {pattern : List Char} (hne : pattern ≠ []) {new s : List Char}
    {c : Char} (h : c ∈ replaceAll pattern new s) : c ∈ new ∨ c ∈ s := by
  have hpatterns : ∀ p ∈ [pattern], p ≠ [] := by simpa using hne
  induction s using occurrence_induction hpatterns with
  | nil => simp at h
  | occurrence p hp s ih =>
    obtain rfl := List.mem_singleton.1 hp
    rw [replaceAll_append hne, List.mem_append] at h
    rcases h with h | h
    · exact Or.inl h
    · exact (ih h).imp_right (List.mem_append_right p)
  | other d s hpre ih =>
    rw [replaceAll_cons (hpre pattern List.mem_cons_self), List.mem_cons] at h
    rcases h with rfl | h
    · exact Or.inr List.mem_cons_self
    · exact (ih h).imp_right (List.mem_cons_of_mem d)

/-- No occurrence of a pattern goes across a character that it does not have. -/
theorem replaceAll_append_cons {pattern : List Char} (hne : pattern ≠ []) {sep : Char}
    (hsep : sep ∉ pattern) (new s t : List Char) :
    replaceAll pattern new (s ++ sep :: t) =
      replaceAll pattern new s ++ sep :: replaceAll pattern new t := by
  have hpatterns : ∀ p ∈ [pattern], p ≠ [] := by simpa using hne
  -- an occurrence in front of the separator ends before it, or it would have it
  have hends : ∀ {l : List Char}, pattern <+: l ++ sep :: t → pattern <+: l := by
    intro l hpre
    have hl : l <+: l ++ sep :: t := List.prefix_append l _
    rcases List.prefix_or_prefix_of_prefix hpre hl with h | ⟨u, hu⟩
    · exact h
    · cases u with
      | nil => exact ⟨[], by rw [← hu]; simp⟩
      | cons c u =>
        rw [← hu, List.prefix_append_right_inj] at hpre
        obtain ⟨rfl, -⟩ := List.cons_prefix_cons.1 hpre
        exact absurd (hu ▸ List.mem_append_right l List.mem_cons_self) hsep
  induction s using occurrence_induction hpatterns with
  | nil =>
    have hnot : ¬ pattern <+: sep :: t := fun hpre =>
      hne (List.prefix_nil.1 (hends (l := []) hpre))
    rw [List.nil_append, replaceAll_cons hnot, replaceAll_nil, List.nil_append]
  | occurrence p hp s ih =>
    obtain rfl := List.mem_singleton.1 hp
    rw [List.append_assoc, replaceAll_append hne, replaceAll_append hne, ih, List.append_assoc]
  | other c s hpre ih =>
    have hnot := hpre pattern List.mem_cons_self
    have hnot' : ¬ pattern <+: c :: (s ++ sep :: t) := fun h => hnot (hends (l := c :: s) h)
    rw [List.cons_append, replaceAll_cons hnot', replaceAll_cons hnot, ih, List.cons_append]

/-- A text with an occurrence changes, unless the pattern is replaced by itself. -/
theorem eq_of_replaceAll_eq_self {pattern new s : List Char} (hne : pattern ≠ [])
    (h : replaceAll pattern new s = s) (hmem : pattern <:+: s) : new = pattern := by
  induction s with
  | nil => exact absurd (List.eq_nil_of_infix_nil hmem) hne
  | cons c s ih =>
    by_cases hpre : pattern <+: c :: s
    · obtain ⟨t, ht⟩ := hpre
      rw [← ht, replaceAll_append hne] at h
      obtain ⟨n, hn⟩ := length_replaceAll hne new t
      have hlen := congrArg List.length h
      rw [List.length_append, List.length_append] at hlen
      have heq : (n + 1) * new.length = (n + 1) * pattern.length := by
        rw [Nat.add_mul, Nat.add_mul]
        omega
      exact (List.append_inj h (Nat.eq_of_mul_eq_mul_left n.succ_pos heq)).1
    · rw [replaceAll_cons hpre] at h
      exact ih (List.cons.inj h).2 ((List.infix_cons_iff.1 hmem).resolve_left hpre)

end Phrasebook.Text
