import Phrasebook.Text.Decimal
import Phrasebook.Text.Split
import Mathlib.Data.List.TakeWhile

/-!
# Laws of splitting

`pieces` and `splitAt` are the library's `List.splitOnP` and `List.splitOn` (`pieces_eq_splitOnP`,
`splitAt_eq_splitOn`), so the laws of those carry over.

* `splitAt_cons_self`, `splitAt_append_of_not_mem`: a text is split piece by piece, and
  `not_mem_of_mem_splitAt`: no piece has a separator.
* `splitAt_append_cons`: the pieces of two texts with a separator between them are those of the
  first and then those of the second.
* `joinWith_splitAt`: joining the pieces gives the text back.
* `splitAt_joinWith`: pieces without separators are found again in the text that they are joined to,
  and `cut?_append`: so is a text without a separator in front of the first one.
* `takeWhile_span`, `dropWhile_span`: a run of characters of one kind ends where a character of
  another kind follows.
-/

namespace Phrasebook.Text

variable {p : Char → Bool} {sep : Char}

/-! ### Runs of characters -/

section Runs

variable {l rest : List Char} {c : Char}

theorem takeWhile_span (hl : ∀ d ∈ l, p d) (hc : ¬ p c) : (l ++ c :: rest).takeWhile p = l := by
  rw [List.takeWhile_append_of_pos hl, List.takeWhile_cons_of_neg hc, List.append_nil]

theorem dropWhile_span (hl : ∀ d ∈ l, p d) (hc : ¬ p c) :
    (l ++ c :: rest).dropWhile p = c :: rest := by
  rw [List.dropWhile_append_of_pos hl, List.dropWhile_cons_of_neg hc]

/-- Two texts without a character are equal if it follows both in the same text. -/
theorem append_cons_inj {a b s t : List Char} (ha : c ∉ a) (hb : c ∉ b)
    (h : a ++ c :: s = b ++ c :: t) : a = b ∧ s = t := by
  have hne : ∀ {l : List Char}, c ∉ l → ∀ d ∈ l, (d != c) = true := by
    intro l hl d hd
    rw [bne_iff_ne]
    rintro rfl
    exact hl hd
  have hc : ¬ (c != c) = true := by simp
  have htake := congrArg (List.takeWhile (· != c)) h
  rw [takeWhile_span (hne ha) hc, takeWhile_span (hne hb) hc] at htake
  subst htake
  exact ⟨rfl, (List.cons.inj (List.append_cancel_left h)).2⟩

/-- A digit is no white space. -/
theorem not_isBlank_of_isDigit {d : Char} (h : isDigit d) : ¬ isBlank d := by
  have hd := isDigit_iff.1 h
  simp only [isBlank, Bool.or_eq_true, Bool.and_eq_true, decide_eq_true_eq, beq_iff_eq]
  omega

end Runs

/-! ### Pieces -/

theorem pieces_eq_splitOnP (p : Char → Bool) (s : List Char) : pieces p s = s.splitOnP p := by
  induction s with
  | nil => rfl
  | cons c s ih =>
    rw [pieces, List.splitOnP_cons_eq_if_modifyHead, ih]
    obtain ⟨piece, rest, hs⟩ := List.exists_cons_of_ne_nil (List.splitOnP_ne_nil p s)
    rw [hs, List.modifyHead_cons]

theorem pieces_ne_nil (p : Char → Bool) (s : List Char) : pieces p s ≠ [] := by
  rw [pieces_eq_splitOnP]
  exact List.splitOnP_ne_nil p s

theorem splitAt_eq_splitOn (sep : Char) (s : List Char) : splitAt sep s = s.splitOn sep :=
  pieces_eq_splitOnP _ s

theorem splitAt_cons_self (sep : Char) (s : List Char) :
    splitAt sep (sep :: s) = [] :: splitAt sep s := by
  simp only [splitAt_eq_splitOn]
  rw [List.splitOn_cons_eq_if_modifyHead, if_pos (beq_self_eq_true sep)]

/-- A text without separators goes to the front of the first piece. -/
theorem splitAt_append_of_not_mem {l : List Char} (hl : sep ∉ l) (s : List Char) :
    splitAt sep (l ++ s) = (splitAt sep s).modifyHead (l ++ ·) := by
  simp only [splitAt_eq_splitOn]
  induction l with
  | nil =>
    rw [List.nil_append]
    cases s.splitOn sep <;> rfl
  | cons c l ih =>
    have hc : ¬ (c == sep) = true := fun h => hl (List.mem_cons.2 (Or.inl (eq_of_beq h).symm))
    rw [List.cons_append, List.splitOn_cons_eq_if_modifyHead, if_neg hc,
      ih fun h => hl (List.mem_cons_of_mem c h)]
    cases s.splitOn sep <;> rfl

theorem splitAt_append_cons (sep : Char) (s t : List Char) :
    splitAt sep (s ++ sep :: t) = splitAt sep s ++ splitAt sep t := by
  simp only [splitAt_eq_splitOn]
  exact List.splitOnP_append_cons s t (beq_self_eq_true sep)

theorem splitAt_ne_nil (sep : Char) (s : List Char) : splitAt sep s ≠ [] :=
  pieces_ne_nil _ s

/-- A piece has no character at which the text is cut. -/
theorem not_of_mem_pieces {s piece : List Char} (h : piece ∈ pieces p s) {c : Char}
    (hc : c ∈ piece) : ¬ p c := by
  induction s generalizing piece with
  | nil =>
    obtain rfl := List.mem_singleton.1 h
    exact absurd hc List.not_mem_nil
  | cons d s ih =>
    obtain ⟨first, rest, hs⟩ := List.exists_cons_of_ne_nil (pieces_ne_nil p s)
    rw [pieces, hs] at h
    rw [hs] at ih
    split at h
    · rcases List.mem_cons.1 h with rfl | h
      · exact absurd hc List.not_mem_nil
      · exact ih h hc
    · -- A character that is kept is put in front of the first piece.
      rename_i hd
      rcases List.mem_cons.1 h with rfl | h
      · rcases List.mem_cons.1 hc with rfl | hc
        · exact hd
        · exact ih List.mem_cons_self hc
      · exact ih (List.mem_cons_of_mem first h) hc

theorem not_mem_of_mem_splitAt {s piece : List Char} (h : piece ∈ splitAt sep s) : sep ∉ piece :=
  fun hmem => not_of_mem_pieces h hmem (beq_self_eq_true sep)

/-! ### Joining -/

theorem joinWith_eq_intercalate (sep : List Char) (ps : List (List Char)) :
    joinWith sep ps = sep.intercalate ps := by
  induction ps with
  | nil => rfl
  | cons piece rest ih =>
    cases rest with
    | nil => simp [joinWith, List.intercalate]
    | cons next rest =>
      show piece ++ sep ++ joinWith sep (next :: rest) = sep.intercalate (piece :: next :: rest)
      rw [ih]
      simp [List.intercalate]

theorem joinWith_splitAt (sep : Char) (s : List Char) : joinWith [sep] (splitAt sep s) = s := by
  rw [joinWith_eq_intercalate, splitAt_eq_splitOn, List.intercalate_splitOn]

/-- Pieces in which no character is cut at are the pieces of the text that they are joined to. -/
theorem pieces_joinWith (hsep : p sep = true) {ps : List (List Char)} (hne : ps ≠ [])
    (h : ∀ piece ∈ ps, ∀ c ∈ piece, p c = false) : pieces p (joinWith [sep] ps) = ps := by
  rw [pieces_eq_splitOnP]
  induction ps with
  | nil => exact absurd rfl hne
  | cons piece rest ih =>
    obtain ⟨hpiece, hrest⟩ := List.forall_mem_cons.1 h
    cases rest with
    | nil => exact List.splitOnP_eq_singleton hpiece
    | cons next rest =>
      have hjoin : joinWith [sep] (piece :: next :: rest) =
          piece ++ sep :: joinWith [sep] (next :: rest) := by
        simp [joinWith]
      rw [hjoin, List.splitOnP_append_cons_of_forall_mem hpiece sep hsep,
        ih (List.cons_ne_nil _ _) hrest]

/-- Pieces without separators are the pieces of the text that they are joined to. -/
theorem splitAt_joinWith {ps : List (List Char)} (hne : ps ≠ []) (h : ∀ piece ∈ ps, sep ∉ piece) :
    splitAt sep (joinWith [sep] ps) = ps := by
  refine pieces_joinWith (p := (· == sep)) (beq_self_eq_true sep) hne fun piece hpiece c hc => ?_
  exact beq_eq_false_iff_ne.2 fun heq => h piece hpiece (heq ▸ hc)

/-- A character of the joined text stands in a piece or belongs to the separator. -/
theorem mem_joinWith {sep : List Char} {ps : List (List Char)} {c : Char}
    (h : c ∈ joinWith sep ps) : c ∈ sep ∨ ∃ piece ∈ ps, c ∈ piece := by
  induction ps with
  | nil => exact nomatch h
  | cons piece rest ih =>
    cases rest with
    | nil => exact Or.inr ⟨piece, List.mem_cons_self, h⟩
    | cons next rest =>
      rw [joinWith, List.append_assoc, List.mem_append, List.mem_append] at h
      · rcases h with h | h | h
        · exact Or.inr ⟨piece, List.mem_cons_self, h⟩
        · exact Or.inl h
        · obtain hsep | ⟨other, hmem, hc⟩ := ih h
          · exact Or.inl hsep
          · exact Or.inr ⟨other, List.mem_cons_of_mem _ hmem, hc⟩
      · exact fun heq => nomatch heq

theorem cut?_eq_none {s : List Char} (h : sep ∉ s) : cut? sep s = none := by
  induction s with
  | nil => rfl
  | cons c s ih =>
    rw [List.mem_cons, not_or] at h
    have hc : ¬ (c == sep) = true := by simpa using Ne.symm h.1
    rw [cut?, if_neg hc, ih h.2]
    rfl

theorem cut?_append {l : List Char} (hl : sep ∉ l) (rest : List Char) :
    cut? sep (l ++ sep :: rest) = some (l, rest) := by
  induction l with
  | nil => exact if_pos (beq_self_eq_true sep)
  | cons c l ih =>
    have hc : ¬ (c == sep) = true := fun h => hl (List.mem_cons.2 (Or.inl (eq_of_beq h).symm))
    rw [List.cons_append, cut?, if_neg hc, ih fun h => hl (List.mem_cons_of_mem c h)]
    rfl

theorem cut?_eq_some {s before after : List Char} (h : cut? sep s = some (before, after)) :
    s = before ++ sep :: after := by
  induction s generalizing before with
  | nil => exact nomatch h
  | cons c s ih =>
    rw [cut?] at h
    split_ifs at h with hc
    · obtain ⟨rfl, rfl⟩ := Prod.mk.inj (Option.some.inj h)
      rw [eq_of_beq hc, List.nil_append]
    · obtain ⟨⟨before', _⟩, hcut, heq⟩ := Option.map_eq_some_iff.1 h
      obtain ⟨rfl, rfl⟩ := Prod.mk.inj heq
      rw [ih hcut, List.cons_append]

theorem cutLast?_eq_none {s : List Char} (h : sep ∉ s) : cutLast? sep s = none := by
  unfold cutLast?
  rw [cut?_eq_none (mt List.mem_reverse.1 h)]
  rfl

theorem cutLast?_eq_some {s before after : List Char}
    (h : cutLast? sep s = some (before, after)) : s = before ++ sep :: after := by
  obtain ⟨⟨behind, inFront⟩, hcut, heq⟩ := Option.map_eq_some_iff.1 h
  obtain ⟨rfl, rfl⟩ := Prod.mk.inj heq
  have hreverse := congrArg List.reverse (cut?_eq_some hcut)
  simpa using hreverse

theorem cutLast?_append {rest : List Char} (h : sep ∉ rest) (l : List Char) :
    cutLast? sep (l ++ sep :: rest) = some (l, rest) := by
  have hreverse : (l ++ sep :: rest).reverse = rest.reverse ++ sep :: l.reverse := by simp
  unfold cutLast?
  rw [hreverse, cut?_append (mt List.mem_reverse.1 h)]
  simp

end Phrasebook.Text
