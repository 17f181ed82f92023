import Phrasebook.Proofs.Choice.Rule
import Phrasebook.Proofs.Substitution

/-!
# Substitution segment by segment

A count chooses from the text that a substitution has left, so the values are split together with
the text.  If neither the names nor the values have a separator, then no marker goes across one and
none is put in.  It makes no difference then whether the text is split first or the values are put
in first.

* `splitAt_substituteOne`: one replacement goes through the pieces of a text one by one.
* `splitAt_substituteAll`: so do all arguments, each of which searches what the earlier ones have
  put in.
* `segments_substitute`: so the variants of a choice string stay as many as they were, and in order.
-/

namespace Phrasebook

open Phrasebook.Text

section Pieces

variable {sep : Char} (hopen : sep ≠ '{') (hclose : sep ≠ '}')
include hopen hclose

theorem not_mem_placeholder {name : List Char} (hname : sep ∉ name) : sep ∉ placeholder name := by
  simp [placeholder, hopen, hclose, hname]

/-- Joined pieces are replaced in piece by piece. -/
theorem substituteOne_joinWith {name : List Char} (hname : sep ∉ name) (value : List Char)
    (ps : List (List Char)) :
    substituteOne (joinWith [sep] ps) name value =
      joinWith [sep] (ps.map fun piece => substituteOne piece name value) := by
  have hne : placeholder name ≠ [] := List.cons_ne_nil _ _
  have hsep := not_mem_placeholder hopen hclose hname
  induction ps with
  | nil => exact replaceAll_nil _ _
  | cons piece rest ih =>
    cases rest with
    | nil => rfl
    | cons next rest =>
      calc substituteOne (joinWith [sep] (piece :: next :: rest)) name value
          -- No marker lies across a separator, as its name has none.
          = substituteOne (piece ++ sep :: joinWith [sep] (next :: rest)) name value := by
            simp [joinWith]
        _ = substituteOne piece name value ++
              sep :: substituteOne (joinWith [sep] (next :: rest)) name value :=
            replaceAll_append_cons hne hsep value _ _
        _ = joinWith [sep] ((piece :: next :: rest).map
              fun piece => substituteOne piece name value) := by
            rw [ih]
            simp [joinWith]

/-- Replacing behind a split is the same as before it, if no separator is put in. -/
theorem splitAt_substituteOne {name value : List Char} (hname : sep ∉ name) (hvalue : sep ∉ value)
    (s : List Char) :
    splitAt sep (substituteOne s name value) =
      (splitAt sep s).map fun piece => substituteOne piece name value := by
  have hpieces : ∀ piece ∈ (splitAt sep s).map fun piece => substituteOne piece name value,
      sep ∉ piece := by
    intro piece hpiece hmem
    obtain ⟨old, hold, rfl⟩ := List.mem_map.1 hpiece
    rcases mem_of_mem_replaceAll (List.cons_ne_nil _ _) hmem with hmem | hmem
    · exact hvalue hmem
    · exact not_mem_of_mem_splitAt hold hmem
  have hne : (splitAt sep s).map (fun piece => substituteOne piece name value) ≠ [] := by
    simpa using splitAt_ne_nil sep s
  -- put together, replaced in piece by piece, and split again at the same places
  conv_lhs => rw [← joinWith_splitAt sep s, substituteOne_joinWith hopen hclose hname]
  exact splitAt_joinWith hne hpieces

/-- All arguments are put into the pieces one by one. -/
theorem splitAt_substituteAll {pairs : List (String × String)}
    (hpairs : ∀ pair ∈ pairs, sep ∉ pair.1.toList ∧ sep ∉ pair.2.toList) (s : List Char) :
    splitAt sep (substituteAll s pairs) =
      (splitAt sep s).map fun piece => substituteAll piece pairs := by
  unfold substituteAll
  induction pairs generalizing s with
  | nil => simp
  | cons pair pairs ih =>
    obtain ⟨hname, hvalue⟩ := hpairs pair List.mem_cons_self
    have hrest : ∀ p ∈ pairs, sep ∉ p.1.toList ∧ sep ∉ p.2.toList :=
      fun p hp => hpairs p (List.mem_cons_of_mem pair hp)
    simp only [List.foldl_cons]
    rw [ih hrest, splitAt_substituteOne hopen hclose hname hvalue, List.map_map]
    rfl

end Pieces

namespace Choice

theorem map_raw_parseRules (text : String) :
    (parseRules text).map Rule.raw = (text.toList.splitOn '|').map String.ofList := by
  rw [← (parses_parseRules text).segments, List.map_map]
  exact List.map_congr_left fun rule _ => String.ofList_toList.symm

/-- **Arguments leave the variants in their places.**  If neither the names nor the values of the
arguments have a separator, then the segments of a text with the arguments put in are the segments
of the text, each with the arguments put in by itself.  So the rules of the one choice string are
written as those of the other with the arguments put in: none is added, none dropped and none
moved. -/
theorem segments_substitute (text : String) (args : Args)
    (hargs : ∀ pair ∈ args.toList, '|' ∉ pair.1.toList ∧ '|' ∉ pair.2.toList) :
    (substitute text args).toList.splitOn '|' =
      (text.toList.splitOn '|').map
        (fun segment => (substitute (String.ofList segment) args).toList) ∧
    (parseRules (substitute text args)).map Rule.raw =
      (parseRules text).map fun rule => substitute rule.raw args := by
  have hsegments : (substitute text args).toList.splitOn '|' =
      (text.toList.splitOn '|').map
        (fun segment => (substitute (String.ofList segment) args).toList) := by
    rw [toList_substitute, ← splitAt_eq_splitOn, ← splitAt_eq_splitOn,
      splitAt_substituteAll (by decide) (by decide) hargs]
    refine List.map_congr_left fun segment _ => ?_
    rw [toList_substitute, String.toList_ofList]
  -- The raw texts of the rules are the segments.
  refine ⟨hsegments, ?_⟩
  calc (parseRules (substitute text args)).map Rule.raw
      = ((substitute text args).toList.splitOn '|').map String.ofList := map_raw_parseRules _
    _ = (text.toList.splitOn '|').map fun segment => substitute (String.ofList segment) args := by
        rw [hsegments, List.map_map]
        exact List.map_congr_left fun segment _ => String.ofList_toList
    _ = ((parseRules text).map Rule.raw).map fun raw => substitute raw args := by
        rw [map_raw_parseRules, List.map_map]
        rfl
    _ = (parseRules text).map fun rule => substitute rule.raw args := by
        rw [List.map_map]
        rfl

/-- Values that bring in markers of numbers and of each other, in a text with nested braces. -/
theorem segments_substitute_nested :
    (∀ pair ∈ (Args.ofTexts [("a", "[1,2]\x7bb\x7d"), ("b", "\x7b0\x7d")]).toList,
      '|' ∉ pair.1.toList ∧ '|' ∉ pair.2.toList) ∧
    (substitute "\x7b\x7ba\x7d\x7d fig|\x7bb\x7d|\x7ba\x7d"
        (Args.ofTexts [("a", "[1,2]\x7bb\x7d"), ("b", "\x7b0\x7d")])).toList.splitOn '|' =
      ["\x7b[1,2]\x7b0\x7d\x7d fig".toList, "\x7b0\x7d".toList, "[1,2]\x7b0\x7d".toList] ∧
    (parseRules (substitute "\x7b\x7ba\x7d\x7d fig|\x7bb\x7d|\x7ba\x7d"
        (Args.ofTexts [("a", "[1,2]\x7bb\x7d"), ("b", "\x7b0\x7d")]))).map Rule.raw =
      ["\x7b[1,2]\x7b0\x7d\x7d fig", "\x7b0\x7d", "[1,2]\x7b0\x7d"] := by
  have hargs : ∀ pair ∈ (Args.ofTexts [("a", "[1,2]\x7bb\x7d"), ("b", "\x7b0\x7d")]).toList,
      '|' ∉ pair.1.toList ∧ '|' ∉ pair.2.toList := by decide +kernel
  obtain ⟨hsegments, hraws⟩ :=
    segments_substitute "\x7b\x7ba\x7d\x7d fig|\x7bb\x7d|\x7ba\x7d" _ hargs
  exact ⟨hargs, hsegments.trans (by decide +kernel), hraws.trans (by decide +kernel)⟩

end Choice

end Phrasebook
