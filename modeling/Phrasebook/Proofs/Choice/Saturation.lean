import Phrasebook.Proofs.Choice.Rule
import Phrasebook.Proofs.Text.Decimal

/-!
# Markers with numbers of any size

The numerals of a marker may be as long as one likes, but a rule holds no number above the largest
count.  An `Extent` is a range as it is written, with no such limit, and `Marks` relates it to the
segment of a choice string that has it.

* `Marks.marker_eq`: the reader clips each end of the extent at the largest count.  A fold that has
  reached the limit stays there, so clipping once at the end is the same (`saturated_eq`).
* `Rule.contains_iff_of_marks`: below the largest count a clipped range has the same counts as the
  extent.  The largest count itself stands for all numbers from it on.
* `contains_iff_extent` puts these together, with the counts below zero, which no rule has.
-/

namespace Phrasebook.Choice

open Phrasebook.Text

/-! ### Ranges as they are written -/

/-- The number that a run of digits stands for, by the places of its digits. -/
def numeralValue (ds : List Char) : ℕ :=
  Nat.ofDigits 10 (ds.map digitValue).reverse

/-- A range of numbers of any size. -/
structure Extent where
  low : ℕ
  /-- The last number of the range, if there is one. -/
  high : Option ℕ

/-- A number is in the range. -/
def Extent.Has (r : Extent) (n : ℤ) : Prop :=
  (r.low : ℤ) ≤ n ∧ ∀ high ∈ r.high, n ≤ (high : ℤ)

/-- The upper end that a rule can hold. -/
def Extent.clippedHigh (r : Extent) : Bound :=
  match r.high with
  | some high => .inclusive (min high maxCount)
  | none => .unbounded

/-- `Marks segment r`: the leftmost exact token of the segment has the number of `r`, or there is
none and the leftmost interval token has the ends of `r`. -/
inductive Marks (segment : List Char) : Extent → Prop
  | exact {m : Marker} {before ds after : List Char} (numeral : IsNumeral ds)
      (h : Leftmost ExactToken segment m before ('{' :: ds ++ ['}']) after) :
      Marks segment ⟨numeralValue ds, some (numeralValue ds)⟩
  | interval {m : Marker} {before ds blanks es after : List Char}
      (hexact : ¬ Occurs ExactToken segment) (low : IsNumeral ds)
      (blank : ∀ c ∈ blanks, isBlank c) (high : IsNumeral es)
      (h : Leftmost IntervalToken segment m before
        ('[' :: ds ++ ',' :: blanks ++ es ++ [']']) after) :
      Marks segment ⟨numeralValue ds, some (numeralValue es)⟩
  | above {m : Marker} {before ds blanks after : List Char}
      (hexact : ¬ Occurs ExactToken segment) (low : IsNumeral ds)
      (blank : ∀ c ∈ blanks, isBlank c)
      (h : Leftmost IntervalToken segment m before
        ('[' :: ds ++ ',' :: blanks ++ ['*'] ++ [']']) after) :
      Marks segment ⟨numeralValue ds, none⟩

variable {segment : List Char} {r : Extent} {rule : Rule}

/-- A token of a class that is recognized stands for one marker. -/
theorem Recognizes.marker_unique {read : List Char → Option Reading}
    {P : Marker → List Char → Prop} (hP : Recognizes read P) {m m' : Marker} {token : List Char}
    (h : P m token) (h' : P m' token) : m = m' := by
  have hread : read token = some ⟨m, token, []⟩ :=
    hP.read_iff.2 ⟨h, (List.append_nil token).symm⟩
  have hread' : read token = some ⟨m', token, []⟩ :=
    hP.read_iff.2 ⟨h', (List.append_nil token).symm⟩
  exact congrArg Reading.marker (Option.some.inj (hread.symm.trans hread'))

/-- The marker of the segment has the ends of the extent, each of them clipped. -/
theorem Marks.marker_eq (h : Marks segment r) :
    ∃ m, (Variant.ofSegment segment).marker = some m ∧ m.low = min r.low maxCount ∧
      m.high = r.clippedHigh := by
  -- Each way to write a marker is recognised by one of the two readers, which reads nothing else in
  -- its place.
  have hclass := classifies_ofSegment segment
  cases h with
  | @exact m before ds after numeral h =>
    have hm := recognizes_readExact.marker_unique h.isToken (.intro numeral)
    refine ⟨m, (hclass.unique (.exact h)).1, ?_⟩
    rw [hm, numeralValue, ← digitsValue_eq_ofDigits]
    exact ⟨rfl, rfl⟩
  | @interval m before ds blanks es after hexact low blank high h =>
    have hm := recognizes_readInterval.marker_unique h.isToken (.intro low blank (.numeral high))
    refine ⟨m, (hclass.unique (.interval hexact h)).1, ?_⟩
    rw [hm, numeralValue, numeralValue, ← digitsValue_eq_ofDigits, ← digitsValue_eq_ofDigits]
    exact ⟨rfl, rfl⟩
  | @above m before ds blanks after hexact low blank h =>
    have hm := recognizes_readInterval.marker_unique h.isToken (.intro low blank .star)
    refine ⟨m, (hclass.unique (.interval hexact h)).1, ?_⟩
    rw [hm, numeralValue, ← digitsValue_eq_ofDigits]
    exact ⟨rfl, rfl⟩

theorem exists_marks_of_classifies {m : Marker} {phrase : List Char}
    (h : Classifies segment (some m) phrase) : ∃ r, Marks segment r := by
  cases h with
  | exact h =>
    have htoken := h.isToken
    cases htoken with
    | intro numeral => exact ⟨_, .exact numeral h⟩
  | interval hexact h =>
    have htoken := h.isToken
    cases htoken with
    | intro numeral blank hupper =>
      cases hupper with
      | star => exact ⟨_, .above hexact numeral blank h⟩
      | numeral high => exact ⟨_, .interval hexact numeral blank high h⟩

/-! ### Rules with clipped ranges -/

/-- Below the limit, clipping the ends changes nothing. -/
theorem Extent.has_iff_of_lt {n : ℤ} (hn : n < maxCount) :
    r.Has n ↔ ((min r.low maxCount : ℕ) : ℤ) ≤ n ∧ n ≤ (r.clippedHigh.limit : ℤ) := by
  unfold Has clippedHigh
  cases r.high with
  | none =>
    simp only [Option.mem_def, reduceCtorEq, false_implies, implies_true, and_true, Bound.limit]
    omega
  | some high =>
    simp only [Option.mem_def, Option.some.injEq, forall_eq', Bound.limit]
    omega

/-- At the limit, the lower end is never above and the upper end is open if it has been clipped. -/
theorem Extent.clipped_maxCount_iff :
    ((min r.low maxCount : ℕ) ≤ maxCount ∧ maxCount ≤ r.clippedHigh.limit) ↔
      ∀ high ∈ r.high, maxCount ≤ high := by
  unfold clippedHigh
  cases r.high with
  | none => simp [Bound.limit]
  | some high => simp [Bound.limit]

theorem Rule.contains_iff_of_marks {text : String} (hrule : rule ∈ parseRules text)
    (h : Marks rule.raw.toList r) :
    rule.low = min r.low maxCount ∧ rule.high = r.clippedHigh ∧
      ∀ count : Int64,
        (count.toInt < maxCount → (rule.contains count = true ↔ r.Has count.toInt)) ∧
        (count.toInt = maxCount →
          (rule.contains count = true ↔ ∀ high ∈ r.high, maxCount ≤ high)) := by
  -- the segment that the rule keeps is the one that it was read from
  obtain ⟨segment, hof⟩ := exists_isOf_of_mem (forall₂_parseRules text) hrule
  rw [hof.raw, raw_ofSegment, String.toList_ofList] at h
  obtain ⟨m, hm, hmlow, hmhigh⟩ := h.marker_eq
  obtain ⟨hlow, hhigh, hzero⟩ := hof.range (hof.marker.trans hm)
  rw [hmlow] at hlow
  rw [hmhigh] at hhigh
  have hcontains : ∀ count : Int64, rule.contains count = true ↔
      ((min r.low maxCount : ℕ) : ℤ) ≤ count.toInt ∧ count.toInt ≤ (r.clippedHigh.limit : ℤ) := by
    intro count
    -- a marker has no zero besides its range
    rw [Rule.contains_iff, Rule.Covers, hlow, hhigh, hzero]
    simp
  refine ⟨hlow, hhigh, fun count => ⟨fun hcount => ?_, fun hcount => ?_⟩⟩
  · rw [hcontains, Extent.has_iff_of_lt hcount]
  · rw [hcontains, hcount, Nat.cast_le, Nat.cast_le, Extent.clipped_maxCount_iff]

/-- A rule holds no number above the largest count, be it marked or numbered. -/
theorem Rule.range_le_maxCount {text : String} (hrule : rule ∈ parseRules text) :
    rule.low ≤ maxCount ∧ rule.high.limit ≤ maxCount := by
  have hparses := parses_parseRules text
  -- The range of a marked rule is clipped, and so are the numbers of unmarked ones.
  cases hm : rule.marker with
  | some m =>
    have hclass := hparses.classified rule hrule
    rw [hm] at hclass
    obtain ⟨r, hr⟩ := exists_marks_of_classifies hclass
    obtain ⟨hlow, hhigh, -⟩ := Rule.contains_iff_of_marks hrule hr
    rw [hlow, hhigh, Extent.clippedHigh]
    refine ⟨Nat.min_le_right _ _, ?_⟩
    split
    · exact Nat.min_le_right _ _
    · exact Nat.le_refl maxCount
  | none =>
    obtain ⟨before, after, heq⟩ := List.append_of_mem hrule
    obtain ⟨hlow, hhigh, -⟩ := hparses.numbered before rule after heq hm
    rw [hlow, hhigh]
    refine ⟨Nat.min_le_right _ _, ?_⟩
    split
    · exact Nat.le_refl maxCount
    · exact Nat.min_le_right _ _

/-- No range begins below zero, and zero is the only count that a rule can have besides. -/
theorem Rule.contains_of_neg {count : Int64} (h : count.toInt < 0) (rule : Rule) :
    rule.contains count = false := by
  rw [Bool.eq_false_iff, Ne, Rule.contains_iff]
  rintro (⟨hlow, -⟩ | ⟨-, hzero⟩)
  · omega
  · rw [hzero] at h
    exact absurd h (by decide)

theorem choose_of_neg {count : Int64} (h : count.toInt < 0) (text : String) :
    choose text count = text := by
  have hnone : select (parseRules text) count = none :=
    List.find?_eq_none.2 fun rule _ => by
      rw [Rule.contains_of_neg h rule]
      exact Bool.false_ne_true
  rw [choose, hnone]

/-- **Numbers of any size.**  The ends of the range of a marked rule are those of its extent, or the
largest count if that is less; so below the largest count a rule has the counts that its marker says
in numbers without a limit.  No rule has a count below zero, and the choice for such a count is the
whole choice string. -/
theorem contains_iff_extent (text : String) :
    (∀ rule ∈ parseRules text, 0 ≤ rule.low ∧ rule.low ≤ maxCount ∧ rule.high.limit ≤ maxCount) ∧
    (∀ rule ∈ parseRules text, rule.marker.isSome = true → ∃ r, Marks rule.raw.toList r) ∧
    (∀ rule ∈ parseRules text, ∀ r, Marks rule.raw.toList r →
      rule.low = min r.low maxCount ∧ rule.high = r.clippedHigh ∧
      ∀ count : Int64,
        (count.toInt < maxCount → (rule.contains count = true ↔ r.Has count.toInt)) ∧
        (count.toInt = maxCount →
          (rule.contains count = true ↔ ∀ high ∈ r.high, maxCount ≤ high))) ∧
    ∀ count : Int64, count.toInt < 0 →
      (∀ rule ∈ parseRules text, rule.contains count = false) ∧ choose text count = text := by
  refine ⟨fun rule hrule => ⟨Nat.zero_le _, Rule.range_le_maxCount hrule⟩, ?_, ?_, ?_⟩
  · -- A rule with a marker has a segment with one, and the marker has an extent.
    intro rule hrule hmarked
    obtain ⟨m, hm⟩ := Option.isSome_iff_exists.1 hmarked
    have hclass := (parses_parseRules text).classified rule hrule
    rw [hm] at hclass
    exact exists_marks_of_classifies hclass
  · exact fun rule hrule r hr => Rule.contains_iff_of_marks hrule hr
  · exact fun count hcount =>
      ⟨fun rule _ => Rule.contains_of_neg hcount rule, choose_of_neg hcount text⟩

/-- An interval with leading zeros and an upper end that no count reaches: five is in it, and so is
the largest count.  No rule is for a count below zero. -/
theorem contains_iff_extent_figs :
    ∃ rule ∈ parseRules "[002, 99999999999999999999] [3,4] figs",
      Marks rule.raw.toList ⟨2, some 99999999999999999999⟩ ∧
      rule.high = .inclusive maxCount ∧ rule.contains 5 = true ∧
      rule.contains 9223372036854775807 = true ∧
      choose "[002, 99999999999999999999] [3,4] figs" (-1) =
        "[002, 99999999999999999999] [3,4] figs" := by
  obtain ⟨-, -, hextent, hneg⟩ := contains_iff_extent "[002, 99999999999999999999] [3,4] figs"
  have hmem : ⟨some (.interval 2 (.inclusive maxCount)), 2, .inclusive maxCount, false,
      "[3,4] figs", "[002, 99999999999999999999] [3,4] figs"⟩ ∈
        parseRules "[002, 99999999999999999999] [3,4] figs" := by decide +kernel
  have hexact : ¬ Occurs ExactToken "[002, 99999999999999999999] [3,4] figs".toList :=
    (findFirst_eq_none_iff recognizes_readExact).1 (by decide +kernel)
  have hlow : IsNumeral "002".toList := ⟨by decide, List.all_eq_true.1 (by decide)⟩
  have hhigh : IsNumeral "99999999999999999999".toList :=
    ⟨by decide, List.all_eq_true.1 (by decide)⟩
  have hblank : ∀ c ∈ [' '], isBlank c := List.all_eq_true.1 (by decide)
  -- the token stands at the start, so none begins before it
  have hleft : Leftmost IntervalToken "[002, 99999999999999999999] [3,4] figs".toList
      (.interval 2 (.inclusive maxCount)) [] "[002, 99999999999999999999]".toList
      " [3,4] figs".toList :=
    ⟨rfl, .intro hlow hblank (.numeral hhigh), fun _ _ => Nat.zero_le _⟩
  have hmarks := Marks.interval hexact hlow hblank hhigh hleft
  have hnumbers : numeralValue "002".toList = 2 ∧
      numeralValue "99999999999999999999".toList = 99999999999999999999 := by decide +kernel
  rw [hnumbers.1, hnumbers.2] at hmarks
  obtain ⟨-, hclip, hcounts⟩ := hextent _ hmem _ hmarks
  refine ⟨_, hmem, hmarks, hclip, ?_, ?_, (hneg (-1) (by decide)).2⟩
  · exact ((hcounts 5).1 (by decide)).2 ⟨by decide, by simp⟩
  · exact ((hcounts 9223372036854775807).2 (by decide)).2 (by simp [maxCount])

end Phrasebook.Choice
