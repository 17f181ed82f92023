import Phrasebook.Proofs.Choice.Rule

/-!
# How the counts fall on unmarked variants

The variants without a marker divide the counts among themselves.  Of `n` of them the one at place
`i` has the count `i`, the last one all greater counts as well, and zero if it is not the only one.
Where marked variants stand between them makes no difference.

* `unmarkedOf_parseRules`: the unmarked rules of a choice string are made from its unmarked segments
  alone, which are numbered in their order.
* `contains_unmarked_iff`: which counts the rule with a number has.
* `unmarked_partition`: so each count from one on is in exactly one unmarked rule, and a choice for
  it never falls back on the whole choice string; nor does one for zero, if there are two unmarked
  variants or more.
-/

namespace Phrasebook.Choice

open Phrasebook.Text

/-! ### Unmarked segments -/

/-- A segment without a marker of either form. -/
structure Unmarked (segment : List Char) : Prop where
  exact : ¬ Occurs ExactToken segment
  interval : ¬ Occurs IntervalToken segment

theorem isNone_marker_iff (segment : List Char) :
    (Variant.ofSegment segment).marker.isNone = true ↔ Unmarked segment := by
  have hclass := classifies_ofSegment segment
  generalize (Variant.ofSegment segment).marker = marker at hclass ⊢
  generalize (Variant.ofSegment segment).phrase = phrase at hclass
  cases hclass with
  | exact h =>
    constructor
    · exact fun hnone => nomatch hnone
    · exact fun hun => absurd h.occurs hun.exact
  | interval _ h =>
    constructor
    · exact fun hnone => nomatch hnone
    · exact fun hun => absurd h.occurs hun.interval
  | unmarked hexact hinterval => exact ⟨fun _ => ⟨hexact, hinterval⟩, fun _ => rfl⟩

instance (segment : List Char) : Decidable (Unmarked segment) :=
  decidable_of_iff _ (isNone_marker_iff segment)

/-- An unmarked segment is its own phrase. -/
theorem Unmarked.ofSegment_eq {segment : List Char} (h : Unmarked segment) :
    Variant.ofSegment segment = ⟨none, segment, segment⟩ := by
  have hclass := classifies_ofSegment segment
  obtain ⟨hmarker, hphrase⟩ := hclass.unique (.unmarked h.exact h.interval)
  have hraw := raw_ofSegment segment
  cases hv : Variant.ofSegment segment with
  | mk marker phrase raw =>
    rw [hv] at hmarker hphrase hraw
    dsimp only at hmarker hphrase hraw
    rw [hmarker, hphrase, hraw]

/-- The segments of a choice string that are unmarked, in written order. -/
def unmarkedSegments (text : String) : List (List Char) :=
  (text.toList.splitOn '|').filter fun segment => Unmarked segment

/-- The rules without a marker. -/
def unmarkedOf (rules : List Rule) : List Rule :=
  rules.filter fun rule => rule.marker.isNone

/-! ### Numbers -/

/-- The variants with markers do not count when the others are numbered. -/
theorem unmarkedOf_numberFrom (total next : ℕ) (vs : List Variant) :
    unmarkedOf (numberFrom total next vs) =
      ((vs.filter fun v => v.marker.isNone).zipIdx next).map fun (v, position) =>
        Rule.unmarked position total v := by
  unfold unmarkedOf
  induction vs generalizing next with
  | nil => rfl
  | cons v vs ih =>
    rw [numberFrom]
    cases hm : v.marker with
    | some m =>
      -- the variant is left out on both sides, and takes no number
      have hrule : (Rule.marked m v).marker.isNone = false := rfl
      simp only [List.filter_cons, hrule, hm, Option.isNone_some, Bool.false_eq_true, if_false]
      exact ih next
    | none =>
      have hrule : (Rule.unmarked next total v).marker.isNone = true := rfl
      simp only [List.filter_cons, hrule, hm, Option.isNone_none, if_true, List.zipIdx_cons,
        List.map_cons]
      rw [ih]

/-- The unmarked rules of a choice string are those of its unmarked segments, with their numbers. -/
theorem unmarkedOf_parseRules (text : String) :
    unmarkedOf (parseRules text) =
      ((unmarkedSegments text).zipIdx 1).map fun (segment, position) =>
        Rule.unmarked position (unmarkedSegments text).length ⟨none, segment, segment⟩ := by
  have hfilter : ((splitAt separator text.toList).map Variant.ofSegment).filter
      (fun v => v.marker.isNone) =
        (unmarkedSegments text).map fun segment => ⟨none, segment, segment⟩ := by
    rw [splitAt_eq_splitOn, List.filter_map]
    have hsame : List.filter ((fun v : Variant => v.marker.isNone) ∘ Variant.ofSegment)
        (text.toList.splitOn separator) = unmarkedSegments text :=
      List.filter_congr fun segment _ => by
        rw [Bool.eq_iff_iff, decide_eq_true_iff]
        exact isNone_marker_iff segment
    rw [hsame]
    refine List.map_congr_left fun segment hsegment => ?_
    exact Unmarked.ofSegment_eq (of_decide_eq_true (List.mem_filter.1 hsegment).2)
  have hcount : unmarkedCount ((splitAt separator text.toList).map Variant.ofSegment) =
      (unmarkedSegments text).length := by
    rw [unmarkedCount, List.countP_eq_length_filter, hfilter, List.length_map]
  -- Unmarked rules are numbered among themselves, so the marked variants can be left out first.
  rw [parseRules, rulesOf, unmarkedOf_numberFrom, hfilter, hcount, List.zipIdx_map, List.map_map]
  rfl

theorem length_unmarkedOf (text : String) :
    (unmarkedOf (parseRules text)).length = (unmarkedSegments text).length := by
  rw [unmarkedOf_parseRules, List.length_map, List.length_zipIdx]

theorem map_raw_unmarkedOf (text : String) :
    (unmarkedOf (parseRules text)).map (·.raw.toList) = unmarkedSegments text := by
  have hraw : ∀ {position total : ℕ} {segment : List Char},
      (Rule.unmarked position total ⟨none, segment, segment⟩).raw.toList = segment :=
    String.toList_ofList
  rw [unmarkedOf_parseRules, List.map_map]
  refine Eq.trans (List.map_congr_left fun x _ => ?_) (List.zipIdx_map_fst 1 _)
  exact hraw

/-- The unmarked rule at a place has a number that is one more. -/
theorem eq_unmarked_of_getElem? {text : String} {i : ℕ} {rule : Rule}
    (h : (unmarkedOf (parseRules text))[i]? = some rule) :
    i < (unmarkedSegments text).length ∧
      ∃ v, rule = Rule.unmarked (i + 1) (unmarkedSegments text).length v := by
  rw [unmarkedOf_parseRules, List.getElem?_map, List.getElem?_zipIdx, Option.map_map,
    Option.map_eq_some_iff] at h
  obtain ⟨segment, hsegment, rfl⟩ := h
  obtain ⟨hi, -⟩ := List.getElem?_eq_some_iff.1 hsegment
  refine ⟨hi, ⟨none, segment, segment⟩, ?_⟩
  rw [Nat.add_comm i 1]
  rfl

/-! ### Counts -/

section Counts

variable {position total : ℕ} (v : Variant)

/-- A number that a count can reach is the lower end of the range. -/
theorem range_unmarked (hle : position ≤ total) (htotal : total ≤ maxCount) :
    (Rule.unmarked position total v).low = position ∧
      (Rule.unmarked position total v).high =
        (if position = total then .unbounded else .inclusive position) ∧
      ((Rule.unmarked position total v).zero = true ↔ position = total ∧ 1 < total) := by
  have hmax : min position maxCount = position := Nat.min_eq_left (hle.trans htotal)
  refine ⟨hmax, ?_, ?_⟩
  · rw [Rule.unmarked, hmax]
  · simp [Rule.unmarked]

/-- The rule with a number has the count that is its number.  The last one has all above it, too,
and zero if there are others. -/
theorem contains_unmarked_iff (hpos : 1 ≤ position) (hle : position ≤ total)
    (htotal : total ≤ maxCount) (count : Int64) :
    (Rule.unmarked position total v).contains count = true ↔
      (1 ≤ count.toInt ∧ position = min count.toInt.toNat total) ∨
        (count.toInt = 0 ∧ 1 < total ∧ position = total) := by
  obtain ⟨hlow, hhigh, hzero⟩ := range_unmarked v hle htotal
  have hcount : count.toInt ≤ (maxCount : ℤ) := Int64.toInt_le count
  unfold Rule.contains
  simp only [hlow, hhigh, hzero, Bool.or_eq_true, Bool.and_eq_true, decide_eq_true_eq, beq_iff_eq]
  by_cases hlast : position = total
  · -- the open end of the last range is no bound, as no count is above the greatest
    rw [if_pos hlast]
    simp only [Bound.limit]
    omega
  · rw [if_neg hlast]
    simp only [Bound.limit]
    omega

end Counts

/-- The rule at a place has the count that is one more than the place, and the last one has what is
left. -/
theorem contains_iff_of_getElem? {text : String} {i : ℕ} {rule : Rule}
    (h : (unmarkedOf (parseRules text))[i]? = some rule)
    (hle : (unmarkedSegments text).length ≤ maxCount) (count : Int64) :
    rule.contains count = true ↔
      (1 ≤ count.toInt ∧ i + 1 = min count.toInt.toNat (unmarkedSegments text).length) ∨
        (count.toInt = 0 ∧ 1 < (unmarkedSegments text).length ∧
          i + 1 = (unmarkedSegments text).length) := by
  obtain ⟨hi, v, rfl⟩ := eq_unmarked_of_getElem? h
  exact contains_unmarked_iff v (Nat.succ_pos i) hi hle count

/-- `OnlyAt rules count position`: the rule at this place, counted from one, has the count, and no
other rule has it. -/
structure OnlyAt (rules : List Rule) (count : Int64) (position : ℕ) : Prop where
  pos : 1 ≤ position
  le : position ≤ rules.length
  contains_iff : ∀ i rule, rules[i]? = some rule →
    (rule.contains count = true ↔ i + 1 = position)

/-- A count that is in a rule has a phrase. -/
theorem exists_select_of_contains {text : String} {count : Int64} {rule : Rule}
    (hmem : rule ∈ parseRules text) (hcontains : rule.contains count = true) :
    ∃ rule ∈ parseRules text, select (parseRules text) count = some rule ∧
      choose text count = rule.text := by
  have hsome : (select (parseRules text) count).isSome :=
    List.find?_isSome.2 ⟨rule, hmem, hcontains⟩
  obtain ⟨selected, hselect⟩ := Option.isSome_iff_exists.1 hsome
  refine ⟨selected, List.mem_of_find?_eq_some hselect, hselect, ?_⟩
  rw [choose, hselect]

theorem OnlyAt.exists_select {text : String} {count : Int64} {position : ℕ}
    (h : OnlyAt (unmarkedOf (parseRules text)) count position) :
    ∃ rule ∈ parseRules text, select (parseRules text) count = some rule ∧
      choose text count = rule.text := by
  have hlt : position - 1 < (unmarkedOf (parseRules text)).length := by
    have := h.pos
    have := h.le
    omega
  have hget := List.getElem?_eq_getElem hlt
  have hcontains := (h.contains_iff _ _ hget).2 (Nat.sub_add_cancel h.pos)
  exact exists_select_of_contains (List.mem_filter.1 (List.getElem_mem hlt)).1 hcontains

/-- **Unmarked variants divide the counts.**  Of `n` unmarked segments the one at place `i`, counted
from zero, has the count `i + 1`, and the last one all from `n` on, whatever marked segments stand
between them.  So a count from one on is in exactly one of them; zero is in the last one unless that
is alone, and a count below zero is in none. -/
theorem unmarked_partition (text : String) {n : ℕ} (hn : (unmarkedSegments text).length = n)
    (hpos : 1 ≤ n) (hle : n ≤ maxCount) (count : Int64) :
    (unmarkedOf (parseRules text)).map (·.raw.toList) = unmarkedSegments text ∧
    (∀ i rule, (unmarkedOf (parseRules text))[i]? = some rule →
      rule.low = i + 1 ∧
      rule.high = (if i + 1 = n then .unbounded else .inclusive (i + 1)) ∧
      (rule.zero = true ↔ i + 1 = n ∧ 1 < n)) ∧
    (1 ≤ count.toInt →
      OnlyAt (unmarkedOf (parseRules text)) count (min count.toInt.toNat n)) ∧
    (count.toInt = 0 → 2 ≤ n → OnlyAt (unmarkedOf (parseRules text)) count n) ∧
    (count.toInt = 0 → n = 1 → ∀ rule ∈ unmarkedOf (parseRules text), rule.contains count = false) ∧
    (count.toInt < 0 → ∀ rule ∈ unmarkedOf (parseRules text), rule.contains count = false) ∧
    (1 ≤ count.toInt ∨ count.toInt = 0 ∧ 2 ≤ n →
      ∃ rule ∈ parseRules text, select (parseRules text) count = some rule ∧
        choose text count = rule.text) := by
  subst hn
  have hlength := length_unmarkedOf text
  have hfrom : 1 ≤ count.toInt → OnlyAt (unmarkedOf (parseRules text)) count
      (min count.toInt.toNat (unmarkedSegments text).length) := by
    intro hcount
    refine ⟨by omega, by omega, fun i rule hrule => ?_⟩
    rw [contains_iff_of_getElem? hrule hle count]
    omega
  have hzero : count.toInt = 0 → 2 ≤ (unmarkedSegments text).length →
      OnlyAt (unmarkedOf (parseRules text)) count (unmarkedSegments text).length := by
    intro hcount htwo
    refine ⟨by omega, by omega, fun i rule hrule => ?_⟩
    rw [contains_iff_of_getElem? hrule hle count]
    omega
  -- a count that is in none of them is neither above zero nor zero beside others
  have hnone : ¬ 1 ≤ count.toInt → ¬ (count.toInt = 0 ∧ 1 < (unmarkedSegments text).length) →
      ∀ rule ∈ unmarkedOf (parseRules text), rule.contains count = false := by
    intro hbelow hother rule hmem
    obtain ⟨i, hi⟩ := List.getElem?_of_mem hmem
    rw [Bool.eq_false_iff, Ne, contains_iff_of_getElem? hi hle count]
    omega
  refine ⟨map_raw_unmarkedOf text, ?_, hfrom, hzero, ?_, ?_, ?_⟩
  · intro i rule hrule
    obtain ⟨hi, v, rfl⟩ := eq_unmarked_of_getElem? hrule
    exact range_unmarked v hi hle
  · exact fun hcount hone => hnone (by omega) (by omega)
  · exact fun hcount => hnone (by omega) (by omega)
  · rintro (hcount | ⟨hcount, htwo⟩)
    · exact (hfrom hcount).exists_select
    · exact (hzero hcount htwo).exists_select

/-- Three unmarked variants between marked ones: five is for the last of them, and so is zero. -/
theorem unmarked_partition_figs :
    (unmarkedSegments "one fig|\x7b7\x7d seven|two figs|[3,4] few| many").length = 3 ∧
    OnlyAt (unmarkedOf (parseRules "one fig|\x7b7\x7d seven|two figs|[3,4] few| many")) 5 3 ∧
    OnlyAt (unmarkedOf (parseRules "one fig|\x7b7\x7d seven|two figs|[3,4] few| many")) 0 3 := by
  have hn : (unmarkedSegments "one fig|\x7b7\x7d seven|two figs|[3,4] few| many").length = 3 := by
    decide +kernel
  obtain ⟨-, -, hfrom, -⟩ := unmarked_partition _ hn (by decide) (by decide) 5
  obtain ⟨-, -, -, hzero, -⟩ := unmarked_partition _ hn (by decide) (by decide) 0
  exact ⟨hn, hfrom (by decide), hzero (by decide) (by decide)⟩

end Phrasebook.Choice
