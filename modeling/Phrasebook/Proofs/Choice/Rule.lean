import Phrasebook.Choice.Rule
import Phrasebook.Proofs.Choice.Marker
import Phrasebook.Proofs.Text.Split
import Mathlib.Data.List.Forall2

/-!
# The meaning of a choice string

`Parses text rules` says what the rules of a choice string are without reading it: its segments are
those between the separators, each is classified by the grammar of markers alone (`Classifies`), a
marked one has the range of its marker, and the others are numbered among themselves.

* `parses_parseRules`: the reader gives rules of that meaning, and `Parses.unique`: there are no
  others.
* `choose_eq_first`: the chosen phrase is that of the first rule whose range has the count, or the
  whole choice string if there is none.
* `parses_iff_and_choose_first` puts these together.

The rules of variants are made by `numberFrom`, whose two laws carry the rest: it keeps markers and
phrases in order (`forall₂_numberFrom`), and the number of an unmarked rule counts the unmarked ones
before it (`eq_unmarked_of_numberFrom`).
-/

namespace Phrasebook.Choice

open Phrasebook.Text

/-! ### What the grammar says of a segment -/

/-- `Classifies segment marker phrase`: the leftmost exact token decides, and if there is none the
leftmost interval token.  A segment without either is its own phrase. -/
inductive Classifies (segment : List Char) : Option Marker → List Char → Prop
  | exact {m : Marker} {before token after : List Char}
      (h : Leftmost ExactToken segment m before token after) :
      Classifies segment (some m) (trim (before ++ after))
  | interval {m : Marker} {before token after : List Char}
      (hexact : ¬ Occurs ExactToken segment)
      (h : Leftmost IntervalToken segment m before token after) :
      Classifies segment (some m) (trim (before ++ after))
  | unmarked (hexact : ¬ Occurs ExactToken segment) (hinterval : ¬ Occurs IntervalToken segment) :
      Classifies segment none segment

/-- The variant of a segment is what the grammar says of it. -/
theorem classifies_ofSegment (segment : List Char) :
    Classifies segment (Variant.ofSegment segment).marker (Variant.ofSegment segment).phrase := by
  unfold Variant.ofSegment findMarker findExact findInterval
  cases hexact : findFirst readExact segment with
  | some x => exact .exact ((findFirst_eq_some_iff recognizes_readExact).1 hexact)
  | none =>
    have hno := (findFirst_eq_none_iff recognizes_readExact).1 hexact
    cases hinterval : findFirst readInterval segment with
    | some x => exact .interval hno ((findFirst_eq_some_iff recognizes_readInterval).1 hinterval)
    | none => exact .unmarked hno ((findFirst_eq_none_iff recognizes_readInterval).1 hinterval)

@[simp] theorem raw_ofSegment (segment : List Char) :
    (Variant.ofSegment segment).raw = segment := by
  unfold Variant.ofSegment
  split <;> rfl

/-! ### The numbering of unmarked variants -/

/-- The number of rules without a marker. -/
def unmarkedRules (rules : List Rule) : ℕ :=
  rules.countP fun rule => rule.marker.isNone

/-- A rule has the marker, the phrase and the text of a variant, and the range of the marker if
there is one. -/
structure Rule.IsOf (v : Variant) (rule : Rule) : Prop where
  /-- The marker is that of the variant. -/
  marker : rule.marker = v.marker
  /-- The phrase is that of the variant. -/
  text : rule.text = String.ofList v.phrase
  /-- The text is that of the variant. -/
  raw : rule.raw = String.ofList v.raw
  /-- The range is that of the marker. -/
  range : ∀ {m}, rule.marker = some m → rule.low = m.low ∧ rule.high = m.high ∧ rule.zero = false

theorem Rule.isOf_marked {m : Marker} {v : Variant} (h : v.marker = some m) :
    (Rule.marked m v).IsOf v where
  marker := h.symm
  text := rfl
  raw := rfl
  range := by
    intro m' hm'
    cases hm'
    exact ⟨rfl, rfl, rfl⟩

theorem Rule.isOf_unmarked {position total : ℕ} {v : Variant} (h : v.marker = none) :
    (Rule.unmarked position total v).IsOf v where
  marker := h.symm
  text := rfl
  raw := rfl
  range hm := by cases hm

/-- Numbering gives one rule for each variant, in order. -/
theorem forall₂_numberFrom (total : ℕ) (vs : List Variant) (next : ℕ) :
    List.Forall₂ Rule.IsOf vs (numberFrom total next vs) := by
  induction vs generalizing next with
  | nil => exact .nil
  | cons v vs ih =>
    rw [numberFrom]
    split
    · rename_i m hm
      exact .cons (Rule.isOf_marked hm) (ih next)
    · rename_i hm
      exact .cons (Rule.isOf_unmarked hm) (ih (next + 1))

theorem unmarkedRules_eq {vs : List Variant} {rules : List Rule}
    (h : List.Forall₂ Rule.IsOf vs rules) : unmarkedRules rules = unmarkedCount vs := by
  unfold unmarkedRules unmarkedCount
  induction h with
  | nil => rfl
  | cons hrule _ ih => rw [List.countP_cons, List.countP_cons, hrule.marker, ih]

theorem unmarkedRules_cons_marked (m : Marker) (v : Variant) (rules : List Rule) :
    unmarkedRules (Rule.marked m v :: rules) = unmarkedRules rules := by
  simp [unmarkedRules, Rule.marked]

theorem unmarkedRules_cons_unmarked (position total : ℕ) (v : Variant) (rules : List Rule) :
    unmarkedRules (Rule.unmarked position total v :: rules) = unmarkedRules rules + 1 := by
  simp [unmarkedRules, Rule.unmarked]

/-- The number of an unmarked rule counts the unmarked rules before it. -/
theorem eq_unmarked_of_numberFrom {total next : ℕ} {vs : List Variant} {before after : List Rule}
    {rule : Rule} (h : numberFrom total next vs = before ++ rule :: after)
    (hm : rule.marker = none) :
    ∃ v, rule = Rule.unmarked (next + unmarkedRules before) total v := by
  induction vs generalizing next before with
  | nil =>
    rw [numberFrom] at h
    exact absurd h.symm (List.append_ne_nil_of_right_ne_nil _ (List.cons_ne_nil _ _))
  | cons v vs ih =>
    rw [numberFrom] at h
    split at h
    · cases before with
      | nil =>
        -- a marked rule, which the one that is looked for is not
        rw [← (List.cons.inj h).1] at hm
        cases hm
      | cons first before =>
        obtain ⟨rfl, hrest⟩ := List.cons.inj h
        rw [unmarkedRules_cons_marked]
        exact ih hrest
    · cases before with
      | nil => exact ⟨v, (List.cons.inj h).1.symm⟩
      | cons first before =>
        obtain ⟨rfl, hrest⟩ := List.cons.inj h
        -- The number is taken, and the rules behind go on from the next.
        rw [unmarkedRules_cons_unmarked, Nat.add_comm (unmarkedRules before), ← Nat.add_assoc]
        exact ih hrest

/-! ### The rules of a choice string -/

/-- The rules of a choice string as its grammar has them. -/
structure Parses (text : String) (rules : List Rule) : Prop where
  /-- There is one rule for each segment between separators, in order. -/
  segments : rules.map (·.raw.toList) = text.toList.splitOn '|'
  /-- Marker and phrase are what the grammar says of the segment. -/
  classified : ∀ rule ∈ rules, Classifies rule.raw.toList rule.marker rule.text.toList
  /-- A marked rule has the range of its marker and nothing besides. -/
  marked : ∀ rule ∈ rules, ∀ m, rule.marker = some m →
    rule.low = m.low ∧ rule.high = m.high ∧ rule.zero = false
  /-- An unmarked rule is for its number among the unmarked ones, the last of them also for what is
  above, and for zero if it is not the only one. -/
  numbered : ∀ before rule after, rules = before ++ rule :: after → rule.marker = none →
    rule.low = min (unmarkedRules before + 1) maxCount ∧
    rule.high = (if unmarkedRules before + 1 = unmarkedRules rules then .unbounded
      else .inclusive (min (unmarkedRules before + 1) maxCount)) ∧
    (rule.zero = true ↔
      unmarkedRules before + 1 = unmarkedRules rules ∧ 1 < unmarkedRules rules)

/-- The variants of a choice string. -/
theorem forall₂_parseRules (text : String) :
    List.Forall₂ (fun segment rule => Rule.IsOf (Variant.ofSegment segment) rule)
      (splitAt separator text.toList) (parseRules text) :=
  List.forall₂_map_left_iff.1 (forall₂_numberFrom _ _ 1)

theorem map_raw_eq {segments : List (List Char)} {rules : List Rule}
    (h : List.Forall₂ (fun segment rule => Rule.IsOf (Variant.ofSegment segment) rule)
      segments rules) : rules.map (·.raw.toList) = segments := by
  induction h with
  | nil => rfl
  | cons hrule _ ih =>
    rw [List.map_cons, ih, hrule.raw, raw_ofSegment, String.toList_ofList]

theorem exists_isOf_of_mem {segments : List (List Char)} {rules : List Rule} {rule : Rule}
    (h : List.Forall₂ (fun segment rule => Rule.IsOf (Variant.ofSegment segment) rule)
      segments rules) (hmem : rule ∈ rules) :
    ∃ segment, rule.IsOf (Variant.ofSegment segment) := by
  induction h with
  | nil => cases hmem
  | cons hrule _ ih =>
    rcases List.mem_cons.1 hmem with rfl | hmem
    · exact ⟨_, hrule⟩
    · exact ih hmem

/-- The reader gives the rules that the grammar asks for. -/
theorem parses_parseRules (text : String) : Parses text (parseRules text) where
  segments := by
    rw [map_raw_eq (forall₂_parseRules text), splitAt_eq_splitOn]
    rfl
  classified := by
    intro rule hrule
    obtain ⟨segment, h⟩ := exists_isOf_of_mem (forall₂_parseRules text) hrule
    rw [h.marker, h.text, h.raw, raw_ofSegment, String.toList_ofList, String.toList_ofList]
    exact classifies_ofSegment segment
  marked := by
    intro rule hrule m hm
    obtain ⟨segment, h⟩ := exists_isOf_of_mem (forall₂_parseRules text) hrule
    exact h.range hm
  numbered := by
    intro before rule after heq hm
    obtain ⟨v, rfl⟩ := eq_unmarked_of_numberFrom heq hm
    rw [parseRules, rulesOf, unmarkedRules_eq (forall₂_numberFrom _ _ 1), Nat.add_comm 1]
    exact ⟨rfl, rfl, by simp [Rule.unmarked]⟩

/-! ### The grammar leaves no choice -/

theorem Leftmost.occurs {P : Marker → List Char → Prop} {s before token after : List Char}
    {m : Marker} (h : Leftmost P s m before token after) : Occurs P s :=
  ⟨m, before, token, after, h.eq, h.isToken⟩

/-- A segment has one marker and one phrase. -/
theorem Classifies.unique {segment phrase phrase' : List Char} {m m' : Option Marker}
    (h : Classifies segment m phrase) (h' : Classifies segment m' phrase') :
    m = m' ∧ phrase = phrase' := by
  -- Of two different classes one says that there is a marker which the other denies.
  cases h with
  | exact h =>
    cases h' with
    | exact h' =>
      obtain ⟨rfl, rfl, -, rfl⟩ := h.unique recognizes_readExact h'
      exact ⟨rfl, rfl⟩
    | interval hexact _ => exact absurd h.occurs hexact
    | unmarked hexact _ => exact absurd h.occurs hexact
  | interval hexact h =>
    cases h' with
    | exact h' => exact absurd h'.occurs hexact
    | interval _ h' =>
      obtain ⟨rfl, rfl, -, rfl⟩ := h.unique recognizes_readInterval h'
      exact ⟨rfl, rfl⟩
    | unmarked _ hinterval => exact absurd h.occurs hinterval
  | unmarked hexact hinterval =>
    cases h' with
    | exact h' => exact absurd h'.occurs hexact
    | interval _ h' => exact absurd h'.occurs hinterval
    | unmarked _ _ => exact ⟨rfl, rfl⟩

attribute [ext] Rule

theorem unmarkedRules_eq_of_map {rules rules' : List Rule}
    (h : rules.map Rule.marker = rules'.map Rule.marker) :
    unmarkedRules rules = unmarkedRules rules' := by
  have hcount := congrArg (List.countP Option.isNone) h
  rw [List.countP_map, List.countP_map] at hcount
  exact hcount

theorem Parses.length_eq {text : String} {rules rules' : List Rule} (h : Parses text rules)
    (h' : Parses text rules') : rules.length = rules'.length := by
  have hraws : rules.map (·.raw.toList) = rules'.map (·.raw.toList) :=
    h.segments.trans h'.segments.symm
  simpa using congrArg List.length hraws

/-- The rules of one segment have the same text, marker and phrase. -/
theorem Parses.classified_unique {text : String} {rules rules' : List Rule} (h : Parses text rules)
    (h' : Parses text rules') (i : ℕ) (hi : i < rules.length) (hi' : i < rules'.length) :
    rules[i].raw = rules'[i].raw ∧ rules[i].marker = rules'[i].marker ∧
      rules[i].text = rules'[i].text := by
  have hraws : rules.map (·.raw.toList) = rules'.map (·.raw.toList) :=
    h.segments.trans h'.segments.symm
  have hget := List.getElem_of_eq hraws (by simpa using hi : i < (rules.map _).length)
  rw [List.getElem_map, List.getElem_map] at hget
  have hraw : rules[i].raw = rules'[i].raw := String.toList_inj.1 hget
  have hc := h.classified _ (List.getElem_mem hi)
  have hc' := h'.classified _ (List.getElem_mem hi')
  rw [← hraw] at hc'
  obtain ⟨hmarker, htext⟩ := hc.unique hc'
  exact ⟨hraw, hmarker, String.toList_inj.1 htext⟩

theorem Parses.map_marker_eq {text : String} {rules rules' : List Rule} (h : Parses text rules)
    (h' : Parses text rules') : rules.map Rule.marker = rules'.map Rule.marker := by
  refine List.ext_getElem (by simpa using h.length_eq h') fun i hi hi' => ?_
  rw [List.length_map] at hi hi'
  rw [List.getElem_map, List.getElem_map]
  exact (h.classified_unique h' i hi hi').2.1

/-- The rules of one segment have the same range, that of the marker or else that of the number. -/
theorem Parses.range_unique {text : String} {rules rules' : List Rule} (h : Parses text rules)
    (h' : Parses text rules') (i : ℕ) (hi : i < rules.length) (hi' : i < rules'.length) :
    rules[i].low = rules'[i].low ∧ rules[i].high = rules'[i].high ∧
      rules[i].zero = rules'[i].zero := by
  obtain ⟨-, hmarker, -⟩ := h.classified_unique h' i hi hi'
  cases hm : rules[i].marker with
  | some m =>
    obtain ⟨hlow, hhigh, hzero⟩ := h.marked _ (List.getElem_mem hi) m hm
    obtain ⟨hlow', hhigh', hzero'⟩ := h'.marked _ (List.getElem_mem hi') m (hmarker ▸ hm)
    rw [hlow, hhigh, hzero, hlow', hhigh', hzero']
    exact ⟨rfl, rfl, rfl⟩
  | none =>
    -- both are numbered by as many unmarked rules before them, of as many in all
    have hmarkers := h.map_marker_eq h'
    have hbefore : unmarkedRules (rules.take i) = unmarkedRules (rules'.take i) := by
      apply unmarkedRules_eq_of_map
      rw [List.map_take, List.map_take, hmarkers]
    have hsplit : ∀ {l : List Rule} (hl : i < l.length), l = l.take i ++ l[i] :: l.drop (i + 1) :=
      fun hl => by rw [← List.drop_eq_getElem_cons hl, List.take_append_drop]
    obtain ⟨hlow, hhigh, hzero⟩ := h.numbered _ _ _ (hsplit hi) hm
    obtain ⟨hlow', hhigh', hzero'⟩ := h'.numbered _ _ _ (hsplit hi') (hmarker ▸ hm)
    rw [← hbefore] at hlow' hhigh' hzero'
    rw [← unmarkedRules_eq_of_map hmarkers] at hhigh' hzero'
    exact ⟨hlow.trans hlow'.symm, hhigh.trans hhigh'.symm,
      Bool.eq_iff_iff.2 (hzero.trans hzero'.symm)⟩

/-- Two lists of rules that the grammar asks for are the same. -/
theorem Parses.unique {text : String} {rules rules' : List Rule} (h : Parses text rules)
    (h' : Parses text rules') : rules = rules' := by
  refine List.ext_getElem (h.length_eq h') fun i hi hi' => ?_
  obtain ⟨hraw, hmarker, htext⟩ := h.classified_unique h' i hi hi'
  obtain ⟨hlow, hhigh, hzero⟩ := h.range_unique h' i hi hi'
  exact Rule.ext hmarker hlow hhigh hzero htext hraw

/-! ### The choice -/

/-- A count is in the range of a rule. -/
def Rule.Covers (rule : Rule) (count : Int64) : Prop :=
  ((rule.low : ℤ) ≤ count.toInt ∧ count.toInt ≤ (rule.high.limit : ℤ)) ∨
    (rule.zero = true ∧ count = 0)

theorem Rule.contains_iff {rule : Rule} {count : Int64} :
    rule.contains count = true ↔ rule.Covers count := by
  have hzero : count.toInt = 0 ↔ count = 0 := by
    rw [← Int64.toInt_zero, Int64.toInt_inj]
  simp [Rule.contains, Rule.Covers, hzero]

/-- The chosen phrase is that of the first rule whose range has the count, or the whole choice
string if there is none. -/
theorem choose_eq_first (text : String) (count : Int64) :
    (∃ before rule after, parseRules text = before ++ rule :: after ∧ rule.Covers count ∧
      (∀ earlier ∈ before, ¬ earlier.Covers count) ∧ choose text count = rule.text) ∨
    ((∀ rule ∈ parseRules text, ¬ rule.Covers count) ∧ choose text count = text) := by
  unfold choose select
  cases hfind : (parseRules text).find? fun rule => rule.contains count with
  | some rule =>
    left
    obtain ⟨hrule, before, after, heq, hbefore⟩ := List.find?_eq_some_iff_append.1 hfind
    refine ⟨before, rule, after, heq, Rule.contains_iff.1 hrule, ?_, rfl⟩
    -- The search has passed the rules in front.
    intro earlier hmem hcovers
    have hnot := hbefore earlier hmem
    rw [Rule.contains_iff.2 hcovers] at hnot
    cases hnot
  | none =>
    right
    refine ⟨?_, rfl⟩
    intro rule hmem hcovers
    exact List.find?_eq_none.1 hfind rule hmem (Rule.contains_iff.2 hcovers)

/-- **The meaning of a choice string.**  Its rules are the ones that the grammar asks for and no
others, their texts with separators between them are the choice string, and the phrase that is
chosen for a count is that of the first rule whose range has it. -/
theorem parses_iff_and_choose_first (text : String) (count : Int64) :
    (∀ rules, Parses text rules ↔ rules = parseRules text) ∧
    ['|'].intercalate ((parseRules text).map (·.raw.toList)) = text.toList ∧
    ((∃ before rule after, parseRules text = before ++ rule :: after ∧ rule.Covers count ∧
        (∀ earlier ∈ before, ¬ earlier.Covers count) ∧ choose text count = rule.text) ∨
      ((∀ rule ∈ parseRules text, ¬ rule.Covers count) ∧ choose text count = text)) := by
  refine ⟨fun rules => ⟨fun h => h.unique (parses_parseRules text), ?_⟩, ?_, ?_⟩
  · rintro rfl
    exact parses_parseRules text
  · rw [(parses_parseRules text).segments, List.intercalate_splitOn]
  · exact choose_eq_first text count

end Phrasebook.Choice
