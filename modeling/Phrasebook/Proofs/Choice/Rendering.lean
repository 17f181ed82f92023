import Phrasebook.Proofs.Choice.Rule
import Phrasebook.Proofs.Text.Decimal

/-!
# Writing choice strings

A choice string is written from phrases and the markers that they are meant to have: each marker
goes in front of its phrase, with its numbers in decimal, and `|` between the variants.  Reading
gives the same phrases and markers back, as long as no phrase looks like something else
(`Intended.Readable`).

* `classifies_written`: by the grammar, a variant that is written so has the marker that was meant.
  The leftmost token is the one in front, and for an interval no exact one comes behind it.
* `ofSegment_written`: so that is what the reader gives, since the grammar leaves no choice.
* `parseRules_writeVariants`: the whole choice string, and that no other variants are written as
  the same one.
-/

namespace Phrasebook.Choice

open Phrasebook.Text

/-- A phrase with the marker that it is meant to have, if any. -/
structure Intended where
  marker : Option Marker
  phrase : String

/-- A marker as it is written. -/
def Marker.written : Marker → List Char
  | .exact count => '{' :: decimal count ++ ['}']
  | .interval low high => '[' :: decimal low ++ ',' :: high.show.toList ++ [']']

/-- A variant as it is written, the marker first. -/
def Intended.written (v : Intended) : List Char :=
  match v.marker with
  | some m => m.written ++ ' ' :: v.phrase.toList
  | none => v.phrase.toList

/-- The choice string of variants. -/
def writeVariants (vs : List Intended) : String :=
  String.ofList (joinWith [separator] (vs.map Intended.written))

/-- The numbers are counts, and the phrase cannot be taken for something else: it has no separator,
no white space at its ends behind a marker, and no token that would win over the marker in front,
or make a marked variant of an unmarked one. -/
inductive Intended.Readable : Intended → Prop
  | exact {count : ℕ} {phrase : String} (count_le : count ≤ maxCount)
      (not_mem : '|' ∉ phrase.toList) (trimmed : trim phrase.toList = phrase.toList) :
      Readable ⟨some (.exact count), phrase⟩
  | interval {low : ℕ} {high : Bound} {phrase : String} (low_le : low ≤ maxCount)
      (high_le : high.limit ≤ maxCount) (not_mem : '|' ∉ phrase.toList)
      (trimmed : trim phrase.toList = phrase.toList)
      (noExact : ¬ Occurs ExactToken phrase.toList) :
      Readable ⟨some (.interval low high), phrase⟩
  | unmarked {phrase : String} (not_mem : '|' ∉ phrase.toList)
      (noExact : ¬ Occurs ExactToken phrase.toList)
      (noInterval : ¬ Occurs IntervalToken phrase.toList) : Readable ⟨none, phrase⟩

/-- A rule is what was meant. -/
structure Intended.ReadAs (v : Intended) (rule : Rule) : Prop where
  marker : rule.marker = v.marker
  /-- The range of a marked variant is that of its marker. -/
  range : ∀ m, v.marker = some m → rule.low = m.low ∧ rule.high = m.high ∧ rule.zero = false
  text : rule.text = v.phrase
  raw : rule.raw.toList = v.written
  isExact : rule.isExact = true ↔ ∃ count, v.marker = some (.exact count)
  isInterval : rule.isInterval = true ↔ ∃ low high, v.marker = some (.interval low high)

/-! ### Markers -/

theorem isNumeral_decimal (n : ℕ) : IsNumeral (decimal n) :=
  ⟨decimal_ne_nil n, fun _ h => isDigit_of_mem_decimal h⟩

/-- A number that is a count has itself as its value, and not the largest count. -/
theorem saturated_decimal {n : ℕ} (h : n ≤ maxCount) :
    min (digitsValue (decimal n)) maxCount = n := by
  rw [digitsValue_decimal]
  omega

theorem exactToken_written {count : ℕ} (h : count ≤ maxCount) :
    ExactToken (.exact count) (Marker.exact count).written := by
  have htoken := ExactToken.intro (isNumeral_decimal count)
  rw [saturated_decimal h] at htoken
  exact htoken

theorem upperToken_show {high : Bound} (h : high.limit ≤ maxCount) :
    UpperToken high high.show.toList := by
  cases high with
  | unbounded => exact .star
  | inclusive limit =>
    have hlimit : limit ≤ maxCount := h
    have htoken := UpperToken.numeral (isNumeral_decimal limit)
    rw [saturated_decimal hlimit] at htoken
    rw [Bound.show, String.toList_ofList]
    exact htoken

theorem intervalToken_written {low : ℕ} {high : Bound} (hlow : low ≤ maxCount)
    (hhigh : high.limit ≤ maxCount) :
    IntervalToken (.interval low high) (Marker.interval low high).written := by
  have hblanks : ∀ c ∈ ([] : List Char), isBlank c := nofun
  have htoken := IntervalToken.intro (isNumeral_decimal low) hblanks (upperToken_show hhigh)
  rw [saturated_decimal hlow] at htoken
  simpa [Marker.written] using htoken

/-- A character that is neither a digit nor one of the signs of a marker is not in a marker. -/
theorem not_mem_written {c : Char} (hdigit : ¬ isDigit c = true) (hsign : c ∉ "{}[],*".toList)
    (m : Marker) : c ∉ m.written := by
  have hdecimal : ∀ n, c ∉ decimal n := fun n h => hdigit (isDigit_of_mem_decimal h)
  have hshow : ∀ high : Bound, c ∉ high.show.toList := by
    intro high
    cases high with
    | unbounded =>
      rintro h
      obtain rfl := List.mem_singleton.1 h
      exact hsign (by decide)
    | inclusive limit =>
      rw [Bound.show, String.toList_ofList]
      exact hdecimal limit
  have hne : ∀ d ∈ "{}[],*".toList, c ≠ d := by
    rintro d hd rfl
    exact hsign hd
  -- A marker is written with digits and signs only.
  cases m with
  | exact count =>
    simp [Marker.written, hdecimal, hne '{' (by decide), hne '}' (by decide)]
  | interval low high =>
    simp [Marker.written, hdecimal, hshow, hne '[' (by decide), hne ',' (by decide),
      hne ']' (by decide)]

/-! ### Variants -/

/-- A token at the very start is the leftmost. -/
theorem leftmost_append {P : Marker → List Char → Prop} {m : Marker} {token : List Char}
    (h : P m token) (after : List Char) : Leftmost P (token ++ after) m [] token after :=
  ⟨rfl, h, fun _ _ => Nat.zero_le _⟩

/-- A text without an opening brace in front adds no exact token. -/
theorem not_occurs_exactToken_append {l s : List Char} (hl : '{' ∉ l)
    (h : ¬ Occurs ExactToken s) : ¬ Occurs ExactToken (l ++ s) := by
  have hs : findExact s = none := (findFirst_eq_none_iff recognizes_readExact).2 h
  refine (findFirst_eq_none_iff recognizes_readExact).1 ?_
  show findExact (l ++ s) = none
  rw [findExact_append hl, hs]
  rfl

theorem trim_cons_space (s : List Char) : trim (' ' :: s) = trim s := by
  unfold trim trimStart
  rw [List.dropWhile_cons_of_pos (by decide)]

/-- The grammar finds the marker that was meant, and the phrase behind it. -/
theorem classifies_written {v : Intended} (h : v.Readable) :
    Classifies v.written v.marker v.phrase.toList := by
  cases h with
  | @exact count phrase count_le not_mem trimmed =>
    have hleft := leftmost_append (exactToken_written count_le) (' ' :: phrase.toList)
    have hclass := Classifies.exact hleft
    rw [List.nil_append, trim_cons_space, trimmed] at hclass
    exact hclass
  | @interval low high phrase low_le high_le not_mem trimmed noExact =>
    have hbrace : '{' ∉ (Marker.interval low high).written ++ [' '] := by
      have hdecimal : ∀ n, '{' ∉ decimal n := fun n hn =>
        absurd (isDigit_of_mem_decimal hn) (by decide)
      cases high <;> simp [Marker.written, Bound.show, hdecimal]
    -- An interval counts only if no exact marker stands in the segment, and none stands in the part
    -- that is written in front of the phrase.
    have hno :
        ¬ Occurs ExactToken ((Marker.interval low high).written ++ ' ' :: phrase.toList) := by
      have happend := not_occurs_exactToken_append hbrace noExact
      rwa [List.append_assoc] at happend
    have hleft := leftmost_append (intervalToken_written low_le high_le) (' ' :: phrase.toList)
    have hclass := Classifies.interval hno hleft
    rw [List.nil_append, trim_cons_space, trimmed] at hclass
    exact hclass
  | unmarked not_mem noExact noInterval => exact .unmarked noExact noInterval

theorem ofSegment_written {v : Intended} (h : v.Readable) :
    Variant.ofSegment v.written = ⟨v.marker, v.phrase.toList, v.written⟩ := by
  obtain ⟨hmarker, hphrase⟩ := (classifies_ofSegment v.written).unique (classifies_written h)
  have hraw := raw_ofSegment v.written
  generalize Variant.ofSegment v.written = variant at hmarker hphrase hraw
  cases variant
  cases hmarker
  cases hphrase
  cases hraw
  rfl

theorem not_mem_written_of_readable {v : Intended} (h : v.Readable) : separator ∉ v.written := by
  have hmarked : ∀ (m : Marker) (s : List Char), '|' ∉ s → '|' ∉ m.written ++ ' ' :: s := by
    intro m s hs
    simpa [not_mem_written (c := '|') (by decide) (by decide) m] using hs
  cases h with
  | exact _ not_mem _ => exact hmarked _ _ not_mem
  | interval _ _ not_mem _ _ => exact hmarked _ _ not_mem
  | unmarked not_mem _ _ => exact not_mem

/-! ### Choice strings -/

/-- The segments of a choice string are its variants as they were written. -/
theorem splitAt_writeVariants {vs : List Intended} (hne : vs ≠ []) (h : ∀ v ∈ vs, v.Readable) :
    splitAt separator (writeVariants vs).toList = vs.map Intended.written := by
  rw [writeVariants, String.toList_ofList]
  refine splitAt_joinWith (by simpa using hne) ?_
  intro segment hsegment
  obtain ⟨v, hv, rfl⟩ := List.mem_map.1 hsegment
  exact not_mem_written_of_readable (h v hv)

theorem readAs_of_isOf {v : Intended} {rule : Rule}
    (h : rule.IsOf ⟨v.marker, v.phrase.toList, v.written⟩) : v.ReadAs rule where
  marker := h.marker
  range m hm := h.range (h.marker.trans hm)
  text := by rw [h.text, String.ofList_toList]
  raw := by rw [h.raw, String.toList_ofList]
  isExact := by
    rw [Rule.isExact, h.marker]
    rcases v.marker with _ | (_ | _) <;> simp
  isInterval := by
    rw [Rule.isInterval, h.marker]
    rcases v.marker with _ | (_ | _) <;> simp

/-- Reading gives what was meant, variant by variant. -/
theorem forall₂_readAs {vs : List Intended} (hne : vs ≠ []) (h : ∀ v ∈ vs, v.Readable) :
    List.Forall₂ Intended.ReadAs vs (parseRules (writeVariants vs)) := by
  have hrules := forall₂_parseRules (writeVariants vs)
  rw [splitAt_writeVariants hne h, List.forall₂_map_left_iff] at hrules
  refine ((List.forall₂_and_left vs _).2 ⟨h, hrules⟩).imp ?_
  rintro v rule ⟨hv, hrule⟩
  rw [ofSegment_written hv] at hrule
  exact readAs_of_isOf hrule

/-- A rule tells what was meant. -/
theorem Intended.ReadAs.unique {v w : Intended} {rule : Rule} (h : v.ReadAs rule)
    (h' : w.ReadAs rule) : v = w := by
  have hmarker : v.marker = w.marker := h.marker.symm.trans h'.marker
  have hphrase : v.phrase = w.phrase := h.text.symm.trans h'.text
  cases v
  cases w
  cases hmarker
  cases hphrase
  rfl

/-- **Writing and reading.**  For every list of variants that is not empty, with numbers up to the
largest count and phrases that cannot be taken for something else, the rules of the written choice
string are the variants in order: each has the marker, the bounds and the phrase that were meant and
the written variant as its text.  No other list of such variants is written as the same choice
string. -/
theorem parseRules_writeVariants (vs : List Intended) (hne : vs ≠ [])
    (h : ∀ v ∈ vs, v.Readable) :
    List.Forall₂ Intended.ReadAs vs (parseRules (writeVariants vs)) ∧
      ∀ ws : List Intended, ws ≠ [] → (∀ w ∈ ws, w.Readable) →
        writeVariants ws = writeVariants vs → ws = vs := by
  have hread := forall₂_readAs hne h
  refine ⟨hread, fun ws hne' h' heq => ?_⟩
  have hread' := forall₂_readAs hne' h'
  rw [heq] at hread'
  have hunique : Relator.LeftUnique Intended.ReadAs := fun _ _ _ hv hw => hv.unique hw
  exact List.left_unique_forall₂' hunique hread' hread

/-- The largest count, an interval before a phrase that has one of its own, an interval of no count
before an empty phrase, and an unmarked variant with pieces of markers and white space at the
ends. -/
theorem parseRules_writeVariants_figs :
    writeVariants [⟨some (.exact maxCount), "{1} [a"⟩, ⟨some (.interval 2 .unbounded), "[3,4] b"⟩,
        ⟨some (.interval 9 (.inclusive 0)), ""⟩, ⟨none, " {x} [5, "⟩] =
      "{9223372036854775807} {1} [a|[2,*] [3,4] b|[9,0] | {x} [5, " ∧
    List.Forall₂ Intended.ReadAs
      [⟨some (.exact maxCount), "{1} [a"⟩, ⟨some (.interval 2 .unbounded), "[3,4] b"⟩,
        ⟨some (.interval 9 (.inclusive 0)), ""⟩, ⟨none, " {x} [5, "⟩]
      (parseRules "{9223372036854775807} {1} [a|[2,*] [3,4] b|[9,0] | {x} [5, ") := by
  have hwritten : writeVariants [⟨some (.exact maxCount), "{1} [a"⟩,
      ⟨some (.interval 2 .unbounded), "[3,4] b"⟩, ⟨some (.interval 9 (.inclusive 0)), ""⟩,
      ⟨none, " {x} [5, "⟩] = "{9223372036854775807} {1} [a|[2,*] [3,4] b|[9,0] | {x} [5, " := by
    decide +kernel
  -- That no marker occurs is decided by searching for one.
  have hexact : ∀ s : List Char, findExact s = none → ¬ Occurs ExactToken s :=
    fun s hs => (findFirst_eq_none_iff recognizes_readExact).1 hs
  have hinterval : ∀ s : List Char, findInterval s = none → ¬ Occurs IntervalToken s :=
    fun s hs => (findFirst_eq_none_iff recognizes_readInterval).1 hs
  refine ⟨hwritten, ?_⟩
  rw [← hwritten]
  refine (parseRules_writeVariants _ (List.cons_ne_nil _ _) ?_).1
  intro v hv
  simp only [List.mem_cons, List.not_mem_nil, or_false] at hv
  rcases hv with rfl | rfl | rfl | rfl
  · exact .exact le_rfl (by decide) (by decide)
  · exact .interval (by decide) le_rfl (by decide) (by decide) (hexact _ (by decide))
  · exact .interval (by decide) (by decide) (by decide) (by decide) (hexact _ (by decide))
  · exact .unmarked (by decide) (hexact _ (by decide)) (hinterval _ (by decide))

end Phrasebook.Choice
