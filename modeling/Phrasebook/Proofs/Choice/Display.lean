import Phrasebook.App
import Phrasebook.Proofs.Choice.Rule
import Phrasebook.Proofs.Text.Quoted

/-!
# Rules in words

The rules of a choice string are shown one on a line, and the lines tell them apart, whatever their
phrases are made of.

* `Rule.display_eq_iff`: two rules are shown alike exactly if they agree in the form of the marker,
  the range, the remark on zero and the phrase (`Rule.Agrees`).  A comma ends the lower end of the
  range, a bracket the upper end and a space the form, since none of them has its own end in it; the
  phrase ends where the quoted text does (`quoted_append_inj`), so a phrase that looks like the
  remark is not taken for it.
* `Rule.lineFeed_not_mem_display`: a rule is shown on one line.
* `splitOn_explain`: so the lines of an explanation are the rules in order, and `explain_eq_iff`:
  equal explanations are of lists of rules that agree.
* `execute_rules_unambiguous` puts these together for the command that explains a choice string.
-/

namespace Phrasebook.Choice

open Phrasebook.Text

/-! ### The parts of a line -/

theorem Bound.not_mem_show {c : Char} (hdigit : isDigit c = false) (hstar : c ≠ '*')
    (high : Bound) : c ∉ high.show.toList := by
  cases high with
  | inclusive limit =>
    rw [Bound.show, String.toList_ofList]
    exact not_mem_decimal hdigit limit
  | unbounded => simpa [Bound.show] using hstar

/-- An open end is not shown as any number is, the largest count included. -/
theorem Bound.show_injective : Function.Injective fun high : Bound => high.show.toList := by
  have hstar : ∀ n, decimal n ≠ ['*'] := by
    intro n h
    have hmem : '*' ∈ decimal n := h ▸ List.mem_singleton_self '*'
    exact not_mem_decimal (by decide) n hmem
  -- A number is shown in digits, which a star is not.
  intro high high' h
  cases high with
  | inclusive limit =>
    cases high' with
    | inclusive limit' =>
      have hdigits : decimal limit = decimal limit' := by simpa [Bound.show] using h
      rw [decimal_injective hdigits]
    | unbounded => exact absurd (by simpa [Bound.show] using h) (hstar limit)
  | unbounded =>
    cases high' with
    | inclusive limit' => exact absurd (by simpa [Bound.show] using h.symm) (hstar limit')
    | unbounded => rfl

namespace Rule

theorem not_mem_kindName {c : Char} (hc : c = ' ' ∨ c = '\n') (rule : Rule) :
    c ∉ rule.kindName.toList := by
  unfold kindName
  rcases hc with rfl | rfl
  · split <;> decide
  · split <;> decide

/-- The three forms have three names. -/
theorem kindName_eq_iff {rule rule' : Rule} :
    rule.kindName = rule'.kindName ↔
      rule.isExact = rule'.isExact ∧ rule.isInterval = rule'.isInterval := by
  unfold kindName isExact isInterval
  rcases rule.marker with _ | _ | _ <;> rcases rule'.marker with _ | _ | _ <;> simp

/-- What follows the phrase. -/
def remark (rule : Rule) : List Char :=
  if rule.zero then ", also 0".toList else []

theorem remark_eq_iff {rule rule' : Rule} :
    rule.remark = rule'.remark ↔ rule.zero = rule'.zero := by
  unfold remark
  cases rule.zero <;> cases rule'.zero <;> decide

theorem toList_display (rule : Rule) :
    rule.display.toList =
      '[' :: (decimal rule.low ++ ',' :: ' ' :: (rule.high.show.toList ++ ']' :: ' ' ::
        (rule.kindName.toList ++ ' ' :: '=' :: '>' :: ' ' ::
          (quoted rule.text.toList ++ rule.remark)))) := by
  have hremark : (if rule.zero then ", also 0" else "").toList = rule.remark := by
    unfold remark
    split <;> rfl
  simp only [display, quote, String.toList_append, String.toList_ofList, hremark]
  simp

/-! ### One line -/

/-- Two rules agree in all that is shown of them. -/
structure Agrees (rule rule' : Rule) : Prop where
  /-- Both are marked with one count, or neither. -/
  isExact : rule.isExact = rule'.isExact
  /-- Both are marked with an interval, or neither. -/
  isInterval : rule.isInterval = rule'.isInterval
  low : rule.low = rule'.low
  high : rule.high = rule'.high
  zero : rule.zero = rule'.zero
  text : rule.text = rule'.text

/-- What is shown of a rule is all told by the line. -/
theorem agrees_of_display {rule rule' : Rule}
    (h : rule.display.toList = rule'.display.toList) : rule.Agrees rule' := by
  rw [toList_display, toList_display] at h
  -- each part is taken off with the character that ends it
  obtain ⟨hlow, h⟩ := append_cons_inj (not_mem_decimal (by decide) _)
    (not_mem_decimal (by decide) _) (List.cons.inj h).2
  obtain ⟨hhigh, h⟩ := append_cons_inj (Bound.not_mem_show (by decide) (by decide) _)
    (Bound.not_mem_show (by decide) (by decide) _) (List.cons.inj h).2
  obtain ⟨hkind, h⟩ := append_cons_inj (not_mem_kindName (Or.inl rfl) rule)
    (not_mem_kindName (Or.inl rfl) rule') (List.cons.inj h).2
  have hquoted : quoted rule.text.toList ++ rule.remark =
      quoted rule'.text.toList ++ rule'.remark := by
    simpa using h
  obtain ⟨htext, hremark⟩ := quoted_append_inj hquoted
  obtain ⟨hexact, hinterval⟩ := kindName_eq_iff.1 (String.toList_inj.1 hkind)
  exact {
    isExact := hexact
    isInterval := hinterval
    low := decimal_injective hlow
    high := Bound.show_injective hhigh
    zero := remark_eq_iff.1 hremark
    text := String.toList_inj.1 htext }

theorem display_eq_iff {rule rule' : Rule} : rule.display = rule'.display ↔ rule.Agrees rule' := by
  constructor
  · intro h
    exact agrees_of_display (congrArg String.toList h)
  · intro h
    have hkind : rule.kindName = rule'.kindName := kindName_eq_iff.2 ⟨h.isExact, h.isInterval⟩
    unfold display
    rw [h.low, h.high, hkind, h.text, h.zero]

theorem lineFeed_not_mem_display (rule : Rule) : '\n' ∉ rule.display.toList := by
  have hlow : '\n' ∉ decimal rule.low := not_mem_decimal (by decide) _
  have hhigh : '\n' ∉ rule.high.show.toList := Bound.not_mem_show (by decide) (by decide) _
  have hkind : '\n' ∉ rule.kindName.toList := not_mem_kindName (Or.inr rfl) rule
  have htext : '\n' ∉ quoted rule.text.toList := lineFeed_not_mem_quoted _
  have hremark : '\n' ∉ rule.remark := by
    unfold remark
    split <;> decide
  rw [toList_display]
  simp [hlow, hhigh, hkind, htext, hremark]

end Rule

/-! ### All lines -/

theorem parseRules_ne_nil (text : String) : parseRules text ≠ [] := by
  have hsegments : (parseRules text).map (·.raw.toList) = text.toList.splitOn '|' :=
    (parses_parseRules text).segments
  intro h
  rw [h, ← splitAt_eq_splitOn] at hsegments
  exact splitAt_ne_nil '|' text.toList hsegments.symm

theorem splitOn_explain (text : String) :
    (explain text).toList.splitOn '\n' = (parseRules text).map (·.display.toList) := by
  have hlines : (explain text).toList =
      joinWith ['\n'] ((parseRules text).map (·.display.toList)) := by
    unfold explain
    rw [joinWith_eq_intercalate, String.toList_intercalate, List.map_map]
    rfl
  have hne : (parseRules text).map (·.display.toList) ≠ [] := by
    simpa using parseRules_ne_nil text
  rw [hlines, ← splitAt_eq_splitOn]
  refine splitAt_joinWith hne fun line hline => ?_
  obtain ⟨rule, -, rfl⟩ := List.mem_map.1 hline
  exact rule.lineFeed_not_mem_display

theorem explain_eq_iff (text text' : String) :
    explain text = explain text' ↔
      List.Forall₂ Rule.Agrees (parseRules text) (parseRules text') := by
  have hdisplay : explain text = explain text' ↔
      (parseRules text).map Rule.display = (parseRules text').map Rule.display := by
    constructor
    · intro h
      -- The lines of the output are the displayed rules.
      have hlines := congrArg (fun output : String => output.toList.splitOn '\n') h
      simp only [splitOn_explain] at hlines
      have hstrings := congrArg (List.map String.ofList) hlines
      simpa [Function.comp_def] using hstrings
    · intro h
      unfold explain
      rw [h]
  rw [hdisplay, ← List.forall₂_eq_eq_eq, List.forall₂_map_left_iff, List.forall₂_map_right_iff]
  simp only [Rule.display_eq_iff]

/-- **What the rules of a choice string are shown as tells them.**  The output of the command has
one line for each segment of the text between separators, in order; a line is the rule of its
segment in words, whatever characters the phrases have.  Two texts have the same output exactly if
their rules agree one by one in the form of the marker, both ends of the range, the remark on zero
and the phrase.  An open end is not taken for the largest count. -/
theorem execute_rules_unambiguous {σ : Type} (s : Session σ) (text text' : String) :
    (App.execute (.rules text) s).1.toList.splitOn '\n' =
      (parseRules text).map (·.display.toList) ∧
    (parseRules text).map (·.raw.toList) = text.toList.splitOn '|' ∧
    ((App.execute (.rules text) s).1.toList.splitOn '\n').length =
      (text.toList.splitOn '|').length ∧
    ((App.execute (.rules text) s).1 = (App.execute (.rules text') s).1 ↔
      List.Forall₂ Rule.Agrees (parseRules text) (parseRules text')) := by
  have hlines : (App.execute (.rules text) s).1.toList.splitOn '\n' =
      (parseRules text).map (·.display.toList) := splitOn_explain text
  have hsegments := (parses_parseRules text).segments
  refine ⟨hlines, hsegments, ?_, explain_eq_iff text text'⟩
  rw [hlines, ← hsegments, List.length_map, List.length_map]

/-- The phrase of the first segment ends like a quoted text with a remark, and has a line feed. -/
example : explain "\x7b0\x7d a\", also 0\nb|c" =
    "[0, 0] exact => \"a\\\", also 0\\nb\"\n[1, *] implicit => \"c\"" := by decide +kernel

end Phrasebook.Choice
