import Phrasebook.Proofs.Choice.Numbering

/-!
# Choice strings side by side

Only the numbers of the unmarked variants depend on what else is in a choice string.  So variants
that are all marked can be added at either end of one, and no rule changes: neither the numbers nor
which of them is the last.

* `numberFrom_append`: the second part goes on with the numbers where the first part stops.
* `numberFrom_eq_of_unmarkedCount_eq_zero`: variants that are all marked do not see the numbers.
* `rulesOf_append`: so the rules of two parts are those of each, if one of the parts is fully
  marked.
* `parseRules_append` carries this to choice strings, and to the phrases that are chosen from them.
-/

namespace Phrasebook.Choice

open Phrasebook.Text

/-! ### Numbers -/

theorem unmarkedCount_append (vs ws : List Variant) :
    unmarkedCount (vs ++ ws) = unmarkedCount vs + unmarkedCount ws :=
  List.countP_append

/-- The second part has the numbers from behind the first. -/
theorem numberFrom_append (total next : ℕ) (vs ws : List Variant) :
    numberFrom total next (vs ++ ws) =
      numberFrom total next vs ++ numberFrom total (next + unmarkedCount vs) ws := by
  induction vs generalizing next with
  | nil => rfl
  | cons v vs ih =>
    rw [List.cons_append, numberFrom, numberFrom]
    -- only an unmarked variant takes a number away from those behind it
    cases hm : v.marker with
    | some m =>
      have hcount : unmarkedCount (v :: vs) = unmarkedCount vs := by simp [unmarkedCount, hm]
      dsimp only
      rw [ih, hcount, List.cons_append]
    | none =>
      have hcount : unmarkedCount (v :: vs) = unmarkedCount vs + 1 := by simp [unmarkedCount, hm]
      dsimp only
      rw [ih, hcount, List.cons_append, Nat.add_assoc, Nat.add_comm 1]

/-- Where all are marked, no number is given. -/
theorem numberFrom_eq_of_unmarkedCount_eq_zero {vs : List Variant} (h : unmarkedCount vs = 0)
    (total next total' next' : ℕ) : numberFrom total next vs = numberFrom total' next' vs := by
  induction vs with
  | nil => rfl
  | cons v vs ih =>
    have hmarked : ∀ w ∈ v :: vs, ¬ w.marker.isNone = true := List.countP_eq_zero.1 h
    have hrest : unmarkedCount vs = 0 :=
      List.countP_eq_zero.2 fun w hw => hmarked w (List.mem_cons_of_mem v hw)
    cases hm : v.marker with
    | some m =>
      rw [numberFrom, numberFrom, hm]
      dsimp only
      rw [ih hrest]
    | none => exact absurd (by rw [hm]; rfl) (hmarked v List.mem_cons_self)

/-- Variants that are all marked can be added at either end. -/
theorem rulesOf_append {vs ws : List Variant} (h : unmarkedCount vs = 0 ∨ unmarkedCount ws = 0) :
    rulesOf (vs ++ ws) = rulesOf vs ++ rulesOf ws := by
  unfold rulesOf
  rw [unmarkedCount_append, numberFrom_append]
  rcases h with h | h
  · rw [h, Nat.zero_add, Nat.add_zero, numberFrom_eq_of_unmarkedCount_eq_zero h _ _ 0 1]
  · rw [h, Nat.add_zero, numberFrom_eq_of_unmarkedCount_eq_zero h _ _ 0 1]

/-! ### Choice strings -/

/-- Each segment of a choice string has a marker of one of the two forms. -/
def FullyMarked (text : String) : Prop :=
  ∀ segment ∈ text.toList.splitOn '|', Occurs ExactToken segment ∨ Occurs IntervalToken segment

theorem fullyMarked_iff_forall_not_unmarked (text : String) :
    FullyMarked text ↔ ∀ segment ∈ text.toList.splitOn '|', ¬ Unmarked segment := by
  refine forall₂_congr fun segment _ => ⟨?_, fun h => ?_⟩
  · rintro (hexact | hinterval) hun
    · exact hun.exact hexact
    · exact hun.interval hinterval
  · by_contra hno
    rw [not_or] at hno
    exact h ⟨hno.1, hno.2⟩

instance (text : String) : Decidable (FullyMarked text) :=
  decidable_of_iff' _ (fullyMarked_iff_forall_not_unmarked text)

/-- The variants of a choice string. -/
def variantsOf (text : String) : List Variant :=
  (splitAt separator text.toList).map Variant.ofSegment

theorem FullyMarked.unmarkedCount_eq {text : String} (h : FullyMarked text) :
    unmarkedCount (variantsOf text) = 0 := by
  refine List.countP_eq_zero.2 fun v hv => ?_
  obtain ⟨segment, hsegment, rfl⟩ := List.mem_map.1 hv
  rw [isNone_marker_iff]
  rw [splitAt_eq_splitOn] at hsegment
  exact (fullyMarked_iff_forall_not_unmarked text).1 h segment hsegment

theorem variantsOf_append (t s : String) :
    variantsOf (t ++ "|" ++ s) = variantsOf t ++ variantsOf s := by
  have hlist : (t ++ "|" ++ s).toList = t.toList ++ separator :: s.toList := by
    simp [separator]
  rw [variantsOf, hlist, splitAt_append_cons, List.map_append]
  rfl

theorem parseRules_append_of_fullyMarked {t s : String} (h : FullyMarked t ∨ FullyMarked s) :
    parseRules (t ++ "|" ++ s) = parseRules t ++ parseRules s := by
  have hcount := h.imp FullyMarked.unmarkedCount_eq FullyMarked.unmarkedCount_eq
  show rulesOf (variantsOf (t ++ "|" ++ s)) = rulesOf (variantsOf t) ++ rulesOf (variantsOf s)
  rw [variantsOf_append, rulesOf_append hcount]

/-! ### Choices -/

theorem select_append (rules rules' : List Rule) (count : Int64) :
    select (rules ++ rules') count = (select rules count).or (select rules' count) :=
  List.find?_append

theorem choose_eq_getD (text : String) (count : Int64) :
    choose text count = ((select (parseRules text) count).map Rule.text).getD text := by
  unfold choose
  cases select (parseRules text) count <;> rfl

theorem select_eq_none_iff {rules : List Rule} {count : Int64} :
    select rules count = none ↔ ∀ rule ∈ rules, ¬ rule.contains count = true :=
  List.find?_eq_none

/-- **Marked variants can be added at either end.**  If each segment of `s` has a marker, then the
rules of `s` and any `t` side by side are those of the one and then those of the other.  With `s`
behind `t`, a count that a rule of `t` has is chosen for as in `t` alone; for any other count the
choice is that from `s`, or the whole of both. -/
theorem parseRules_append (t s : String) (h : FullyMarked s) :
    parseRules (t ++ "|" ++ s) = parseRules t ++ parseRules s ∧
    parseRules (s ++ "|" ++ t) = parseRules s ++ parseRules t ∧
    ∀ count : Int64,
      ((∃ rule ∈ parseRules t, rule.contains count = true) →
        choose (t ++ "|" ++ s) count = choose t count) ∧
      ((∀ rule ∈ parseRules t, ¬ rule.contains count = true) →
        ((∃ rule ∈ parseRules s, rule.contains count = true) →
          choose (t ++ "|" ++ s) count = choose s count) ∧
        ((∀ rule ∈ parseRules s, ¬ rule.contains count = true) →
          choose (t ++ "|" ++ s) count = t ++ "|" ++ s)) := by
  have hbehind := parseRules_append_of_fullyMarked (t := t) (Or.inr h)
  -- The orders are the two sides on which the marked part can stand.
  refine ⟨hbehind, parseRules_append_of_fullyMarked (Or.inl h), fun count => ⟨?_, fun hnot => ?_⟩⟩
  · rintro ⟨rule, hmem, hcontains⟩
    obtain ⟨first, -, hselect, hchoose⟩ := exists_select_of_contains hmem hcontains
    rw [choose_eq_getD, hbehind, select_append, hselect, hchoose]
    rfl
  · have hnone := select_eq_none_iff.2 hnot
    -- No rule of `t` has the count, so the rules of `s` are asked.
    have hboth : select (parseRules (t ++ "|" ++ s)) count = select (parseRules s) count := by
      rw [hbehind, select_append, hnone, Option.none_or]
    constructor
    · rintro ⟨rule, hmem, hcontains⟩
      obtain ⟨first, -, hselect, hchoose⟩ := exists_select_of_contains hmem hcontains
      rw [choose_eq_getD, hboth, hselect, hchoose]
      rfl
    · intro hnot'
      rw [choose_eq_getD, hboth, select_eq_none_iff.2 hnot']
      rfl

/-- Two marked variants behind an unmarked one, which hides the second of them. -/
theorem parseRules_append_figs :
    FullyMarked "\x7b0\x7d no figs|[3,9] a few" ∧
    parseRules ("a fig|\x7b5\x7d five" ++ "|" ++ "\x7b0\x7d no figs|[3,9] a few") =
      parseRules "a fig|\x7b5\x7d five" ++ parseRules "\x7b0\x7d no figs|[3,9] a few" ∧
    choose ("a fig|\x7b5\x7d five" ++ "|" ++ "\x7b0\x7d no figs|[3,9] a few") 4 = "a fig" ∧
    choose ("a fig|\x7b5\x7d five" ++ "|" ++ "\x7b0\x7d no figs|[3,9] a few") 0 = "no figs" ∧
    choose ("a fig|\x7b5\x7d five" ++ "|" ++ "\x7b0\x7d no figs|[3,9] a few") (-1) =
      "a fig|\x7b5\x7d five|\x7b0\x7d no figs|[3,9] a few" := by
  have hmarked : FullyMarked "\x7b0\x7d no figs|[3,9] a few" := by decide +kernel
  obtain ⟨hrules, -, hchoose⟩ := parseRules_append "a fig|\x7b5\x7d five" _ hmarked
  have hfour := (hchoose 4).1 (by decide +kernel)
  have hzero := ((hchoose 0).2 (by decide +kernel)).1 (by decide +kernel)
  have hbelow := ((hchoose (-1)).2 (by decide +kernel)).2 (by decide +kernel)
  exact ⟨hmarked, hrules, hfour.trans (by decide +kernel), hzero.trans (by decide +kernel),
    hbelow.trans (by decide +kernel)⟩

end Phrasebook.Choice
