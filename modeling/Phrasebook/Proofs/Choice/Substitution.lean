import Phrasebook.Translator.Basic
import Phrasebook.Proofs.Choice.Template
import Mathlib.Data.List.Infix

/-!
# Choosing and substituting

Values are put into a phrase before a variant of it is chosen.  For an ordinary phrase the order
does not matter, and a variant may as well be chosen first: `choose_substitute`.

The rules of two renderings of one template differ in their phrases only (`sameRules_parseRules`),
so the same one is chosen, and the phrases that it has in both are again two renderings of one
template (`choose_render`).  A template as it stands is one rendering (`rendering_placeholder`), and
a template with plain values in it is another (`rendering_getD`).
-/

namespace Phrasebook.Choice

open Phrasebook.Text

section Rules

variable {A : List Char → Prop} {r r' : List Char → List Char} {T : Template}

/-- Two texts are renderings of one template. -/
def SameTemplate (r r' : List Char → List Char) (s s' : List Char) : Prop :=
  ∃ U : Template, U.Over IsWord ∧ s = U.render r ∧ s' = U.render r'

/-- Two variants have one marker, and their phrases are renderings of one template. -/
structure SameVariant (r r' : List Char → List Char) (v v' : Variant) : Prop where
  /-- The markers are the same. -/
  marker : v.marker = v'.marker
  /-- The phrases are renderings of one template. -/
  phrase : SameTemplate r r' v.phrase v'.phrase

/-- Two rules are for the same counts, and their phrases are renderings of one template. -/
structure SameRule (r r' : List Char → List Char) (rule rule' : Rule) : Prop where
  /-- The lower ends are the same. -/
  low : rule.low = rule'.low
  /-- The upper ends are the same. -/
  high : rule.high = rule'.high
  /-- Both take zero besides their range, or neither does. -/
  zero : rule.zero = rule'.zero
  /-- The phrases are renderings of one template. -/
  text : SameTemplate r r' rule.text.toList rule'.text.toList

/-- The phrase around a marker is a rendering of one template in both. -/
theorem SameSighting.phrase (hr : Rendering A r) (hr' : Rendering A r') {x y : Sighting}
    (h : SameSighting r r' x y) : SameTemplate r r' x.phrase y.phrase := by
  obtain ⟨B, C, hB, hC, hbefore, hbefore', hafter, hafter'⟩ := h.around
  have hover : Template.Over IsWord (B ++ C) := by
    intro piece hpiece
    rcases List.mem_append.1 hpiece with hpiece | hpiece
    · exact hB piece hpiece
    · exact hC piece hpiece
  refine ⟨trimTemplate (B ++ C), hover.mono (trimTemplate_subset _), ?_, ?_⟩
  · rw [Sighting.phrase, hbefore, hafter, ← Template.render_append, trim_render hr.solid hover]
  · rw [Sighting.phrase, hbefore', hafter', ← Template.render_append, trim_render hr'.solid hover]

theorem sameVariant_ofSegment {inside : Bool} (hr : Rendering A r) (hr' : Rendering A r')
    (hT : Guarded A inside T) :
    SameVariant r r' (Variant.ofSegment (T.render r)) (Variant.ofSegment (T.render r')) := by
  have hexact := sameSighting_findExact hr hr' hT.over
  have hinterval := sameSighting_findInterval hr hr' hT
  -- An exact marker comes first, so that the intervals matter only without one.
  have hmarker : Option.Rel (SameSighting r r') (findMarker (T.render r))
      (findMarker (T.render r')) := by
    unfold findMarker
    generalize findExact (T.render r) = a at hexact ⊢
    generalize findExact (T.render r') = b at hexact ⊢
    cases hexact with
    | some h => exact .some h
    | none => exact hinterval
  unfold Variant.ofSegment
  generalize findMarker (T.render r) = a at hmarker ⊢
  generalize findMarker (T.render r') = b at hmarker ⊢
  cases hmarker with
  | some h => exact ⟨congrArg some h.marker, h.phrase hr hr'⟩
  | none => exact ⟨rfl, T, hT.over, rfl, rfl⟩

theorem unmarkedCount_eq {vs vs' : List Variant} (h : List.Forall₂ (SameVariant r r') vs vs') :
    unmarkedCount vs = unmarkedCount vs' := by
  unfold unmarkedCount
  induction h with
  | nil => rfl
  | cons hv _ ih => rw [List.countP_cons, List.countP_cons, hv.marker, ih]

theorem SameTemplate.ofList {s s' : List Char} (h : SameTemplate r r' s s') :
    SameTemplate r r' (String.ofList s).toList (String.ofList s').toList := by
  rwa [String.toList_ofList, String.toList_ofList]

/-- The numbering does not look at the phrases. -/
theorem sameRules_numberFrom {vs vs' : List Variant} (h : List.Forall₂ (SameVariant r r') vs vs')
    (total next : ℕ) :
    List.Forall₂ (SameRule r r') (numberFrom total next vs) (numberFrom total next vs') := by
  induction h generalizing next with
  | nil => exact .nil
  | @cons v v' vs vs' hv _ ih =>
    rw [numberFrom, numberFrom, ← hv.marker]
    split
    · exact .cons ⟨rfl, rfl, rfl, hv.phrase.ofList⟩ (ih next)
    · exact .cons ⟨rfl, rfl, rfl, hv.phrase.ofList⟩ (ih (next + 1))

/-- The rules of two renderings of a guarded template are the same up to their phrases. -/
theorem sameRules_parseRules {inside : Bool} (hr : Rendering A r) (hr' : Rendering A r')
    (hT : Guarded A inside T) :
    List.Forall₂ (SameRule r r') (parseRules (String.ofList (T.render r)))
      (parseRules (String.ofList (T.render r'))) := by
  have hsegments : List.Forall₂ (SameVariant r r')
      ((splitAt separator (T.render r)).map Variant.ofSegment)
      ((splitAt separator (T.render r')).map Variant.ofSegment) := by
    rw [splitAt_render hr.solid hT.over, splitAt_render hr'.solid hT.over, List.map_map,
      List.map_map, List.forall₂_map_left_iff, List.forall₂_map_right_iff, List.forall₂_same]
    intro segment hsegment
    exact sameVariant_ofSegment hr hr' (hT.of_mem_splitOn hsegment)
  unfold parseRules rulesOf
  rw [String.toList_ofList, String.toList_ofList, ← unmarkedCount_eq hsegments]
  exact sameRules_numberFrom hsegments _ 1

theorem SameRule.contains_eq {rule rule' : Rule} (h : SameRule r r' rule rule') (count : Int64) :
    rule.contains count = rule'.contains count := by
  rw [Rule.contains, Rule.contains, h.low, h.high, h.zero]

theorem sameRule_select {rules rules' : List Rule} (h : List.Forall₂ (SameRule r r') rules rules')
    (count : Int64) :
    Option.Rel (SameRule r r') (select rules count) (select rules' count) := by
  unfold select
  induction h with
  | nil => exact .none
  | @cons rule rule' _ _ hrule _ ih =>
    rw [List.find?_cons, List.find?_cons, ← hrule.contains_eq]
    cases rule.contains count with
    | true => exact .some hrule
    | false => exact ih

/-- What is chosen from two renderings of a guarded template are two renderings of one. -/
theorem choose_render {inside : Bool} (hr : Rendering A r) (hr' : Rendering A r')
    (hT : Guarded A inside T) (count : Int64) :
    SameTemplate r r' (choose (String.ofList (T.render r)) count).toList
      (choose (String.ofList (T.render r')) count).toList := by
  have hselect := sameRule_select (sameRules_parseRules hr hr' hT) count
  unfold choose
  generalize select (parseRules (String.ofList (T.render r))) count = a at hselect ⊢
  generalize select (parseRules (String.ofList (T.render r'))) count = b at hselect ⊢
  cases hselect with
  | some h => exact h.text
  | none =>
    refine SameTemplate.ofList ?_
    exact ⟨T, hT.over, rfl, rfl⟩

end Rules

/-! ### A template and its values -/

/-- A template as it stands is a rendering. -/
theorem rendering_placeholder {A : List Char → Prop} (hA : ∀ {x}, A x → ¬ IsNumeral x) :
    Rendering A placeholder where
  solid := isSolid_placeholder
  outside _ := rfl
  skip hx hAx s := findExact_placeholder_of_not_isNumeral hx.braceFree (hA hAx) s

theorem IsPlainValue.isSolid {v : List Char} (h : IsPlainValue v) : IsSolid fences v where
  ne_nil := h.ne_nil
  head := h.head
  last := h.last
  free c hc := h.free c (by
    simp only [fences, List.mem_cons, List.not_mem_nil, or_false] at hc ⊢
    tauto)

theorem IsPlainValue.braceFree {v : List Char} (h : IsPlainValue v) : BraceFree v :=
  ⟨h.free '{' (by decide), h.free '}' (by decide)⟩

/-- A template with plain values in the place of some markers is a rendering. -/
theorem rendering_getD {value : List Char → Option (List Char)}
    (hvalue : ∀ {x v}, value x = some v → IsPlainValue v) :
    Rendering (fun x => (value x).isSome = true) fun x => (value x).getD (placeholder x) where
  solid {x} hx := by
    cases h : value x with
    | none => exact isSolid_placeholder hx
    | some v => exact (hvalue h).isSolid
  outside {x} hx := by
    rw [Bool.not_eq_true, Option.isSome_eq_false_iff, Option.isNone_iff_eq_none] at hx
    rw [hx, Option.getD_none]
  skip {x} _ hx s := by
    obtain ⟨v, hv⟩ := Option.isSome_iff_exists.1 hx
    rw [hv, Option.getD_some]
    exact findExact_append (hvalue hv).braceFree.1 s

/-- The last square bracket of a text. -/
def lastBracket (s : List Char) : Option Char :=
  s.reverse.find? fun c => c == '[' || c == ']'

theorem lastBracket_append_singleton (s : List Char) (c : Char) :
    lastBracket (s ++ [c]) = if c == '[' || c == ']' then some c else lastBracket s := by
  unfold lastBracket
  rw [List.reverse_append, List.reverse_singleton, List.singleton_append, List.find?_cons]
  split <;> simp_all

theorem lastBracket_append {l : List Char} (hl : BracketFree l) (s : List Char) :
    lastBracket (s ++ l) = lastBracket s := by
  induction l using List.reverseRecOn with
  | nil => rw [List.append_nil]
  | append_singleton l c ih =>
    have hc := hl c (List.mem_append_right l List.mem_cons_self)
    rw [← List.append_assoc, lastBracket_append_singleton, if_neg hc]
    exact ih fun d hd => hl d (List.mem_append_left [c] hd)

/-- A template is guarded if the last bracket before a marker of the class is never an opening
one. -/
theorem guarded_of_lastBracket {A : List Char → Prop} {T : Template} (hT : T.Over IsWord)
    {inside : Bool} {s : List Char} (hs : inside = true → lastBracket s = some '[')
    (h : ∀ x before after, A x → s ++ T.render placeholder = before ++ placeholder x ++ after →
      lastBracket before ≠ some '[') : Guarded A inside T := by
  -- The induction moves the pieces into the text `s` in front; `inside` says that the last bracket
  -- of that is open.
  induction T generalizing inside s with
  | nil => exact .nil inside
  | cons piece T ih =>
    have hpiece := hT piece List.mem_cons_self
    have hnext := @ih (hT.mono (List.subset_cons_self piece T))
    cases piece with
    | plain c =>
      refine .plain hpiece (hnext (s := s ++ [c]) ?_ ?_)
      · intro hopened
        rw [lastBracket_append_singleton]
        -- An opening bracket is the last one itself, and any other character but `]` leaves the
        -- last one as it was.
        by_cases hopen : c = '['
        · subst hopen
          rfl
        · have hin : inside = true ∧ c ≠ ']' := by simpa [opened, hopen] using hopened
          have hno : (c == '[' || c == ']') = false := by simp [hopen, hin.2]
          rw [hno]
          exact hs hin.1
      · intro x before after hx heq
        refine h x before after hx ?_
        rw [← heq]
        simp [Piece.render]
    | marker x =>
      refine .marker hpiece ?_ (hnext (s := s ++ placeholder x) ?_ ?_)
      · -- The marker stands behind `s`, so the hypothesis is about it.
        intro hin hx
        refine h x s (Template.render placeholder T) hx ?_ (hs hin)
        exact (List.append_assoc s _ _).symm
      · intro hin
        -- A word has no brackets, so the marker leaves the last one as it was.
        have hfree : BracketFree (placeholder x) := by
          intro c hc hbracket
          rw [Bool.or_eq_true, beq_iff_eq, beq_iff_eq] at hbracket
          rcases hbracket with rfl | rfl
          all_goals exact (isSolid_placeholder hpiece).free _ (by decide) hc
        rw [lastBracket_append hfree]
        exact hs hin
      · intro y before after hy heq
        refine h y before after hy ?_
        rw [← heq]
        exact (List.append_assoc s _ _).symm

theorem mem_of_valueOf {pairs : List (String × String)} {x v : List Char}
    (h : valueOf pairs x = some v) : ∃ pair ∈ pairs, x = pair.1.toList ∧ v = pair.2.toList := by
  induction pairs with
  | nil => cases h
  | cons pair pairs ih =>
    obtain ⟨name, value⟩ := pair
    rw [valueOf_cons] at h
    split_ifs at h with hx
    · exact ⟨(name, value), List.mem_cons_self, hx, (Option.some.inj h).symm⟩
    · obtain ⟨pair, hmem, hpair⟩ := ih h
      exact ⟨pair, List.mem_cons_of_mem _ hmem, hpair⟩

/-- Substitution in a template of words puts in the values of the markers that have one. -/
theorem substitute_render {args : Args}
    (hfree : ∀ pair ∈ args.toList, BraceFree pair.1.toList ∧ BraceFree pair.2.toList)
    {T : Template} (hT : T.Over IsWord) :
    substitute (String.ofList (T.render placeholder)) args =
      String.ofList (T.render fun x => (valueOf args.toList x).getD (placeholder x)) := by
  have hbrace : T.Over BraceFree := by
    intro piece hpiece
    have hp := hT piece hpiece
    cases piece with
    | plain c => exact hp
    | marker x => exact IsWord.braceFree hp
  rw [← String.toList_inj, toList_substitute, String.toList_ofList, String.toList_ofList,
    Template.substituteAll_written hfree hbrace]

/-- **Substituting first equals choosing first.**  The text is a template of words, the names are
identifiers and the values plain, and the last square bracket before the marker of an argument is
never an opening one.  Then the variant for a count of the text with the values in it is the variant
of the text itself with the values in it, and so is what a translator gives for a key of that
text. -/
theorem choose_substitute (text : String) (args : Args) (count : Int64)
    (htext : IsTemplate IsWord text.toList)
    (hargs : ∀ pair ∈ args.toList, IsIdentifier pair.1.toList ∧ IsPlainValue pair.2.toList)
    (hbracket : ∀ pair ∈ args.toList, ∀ before after,
      text.toList = before ++ placeholder pair.1.toList ++ after →
      lastBracket before ≠ some '[') :
    choose (substitute text args) count = substitute (choose text count) args ∧
    ∀ (t : Translator) (key : String), t.lookup key = text →
      t.translateCountable key count args = substitute (choose (t.lookup key) count) args := by
  obtain ⟨T, hT, htextT⟩ := htext.exists_template
  have hfree : ∀ pair ∈ args.toList, BraceFree pair.1.toList ∧ BraceFree pair.2.toList :=
    fun pair hpair => ⟨(hargs pair hpair).1.isWord.braceFree, (hargs pair hpair).2.braceFree⟩
  -- a template as it stands and with the values in it are two renderings
  set value := valueOf args.toList with hvalue_def
  have hwritten : Rendering (fun x => (value x).isSome = true) placeholder := by
    refine rendering_placeholder fun {x} hx => ?_
    obtain ⟨v, hv⟩ := Option.isSome_iff_exists.1 hx
    obtain ⟨pair, hmem, rfl, -⟩ := mem_of_valueOf hv
    exact (hargs pair hmem).1.not_isNumeral
  have hput : Rendering (fun x => (value x).isSome = true)
      fun x => (value x).getD (placeholder x) := by
    refine rendering_getD fun {x v} hv => ?_
    obtain ⟨pair, hmem, -, rfl⟩ := mem_of_valueOf hv
    exact (hargs pair hmem).2
  have hguarded : Guarded (fun x => (value x).isSome = true) false T := by
    refine guarded_of_lastBracket (s := []) hT (fun h => absurd h Bool.false_ne_true) ?_
    intro x before after hx heq
    obtain ⟨v, hv⟩ := Option.isSome_iff_exists.1 hx
    obtain ⟨pair, hmem, rfl, -⟩ := mem_of_valueOf hv
    exact hbracket pair hmem before after (htextT.trans heq)
  have hmain : choose (substitute text args) count = substitute (choose text count) args := by
    obtain ⟨U, hU, hchoose, hchoose'⟩ := choose_render hwritten hput hguarded count
    have htextU : text = String.ofList (T.render placeholder) := by
      rw [← htextT, String.ofList_toList]
    rw [htextU, substitute_render hfree hT, ← String.ofList_toList (s := choose _ count), hchoose',
      ← String.ofList_toList (s := choose _ count), hchoose, substitute_render hfree hU]
  refine ⟨hmain, ?_⟩
  rintro t key rfl
  exact hmain

theorem choose_substitute_figs :
    IsTemplate IsWord "[1, 1] a {kind} fig|[2,*] {n} {kind} figs".toList ∧
    choose (substitute "[1, 1] a {kind} fig|[2,*] {n} {kind} figs"
        (Args.ofTexts [("n", "3 or 4"), ("kind", "ripe")])) 3 =
      substitute (choose "[1, 1] a {kind} fig|[2,*] {n} {kind} figs" 3)
        (Args.ofTexts [("n", "3 or 4"), ("kind", "ripe")]) ∧
    choose "[1, 1] a {kind} fig|[2,*] {n} {kind} figs" 3 = "{n} {kind} figs" := by
  have htext : IsTemplate IsWord "[1, 1] a {kind} fig|[2,*] {n} {kind} figs".toList :=
    .literal (l := "[1, 1] a ".toList) (by decide) <|
    .marker (x := "kind".toList) (by decide) <|
    .literal (l := " fig|[2,*] ".toList) (by decide) <|
    .marker (x := "n".toList) (by decide) <|
    .literal (l := " ".toList) (by decide) <|
    .marker (x := "kind".toList) (by decide) <|
    .literal (l := " figs".toList) (by decide) .nil
  refine ⟨htext, (choose_substitute _ _ 3 htext ?_ ?_).1, by decide +kernel⟩
  · intro pair hpair
    have hpairs : pair ∈ [("n", "3 or 4"), ("kind", "ripe")] := hpair
    rcases List.mem_cons.1 hpairs with rfl | hpairs
    · exact ⟨⟨'n', [], rfl, by decide, by decide⟩, by decide⟩
    · rcases List.mem_singleton.1 hpairs with rfl
      exact ⟨⟨'k', "ind".toList, rfl, by decide, by decide⟩, by decide⟩
  · intro pair hpair before after heq
    -- what stands before a marker is one of the finitely many beginnings of the text
    have hbefore : before ∈ List.inits "[1, 1] a {kind} fig|[2,*] {n} {kind} figs".toList := by
      rw [List.mem_inits, heq, List.append_assoc]
      exact List.prefix_append _ _
    have hmarker : placeholder pair.1.toList <+:
        "[1, 1] a {kind} fig|[2,*] {n} {kind} figs".toList.drop before.length := by
      rw [heq, List.append_assoc, List.drop_left]
      exact List.prefix_append _ _
    have hall : ∀ pair ∈ [("n", "3 or 4"), ("kind", "ripe")],
        ∀ before ∈ List.inits "[1, 1] a {kind} fig|[2,*] {n} {kind} figs".toList,
        placeholder pair.1.toList <+:
          "[1, 1] a {kind} fig|[2,*] {n} {kind} figs".toList.drop before.length →
        lastBracket before ≠ some '[' := by
      decide +kernel
    exact hall pair hpair before hbefore hmarker

end Phrasebook.Choice
