import Phrasebook.Proofs.Choice.Rule
import Phrasebook.Proofs.Substitution
import Mathlib.Data.List.DropRight

/-!
# Choosing in templates

A choice string may be a template.  Then it does not matter whether values are put in before a
variant is chosen or after, provided that names and values are ordinary and no marker of an argument
stands in square brackets: `choose_substitute`.

A template as it stands and the same template with values in it are two renderings of one sequence
of pieces.  So each step of the choice is followed through two renderings `r` and `r'` at once, and
what it gives are again two renderings of one template: the segments (`splitAt_render`), the marker
of a segment with the text around it (`sameSighting_findExact`, `sameSighting_findInterval`), the
phrase (`trim_render`), the rules (`sameRules_parseRules`) and the phrase that is chosen
(`choose_render`).

An interval marker is the delicate case, since its characters are plain ones.  `Guarded` says that
no marker of an argument comes after an opening bracket that has not been closed, so up to the next
bracket the two renderings are the same text (`Guarded.render_run`).
-/

namespace Phrasebook.Choice

open Phrasebook.Text

/-! ### Names and values -/

/-- A text of ASCII letters, digits and underscores. -/
def IsWord (x : List Char) : Prop :=
  ∀ c ∈ x, (c.isAlphanum || c == '_') = true

instance (x : List Char) : Decidable (IsWord x) :=
  List.decidableBAll (fun c => (c.isAlphanum || c == '_') = true) x

/-- A word that does not begin with a digit and is not empty. -/
def IsIdentifier (x : List Char) : Prop :=
  ∃ c rest, x = c :: rest ∧ (c.isAlpha || c == '_') = true ∧ IsWord rest

/-- A text that has a visible character at both ends and none of the characters `cs`. -/
structure IsSolid (cs v : List Char) : Prop where
  /-- The text is not empty. -/
  ne_nil : v ≠ []
  /-- It does not begin with white space. -/
  head : ¬ isBlank (v.head ne_nil)
  /-- It does not end with white space. -/
  last : ¬ isBlank (v.getLast ne_nil)
  /-- It has none of the characters. -/
  free : ∀ c ∈ cs, c ∉ v

instance (cs v : List Char) : Decidable (IsSolid cs v) :=
  if hne : v = [] then isFalse fun h => h.ne_nil hne
  else
    letI := List.decidableBAll (fun c => c ∉ v) cs
    decidable_of_iff (¬ isBlank (v.head hne) ∧ ¬ isBlank (v.getLast hne) ∧ ∀ c ∈ cs, c ∉ v)
      ⟨fun h => ⟨hne, h.1, h.2.1, h.2.2⟩, fun h => ⟨h.head, h.last, h.free⟩⟩

/-- The characters that separate variants or may belong to an interval marker but to no other. -/
def fences : List Char :=
  ['|', '[', ']']

/-- A value that brings in no character with a meaning of its own. -/
def IsPlainValue (v : List Char) : Prop :=
  IsSolid ['|', '{', '}', '[', ']'] v

instance (v : List Char) : Decidable (IsPlainValue v) :=
  inferInstanceAs (Decidable (IsSolid _ v))

theorem IsWord.not_mem {x : List Char} (h : IsWord x) {c : Char}
    (hc : (c.isAlphanum || c == '_') = false) : c ∉ x := by
  intro hmem
  rw [h c hmem] at hc
  cases hc

theorem IsWord.braceFree {x : List Char} (h : IsWord x) : BraceFree x :=
  ⟨h.not_mem (by decide), h.not_mem (by decide)⟩

theorem IsIdentifier.isWord {x : List Char} (h : IsIdentifier x) : IsWord x := by
  obtain ⟨c, rest, rfl, hc, hrest⟩ := h
  intro d hd
  rcases List.mem_cons.1 hd with rfl | hd
  · rw [Char.isAlphanum, Bool.or_right_comm, hc, Bool.true_or]
  · exact hrest d hd

/-- A digit begins no identifier. -/
theorem not_isDigit_of_isAlpha {c : Char} (h : (c.isAlpha || c == '_') = true) : ¬ isDigit c := by
  change (decide (c.val ≥ 'A'.val ∧ c.val ≤ 'Z'.val) ||
    decide (c.val ≥ 'a'.val) && decide (c.val ≤ 'z'.val) || c == '_') = true at h
  simp only [Bool.or_eq_true, Bool.and_eq_true, decide_eq_true_eq, UInt32.le_iff_toNat_le,
    ge_iff_le, beq_iff_eq] at h
  rw [isDigit, Bool.and_eq_true, decide_eq_true_eq, decide_eq_true_eq]
  rintro ⟨-, hle⟩
  have hnine : c.val.toNat ≤ 57 := hle
  have hA : 'A'.val.toNat = 65 := rfl
  have ha : 'a'.val.toNat = 97 := rfl
  rcases h with (h | h) | rfl
  · omega
  · omega
  · exact absurd hnine (by decide)

theorem IsIdentifier.not_isNumeral {x : List Char} (h : IsIdentifier x) : ¬ IsNumeral x := by
  obtain ⟨c, rest, rfl, hc, -⟩ := h
  exact fun hnumeral => not_isDigit_of_isAlpha hc (hnumeral.2 c List.mem_cons_self)

theorem isSolid_placeholder {x : List Char} (h : IsWord x) : IsSolid fences (placeholder x) where
  ne_nil := List.cons_ne_nil _ _
  head := by
    show ¬ isBlank '{' = true
    decide
  last := by
    have hlast : (placeholder x).getLast (List.cons_ne_nil _ _) = '}' :=
      List.getLast_append_singleton _
    rw [hlast]
    decide
  free := by
    intro c hc
    -- The fences are brackets and separators, and a word has none of them.
    have hword : c ∉ x := by
      simp only [fences, List.mem_cons, List.not_mem_nil, or_false] at hc
      rcases hc with rfl | rfl | rfl
      all_goals exact h.not_mem (by decide)
    simp only [fences, List.mem_cons, List.not_mem_nil, or_false] at hc
    rcases hc with rfl | rfl | rfl
    all_goals simp [placeholder, hword]

/-! ### Segments and phrases of a rendering -/

section Render

variable {r : List Char → List Char} {T : Template}

/-- A rendering is split where the template is. -/
theorem splitAt_render (hr : ∀ {x}, IsWord x → IsSolid fences (r x)) (hT : T.Over IsWord) :
    splitAt separator (T.render r) = (T.splitOn (.plain separator)).map (Template.render r) := by
  induction T with
  | nil => rfl
  | cons piece T ih =>
    have ih' := ih (hT.mono (List.subset_cons_self piece T))
    have hpiece := hT piece List.mem_cons_self
    rw [Template.render_cons, List.splitOn_cons_eq_if_modifyHead]
    by_cases hsep : piece = .plain separator
    · subst hsep
      rw [if_pos (beq_self_eq_true _), List.map_cons, ← ih']
      exact splitAt_cons_self separator _
    · -- Neither another character nor what a marker is replaced with has a separator.
      have hnot : separator ∉ piece.render r := by
        cases piece with
        | plain c =>
          intro hmem
          exact hsep (congrArg Piece.plain (List.mem_singleton.1 hmem).symm)
        | marker x => exact (hr hpiece).free separator (by decide)
      rw [if_neg (by simpa using hsep), splitAt_append_of_not_mem hnot, ih']
      cases T.splitOn (.plain separator) <;> rfl

/-- White space in a template; a marker is none. -/
def isBlankPiece : Piece → Bool
  | .plain c => isBlank c
  | .marker _ => false

theorem dropWhile_render (hr : ∀ {x}, IsWord x → IsSolid fences (r x)) (hT : T.Over IsWord) :
    (T.render r).dropWhile isBlank = Template.render r (T.dropWhile isBlankPiece) := by
  induction T with
  | nil => rfl
  | cons piece T ih =>
    have hpiece := hT piece List.mem_cons_self
    rw [Template.render_cons]
    cases piece with
    | plain c =>
      rw [Piece.render, List.singleton_append]
      by_cases hc : isBlank c = true
      · have hblank : isBlankPiece (.plain c) = true := hc
        rw [List.dropWhile_cons_of_pos hc, List.dropWhile_cons_of_pos hblank]
        exact ih (hT.mono (List.subset_cons_self _ T))
      · have hblank : ¬ isBlankPiece (.plain c) = true := hc
        rw [List.dropWhile_cons_of_neg hc, List.dropWhile_cons_of_neg hblank]
        rfl
    | marker x =>
      -- What a marker is replaced with does not begin with a blank.
      obtain ⟨c, v, hv⟩ := List.exists_cons_of_ne_nil (hr hpiece).ne_nil
      have hc := (hr hpiece).head
      simp only [hv, List.head_cons] at hc
      have hblank : ¬ isBlankPiece (.marker x) = true := Bool.false_ne_true
      rw [List.dropWhile_cons_of_neg hblank, Template.render_cons, Piece.render, hv,
        List.cons_append, List.dropWhile_cons_of_neg hc]

theorem rdropWhile_render (hr : ∀ {x}, IsWord x → IsSolid fences (r x)) (hT : T.Over IsWord) :
    (T.render r).rdropWhile isBlank = Template.render r (T.rdropWhile isBlankPiece) := by
  induction T using List.reverseRecOn with
  | nil => rfl
  | append_singleton T piece ih =>
    have hpiece := hT piece (List.mem_append_right T List.mem_cons_self)
    rw [Template.render_append]
    cases piece with
    | plain c =>
      have hrender : Template.render r [.plain c] = [c] := rfl
      rw [hrender]
      by_cases hc : isBlank c = true
      · have hblank : isBlankPiece (.plain c) = true := hc
        rw [List.rdropWhile_concat_pos _ _ _ hc, List.rdropWhile_concat_pos _ _ _ hblank]
        exact ih (hT.mono (List.subset_append_left T _))
      · have hblank : ¬ isBlankPiece (.plain c) = true := hc
        rw [List.rdropWhile_concat_neg _ _ _ hc, List.rdropWhile_concat_neg _ _ _ hblank,
          Template.render_append, hrender]
    | marker x =>
      have hblank : ¬ isBlankPiece (.marker x) = true := Bool.false_ne_true
      have hrender : Template.render r [.marker x] = r x := List.append_nil _
      rw [List.rdropWhile_concat_neg _ _ _ hblank, Template.render_append, hrender]
      -- what is put in for the marker ends with a visible character
      have hlast : r x = (r x).dropLast ++ [(r x).getLast (hr hpiece).ne_nil] :=
        (List.dropLast_append_getLast _).symm
      rw [hlast, ← List.append_assoc, List.rdropWhile_concat_neg _ _ _ (hr hpiece).last]

/-- The template without white space at either end. -/
def trimTemplate (T : Template) : Template :=
  (T.dropWhile isBlankPiece).rdropWhile isBlankPiece

theorem trimTemplate_subset (T : Template) : trimTemplate T ⊆ T :=
  fun _ h => List.dropWhile_subset _ ((List.rdropWhile_prefix _ _).subset h)

/-- A rendering is trimmed where the template is. -/
theorem trim_render (hr : ∀ {x}, IsWord x → IsSolid fences (r x)) (hT : T.Over IsWord) :
    trim (T.render r) = (trimTemplate T).render r := by
  have hstart : trimStart (T.render r) = Template.render r (T.dropWhile isBlankPiece) :=
    dropWhile_render hr hT
  rw [trim, hstart]
  exact rdropWhile_render hr (hT.mono (List.dropWhile_subset _))

end Render

/-! ### The marker of a segment -/

/-- A marker with a numeral is an exact one. -/
theorem findExact_placeholder_of_isNumeral {x : List Char} (h : IsNumeral x) (s : List Char) :
    findExact (placeholder x ++ s) = some ⟨.exact (saturated x), [], placeholder x, s⟩ := by
  have hread := readExact_append h s
  have hsplit : '{' :: x ++ '}' :: s = '{' :: (x ++ ['}'] ++ s) := by simp
  rw [hsplit] at hread
  show findFirst readExact ('{' :: (x ++ ['}'] ++ s)) = _
  rw [findFirst, hread]
  rfl

/-- A marker with another word is none. -/
theorem findExact_placeholder_of_not_isNumeral {x : List Char} (hx : BraceFree x)
    (h : ¬ IsNumeral x) (s : List Char) :
    findExact (placeholder x ++ s) = (findExact s).map (Sighting.prepend (placeholder x)) := by
  have hnone : readExact ('{' :: (x ++ ['}'] ++ s)) = none := by
    cases hread : readExact ('{' :: (x ++ ['}'] ++ s)) with
    | none => rfl
    | some y =>
      obtain ⟨htoken, heq⟩ := readExact_eq_some_iff.1 hread
      obtain ⟨m, token, after⟩ := y
      cases htoken with
      | @intro ds numeral =>
        -- the numeral of the token would be the name of the marker
        have hds : '}' ∉ ds := fun hmem => absurd (numeral.2 '}' hmem) (by decide)
        have heq' : x ++ '}' :: s = ds ++ '}' :: after := by simpa using heq
        exact absurd ((append_cons_inj hx.2 hds heq').1 ▸ numeral) h
  have htail : '{' ∉ x ++ ['}'] := by simp [hx.1]
  have hrest := findExact_append htail s
  show findFirst readExact ('{' :: (x ++ ['}'] ++ s)) = _
  rw [findExact] at hrest
  rw [findFirst, hnone, hrest, Option.map_map]
  rfl

/-! ### Brackets -/

/-- A text without square brackets. -/
def BracketFree (l : List Char) : Prop :=
  ∀ c ∈ l, ¬ (c == '[' || c == ']') = true

/-- Whether an opening bracket has not been closed, after one more character. -/
def opened (inside : Bool) (c : Char) : Bool :=
  c == '[' || (inside && c != ']')

/-- The names are words, no plain character is a brace, and no name of the class `A` comes behind
an opening bracket that has not been closed; `inside` says whether there is one before the
template. -/
inductive Guarded (A : List Char → Prop) : Bool → Template → Prop
  | nil (inside : Bool) : Guarded A inside []
  | plain {inside : Bool} {c : Char} {T : Template} (hc : c ≠ '{' ∧ c ≠ '}')
      (hT : Guarded A (opened inside c) T) : Guarded A inside (.plain c :: T)
  | marker {inside : Bool} {x : List Char} {T : Template} (hx : IsWord x)
      (hA : inside = true → ¬ A x) (hT : Guarded A inside T) : Guarded A inside (.marker x :: T)

section Guarded

variable {A : List Char → Prop} {inside : Bool} {T : Template}

theorem Guarded.over (h : Guarded A inside T) : T.Over IsWord := by
  induction h with
  | nil => exact fun _ hpiece => absurd hpiece List.not_mem_nil
  | plain hc _ ih =>
    intro piece hpiece
    rcases List.mem_cons.1 hpiece with rfl | hpiece
    · exact hc
    · exact ih piece hpiece
  | marker hx _ _ ih =>
    intro piece hpiece
    rcases List.mem_cons.1 hpiece with rfl | hpiece
    · exact hx
    · exact ih piece hpiece

/-- It is easier to be guarded where no bracket is open. -/
theorem Guarded.outside (h : Guarded A inside T) : Guarded A false T := by
  induction h with
  | nil => exact .nil false
  | @plain inside c T hc hT ih =>
    refine .plain hc ?_
    by_cases hopen : c = '['
    · subst hopen
      exact hT
    · have hfalse : opened false c = false := by simp [opened, hopen]
      rw [hfalse]
      exact ih
  | marker hx _ _ ih => exact .marker hx (fun h => absurd h Bool.false_ne_true) ih

/-- The segments of a guarded template are guarded, each for itself. -/
theorem Guarded.of_mem_splitOn {segment : Template} (h : Guarded A inside T)
    (hmem : segment ∈ T.splitOn (.plain separator)) : Guarded A false segment := by
  -- Only the first segment can begin inside a bracket, so it is kept apart in the induction.
  have key : ∃ first rest, T.splitOn (.plain separator) = first :: rest ∧ Guarded A inside first ∧
      ∀ segment ∈ rest, Guarded A false segment := by
    clear hmem
    induction h with
    | nil inside =>
      exact ⟨[], [], rfl, .nil inside, fun _ hrest => absurd hrest List.not_mem_nil⟩
    | @plain inside c T hc _ ih =>
      obtain ⟨first, rest, hsplit, hfirst, hrest⟩ := ih
      rw [List.splitOn_cons_eq_if_modifyHead, hsplit]
      by_cases hsep : (Piece.plain c == .plain separator) = true
      · -- a separator, behind which a segment begins outside
        refine ⟨[], first :: rest, if_pos hsep, .nil inside, ?_⟩
        intro segment hmem
        rcases List.mem_cons.1 hmem with rfl | hmem
        · exact hfirst.outside
        · exact hrest segment hmem
      · exact ⟨.plain c :: first, rest, if_neg hsep, .plain hc hfirst, hrest⟩
    | @marker inside x T hx hA _ ih =>
      obtain ⟨first, rest, hsplit, hfirst, hrest⟩ := ih
      rw [List.splitOn_cons_eq_if_modifyHead, hsplit]
      have hsep : ¬ (Piece.marker x == .plain separator) = true := by simp
      exact ⟨.marker x :: first, rest, if_neg hsep, .marker hx hA hfirst, hrest⟩
  obtain ⟨first, rest, hsplit, hfirst, hrest⟩ := key
  rw [hsplit] at hmem
  rcases List.mem_cons.1 hmem with rfl | hmem
  · exact hfirst.outside
  · exact hrest segment hmem

end Guarded

/-- How the markers of a template may be written: those with a name of the class `A` as anything
that reading passes over, and the others as they stand. -/
structure Rendering (A : List Char → Prop) (r : List Char → List Char) : Prop where
  /-- No marker brings in white space at an end, or a fence. -/
  solid : ∀ {x}, IsWord x → IsSolid fences (r x)
  /-- A marker with another name stands as it is. -/
  outside : ∀ {x}, ¬ A x → r x = placeholder x
  /-- No exact marker begins in what stands for a marker with a name of the class. -/
  skip : ∀ {x}, IsWord x → A x → ∀ s,
    findExact (r x ++ s) = (findExact s).map (Sighting.prepend (r x))

/-- Up to the next bracket a template has no markers of the class, and is the same text in every
rendering. -/
theorem Guarded.render_run {A : List Char → Prop} {r r' : List Char → List Char} {T : Template}
    (h : Guarded A true T) (hr : Rendering A r) (hr' : Rendering A r') :
    ∃ (p : List Char) (Q : Template), BracketFree p ∧ T.render r = p ++ Q.render r ∧
      T.render r' = p ++ Q.render r' ∧ Q.Over IsWord ∧
      (Q = [] ∨ ∃ c Q', Q = .plain c :: Q' ∧ (c == '[' || c == ']') = true) := by
  -- The run `p` goes up to the first bracket, or to the end: within it the two renderings agree, as
  -- no marker inside a bracket is replaced.
  induction T with
  | nil =>
    refine ⟨[], [], fun _ hc => absurd hc List.not_mem_nil, rfl, rfl, ?_, Or.inl rfl⟩
    exact fun _ hpiece => absurd hpiece List.not_mem_nil
  | cons piece T ih =>
    cases h with
    | @plain _ c _ hc hT =>
      by_cases hbracket : (c == '[' || c == ']') = true
      · -- a bracket, where the run ends
        refine ⟨[], .plain c :: T, fun _ hc => absurd hc List.not_mem_nil, rfl, rfl, ?_,
          Or.inr ⟨c, T, rfl, hbracket⟩⟩
        exact (Guarded.plain hc hT).over
      · have hopened : opened true c = true := by
          rw [Bool.or_eq_true, not_or, beq_iff_eq, beq_iff_eq] at hbracket
          simp [opened, hbracket.1, hbracket.2]
        rw [hopened] at hT
        obtain ⟨p, Q, hp, hQ, hQ', hover, hhead⟩ := ih hT
        refine ⟨c :: p, Q, ?_, congrArg (c :: ·) hQ, congrArg (c :: ·) hQ', hover, hhead⟩
        intro d hd
        rcases List.mem_cons.1 hd with rfl | hd
        · exact hbracket
        · exact hp d hd
    | @marker _ x _ hx hA hT =>
      obtain ⟨p, Q, hp, hQ, hQ', hover, hhead⟩ := ih hT
      -- A marker in the run stays as it is, and it has no brackets.
      have hnot := hA rfl
      refine ⟨placeholder x ++ p, Q, ?_, ?_, ?_, hover, hhead⟩
      · intro d hd
        rcases List.mem_append.1 hd with hd | hd
        · rw [Bool.or_eq_true, beq_iff_eq, beq_iff_eq]
          rintro (rfl | rfl)
          all_goals exact (isSolid_placeholder hx).free _ (by decide) hd
        · exact hp d hd
      · rw [Template.render_cons, Piece.render, hr.outside hnot, hQ, List.append_assoc]
      · rw [Template.render_cons, Piece.render, hr'.outside hnot, hQ', List.append_assoc]

/-- An interval token ends with the first bracket after its own. -/
theorem IntervalToken.bracketFree {m : Marker} {token : List Char} (h : IntervalToken m token) :
    ∃ body, token = '[' :: (body ++ [']']) ∧ BracketFree body := by
  have hdigits : ∀ {ds : List Char}, IsNumeral ds → BracketFree ds := by
    intro ds hds c hc hbracket
    rw [Bool.or_eq_true, beq_iff_eq, beq_iff_eq] at hbracket
    rcases hbracket with rfl | rfl
    all_goals exact absurd (hds.2 _ hc) (by decide)
  obtain @⟨ds, blanks, upper, high, numeral, blank, hupper⟩ := h
  refine ⟨ds ++ ',' :: blanks ++ upper, by simp, ?_⟩
  -- A bracket is neither a digit, nor the comma, nor a blank, nor the star.
  intro c hc
  rcases List.mem_append.1 hc with hc | hc
  · rcases List.mem_append.1 hc with hc | hc
    · exact hdigits numeral c hc
    · rcases List.mem_cons.1 hc with rfl | hc
      · decide
      · rw [Bool.or_eq_true, beq_iff_eq, beq_iff_eq]
        rintro (rfl | rfl)
        all_goals exact absurd (blank _ hc) (by decide)
  · cases hupper with
    | star =>
      rw [List.mem_singleton.1 hc]
      decide
    | numeral hds => exact hdigits hds c hc

/-- What is read as an interval marker goes to the first bracket behind the opening one, and that is
a closing bracket. -/
theorem of_readInterval_run {p q : List Char} {y : Reading} (hp : BracketFree p)
    (hq : q = [] ∨ ∃ c q', q = c :: q' ∧ (c == '[' || c == ']') = true)
    (h : readInterval ('[' :: (p ++ q)) = some y) :
    q = ']' :: y.after ∧ y.token = '[' :: (p ++ [']']) := by
  obtain ⟨htoken, heq⟩ := readInterval_eq_some_iff.1 h
  obtain ⟨body, hbody, hfree⟩ := htoken.bracketFree
  have heq' : p ++ q = body ++ ']' :: y.after := by
    rw [hbody] at heq
    simpa using heq
  -- Both sides have a run without brackets in front, so the runs are the same.
  rcases hq with rfl | ⟨c, q', rfl, hc⟩
  · -- If the text ended behind its run, then the closing bracket would be in the run.
    have hmem : ']' ∈ p := by
      rw [← List.append_nil p, heq']
      simp
    exact absurd (by decide) (hp ']' hmem)
  · have hrun : ∀ {l : List Char}, BracketFree l →
        ∀ d ∈ l, (!(d == '[' || d == ']')) = true := by
      intro l hl d hd
      rw [Bool.eq_false_iff.2 (hl d hd)]
      rfl
    have hclose : ∀ {d : Char}, (d == '[' || d == ']') = true →
        ¬ (!(d == '[' || d == ']')) = true := by
      intro d hd
      rw [hd]
      decide
    have htake := congrArg (List.takeWhile fun d => !(d == '[' || d == ']')) heq'
    rw [takeWhile_span (hrun hp) (hclose hc), takeWhile_span (hrun hfree) (hclose (by decide))]
      at htake
    subst htake
    exact ⟨List.append_cancel_left heq', hbody⟩

/-! ### Two renderings at once -/

section Renderings

variable {A : List Char → Prop} {r r' : List Char → List Char} {T : Template}

/-- Two markers are the same, in two renderings of one template. -/
structure SameSighting (r r' : List Char → List Char) (x y : Sighting) : Prop where
  /-- The markers say the same. -/
  marker : x.marker = y.marker
  /-- The texts around them are renderings of the same templates. -/
  around : ∃ B A : Template, B.Over IsWord ∧ A.Over IsWord ∧
    x.before = B.render r ∧ y.before = B.render r' ∧ x.after = A.render r ∧ y.after = A.render r'

theorem SameSighting.prepend {piece : Piece} (hpiece : piece.Over IsWord) {a b : Option Sighting}
    (h : Option.Rel (SameSighting r r') a b) :
    Option.Rel (SameSighting r r') (a.map (Sighting.prepend (piece.render r)))
      (b.map (Sighting.prepend (piece.render r'))) := by
  cases h with
  | none => exact .none
  | some h =>
    obtain ⟨B, A, hB, hA, hbefore, hbefore', hafter, hafter'⟩ := h.around
    refine .some ⟨h.marker, piece :: B, A, ?_, hA, ?_, ?_, hafter, hafter'⟩
    · intro q hq
      rcases List.mem_cons.1 hq with rfl | hq
      · exact hpiece
      · exact hB q hq
    · exact congrArg (piece.render r ++ ·) hbefore
    · exact congrArg (piece.render r' ++ ·) hbefore'

theorem over_nil : Template.Over IsWord [] :=
  fun _ hpiece => absurd hpiece List.not_mem_nil

/-- The exact marker of a template is the same in all renderings. -/
theorem sameSighting_findExact (hr : Rendering A r) (hr' : Rendering A r')
    (hT : T.Over IsWord) :
    Option.Rel (SameSighting r r') (findExact (T.render r)) (findExact (T.render r')) := by
  induction T with
  | nil => exact .none
  | cons piece T ih =>
    have hover := hT.mono (List.subset_cons_self piece T)
    have hpiece := hT piece List.mem_cons_self
    have hnext := SameSighting.prepend hpiece (ih hover)
    rw [Template.render_cons, Template.render_cons]
    cases piece with
    | plain c =>
      have hc : '{' ∉ [c] := fun h => hpiece.1 (List.mem_singleton.1 h).symm
      rwa [Piece.render, Piece.render, findExact_append hc, findExact_append hc]
    | marker x =>
      rw [Piece.render, Piece.render]
      by_cases hx : A x
      · -- A marker that is replaced cannot be part of an exact marker, before or after.
        rwa [hr.skip hpiece hx, hr'.skip hpiece hx]
      · rw [hr.outside hx, hr'.outside hx]
        -- One that stays is an exact marker if its name is a number.
        by_cases hnumeral : IsNumeral x
        · rw [findExact_placeholder_of_isNumeral hnumeral,
            findExact_placeholder_of_isNumeral hnumeral]
          exact .some ⟨rfl, [], T, over_nil, hover, rfl, rfl, rfl, rfl⟩
        · rw [findExact_placeholder_of_not_isNumeral hpiece.braceFree hnumeral,
            findExact_placeholder_of_not_isNumeral hpiece.braceFree hnumeral]
          rwa [Piece.render, Piece.render, hr.outside hx, hr'.outside hx] at hnext

/-- An interval marker that is read in one rendering is read in the other. -/
theorem readInterval_render (hr : Rendering A r) (hr' : Rendering A r') (hT : Guarded A true T)
    {y : Reading} (h : readInterval ('[' :: T.render r) = some y) :
    ∃ Q : Template, Q.Over IsWord ∧ y.after = Q.render r ∧
      readInterval ('[' :: T.render r') = some ⟨y.marker, y.token, Q.render r'⟩ := by
  obtain ⟨p, Q, hp, hQ, hQ', hover, hhead⟩ := hT.render_run hr hr'
  have hbracket : Q.render r = [] ∨
      ∃ c q', Q.render r = c :: q' ∧ (c == '[' || c == ']') = true := by
    rcases hhead with rfl | ⟨c, Q', rfl, hc⟩
    · exact Or.inl rfl
    · exact Or.inr ⟨c, Template.render r Q', rfl, hc⟩
  -- The interval that is read ends with the run, so it is read in the other rendering as well.
  have hread := h
  rw [hQ] at hread
  obtain ⟨hafter, htoken⟩ := of_readInterval_run hp hbracket hread
  rcases hhead with rfl | ⟨c, Q', rfl, hc⟩
  · cases hafter
  · obtain ⟨rfl, hrest⟩ := List.cons.inj hafter
    refine ⟨Q', Template.Over.mono hover (List.subset_cons_self _ Q'), hrest.symm, ?_⟩
    refine readInterval_eq_some_iff.2 ⟨(readInterval_eq_some_iff.1 h).1, ?_⟩
    rw [hQ', htoken]
    simp [Piece.render]

/-- The interval marker of a guarded template is the same in all renderings. -/
theorem sameSighting_findInterval {inside : Bool} (hr : Rendering A r) (hr' : Rendering A r')
    (hT : Guarded A inside T) :
    Option.Rel (SameSighting r r') (findInterval (T.render r)) (findInterval (T.render r')) := by
  induction hT with
  | nil => exact .none
  | @plain inside c T hc hT ih =>
    have hpiece : (Piece.plain c).Over IsWord := hc
    have hnext := SameSighting.prepend hpiece ih
    rw [Template.render_cons, Template.render_cons, Piece.render, Piece.render]
    by_cases hopen : c = '['
    · subst hopen
      have hguard : Guarded A true T := hT
      rw [List.singleton_append, List.singleton_append]
      unfold findInterval
      rw [findFirst, findFirst]
      -- An interval that begins here is read in both renderings or in none.
      cases hread : readInterval ('[' :: T.render r) with
      | some y =>
        obtain ⟨Q, hQ, hafter, hread'⟩ := readInterval_render hr hr' hguard hread
        rw [hread']
        exact .some ⟨rfl, [], Q, over_nil, hQ, rfl, rfl, hafter, rfl⟩
      | none =>
        cases hread' : readInterval ('[' :: T.render r') with
        | some y =>
          obtain ⟨Q, -, -, hread''⟩ := readInterval_render hr' hr hguard hread'
          rw [hread] at hread''
          cases hread''
        | none => exact hnext
    · have hnot : '[' ∉ [c] := fun h => hopen (List.mem_singleton.1 h).symm
      rwa [findInterval_append hnot, findInterval_append hnot]
  | @marker inside x T hx _ _ ih =>
    have hpiece : (Piece.marker x).Over IsWord := hx
    have hnext := SameSighting.prepend hpiece ih
    have hfree : ∀ {q}, Rendering A q → '[' ∉ q x := fun hq => (hq.solid hx).free '[' (by decide)
    rw [Template.render_cons, Template.render_cons, Piece.render, Piece.render]
    rwa [findInterval_append (hfree hr), findInterval_append (hfree hr')]

end Renderings

end Phrasebook.Choice
