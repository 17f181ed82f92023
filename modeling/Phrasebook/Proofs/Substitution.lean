import Phrasebook.Substitution
import Phrasebook.Proofs.Text.Replace
import Phrasebook.Proofs.Text.Split

/-!
# Substitution in templates

A template is a sequence of plain characters and markers, a marker being a name in braces.
`Template.render` writes a template with a text of one's choice for each marker, so a template as it
stands and a template with values put in are two renderings of one sequence.

* `substituteOne_cons`, `substituteOne_placeholder_append`: one replacement goes through a text
  character by character, and meets a marker without braces inside as a whole.
* `substituteAll_written`: replacing one argument after the other puts in all values at once,
  provided that neither the names nor the values have braces.
-/

namespace Phrasebook

open Phrasebook.Text

/-- A text without braces. -/
def BraceFree (s : List Char) : Prop :=
  '{' ∉ s ∧ '}' ∉ s

instance (s : List Char) : Decidable (BraceFree s) :=
  inferInstanceAs (Decidable (_ ∧ _))

/-! ### One replacement -/

theorem substituteOne_cons {c : Char} (hc : c ≠ '{') (s name value : List Char) :
    substituteOne (c :: s) name value = c :: substituteOne s name value := by
  refine replaceAll_cons (fun hpre => hc ?_) value
  obtain ⟨t, ht⟩ := hpre
  exact (List.cons.inj ht).1.symm

/-- A text without an opening brace stays. -/
theorem substituteOne_append {l : List Char} (hl : '{' ∉ l) (s name value : List Char) :
    substituteOne (l ++ s) name value = l ++ substituteOne s name value := by
  induction l with
  | nil => rfl
  | cons c l ih =>
    have hc : c ≠ '{' := fun h => hl (h ▸ List.mem_cons_self)
    rw [List.cons_append, substituteOne_cons hc, ih fun h => hl (List.mem_cons_of_mem c h),
      List.cons_append]

/-- A marker is replaced if it is that of the name, and stays otherwise. -/
theorem substituteOne_placeholder_append {x name : List Char} (hx : BraceFree x)
    (hname : BraceFree name) (s value : List Char) :
    substituteOne (placeholder x ++ s) name value =
      (if x = name then value else placeholder x) ++ substituteOne s name value := by
  by_cases h : x = name
  · subst h
    rw [if_pos rfl]
    exact replaceAll_append (List.cons_ne_nil _ _) value s
  · rw [if_neg h]
    have hsplit : placeholder x ++ s = '{' :: ((x ++ ['}']) ++ s) := by simp [placeholder]
    have hnot : ¬ placeholder name <+: '{' :: ((x ++ ['}']) ++ s) := by
      rintro ⟨t, ht⟩
      -- both names end at the first closing brace
      have hx' : name ++ '}' :: t = x ++ '}' :: s := by simpa [placeholder] using ht
      exact h (append_cons_inj hname.2 hx.2 hx').1.symm
    have htail : '{' ∉ x ++ ['}'] := by
      simp [hx.1]
    rw [hsplit, substituteOne, replaceAll_cons hnot]
    have hrest := substituteOne_append htail s name value
    rw [substituteOne] at hrest
    rw [hrest]
    simp [placeholder, substituteOne]

/-! ### All arguments -/

/-- The text with the values of the pairs put in, one pair after the other. -/
def substituteAll (text : List Char) (pairs : List (String × String)) : List Char :=
  pairs.foldl (fun acc pair => substituteOne acc pair.1.toList pair.2.toList) text

/-- The value of the first pair with this name. -/
def valueOf (pairs : List (String × String)) (x : List Char) : Option (List Char) :=
  (Entries.find? (String.ofList x) pairs).map String.toList

theorem toList_substitute (text : String) (args : Args) :
    (substitute text args).toList = substituteAll text.toList args.toList :=
  String.toList_ofList

@[simp] theorem substituteAll_nil (pairs : List (String × String)) :
    substituteAll [] pairs = [] := by
  unfold substituteAll
  induction pairs with
  | nil => rfl
  | cons pair pairs ih => exact ih

theorem substituteAll_append {l : List Char} (hl : '{' ∉ l) (s : List Char)
    (pairs : List (String × String)) :
    substituteAll (l ++ s) pairs = l ++ substituteAll s pairs := by
  unfold substituteAll
  induction pairs generalizing s with
  | nil => rfl
  | cons pair pairs ih => rw [List.foldl_cons, List.foldl_cons, substituteOne_append hl, ih]

theorem valueOf_cons (name value : String) (pairs : List (String × String)) (x : List Char) :
    valueOf ((name, value) :: pairs) x =
      if x = name.toList then some value.toList else valueOf pairs x := by
  unfold valueOf
  rw [Entries.find?_cons]
  by_cases h : x = name.toList
  · subst h
    simp
  · have hne : ¬ name = String.ofList x := by
      rintro rfl
      exact h String.toList_ofList.symm
    rw [if_neg h, if_neg hne]

/-- The first pair with the name of a marker decides what is put in for it. -/
theorem substituteAll_placeholder_append {pairs : List (String × String)} {x : List Char}
    (hpairs : ∀ pair ∈ pairs, BraceFree pair.1.toList ∧ BraceFree pair.2.toList)
    (hx : BraceFree x) (s : List Char) :
    substituteAll (placeholder x ++ s) pairs =
      (valueOf pairs x).getD (placeholder x) ++ substituteAll s pairs := by
  induction pairs generalizing s with
  | nil => rfl
  | cons pair pairs ih =>
    obtain ⟨name, value⟩ := pair
    obtain ⟨hname, hvalue⟩ := hpairs (name, value) List.mem_cons_self
    have ih' := ih fun q hq => hpairs q (List.mem_cons_of_mem _ hq)
    have hstep := substituteOne_placeholder_append hx hname s value.toList
    rw [valueOf_cons]
    unfold substituteAll at ih' ⊢
    rw [List.foldl_cons, List.foldl_cons, hstep]
    -- The value has no opening brace, so that later arguments go past it.
    by_cases h : x = name.toList
    · rw [if_pos h, if_pos h]
      exact substituteAll_append hvalue.1 _ pairs
    · rw [if_neg h, if_neg h]
      exact ih' _

/-! ### Templates -/

/-- A part of a template. -/
inductive Piece where
  /-- A character that stands for itself. -/
  | plain (c : Char)
  /-- A name in braces. -/
  | marker (name : List Char)
  deriving DecidableEq

/-- Plain characters and markers in order. -/
abbrev Template := List Piece

/-- A piece written with `r` for the markers. -/
def Piece.render (r : List Char → List Char) : Piece → List Char
  | .plain c => [c]
  | .marker x => r x

/-- No plain character is a brace, and the names are of the class `P`. -/
def Piece.Over (P : List Char → Prop) : Piece → Prop
  | .plain c => c ≠ '{' ∧ c ≠ '}'
  | .marker x => P x

instance (P : List Char → Prop) [DecidablePred P] : (piece : Piece) → Decidable (piece.Over P)
  | .plain _ => inferInstanceAs (Decidable (_ ∧ _))
  | .marker x => inferInstanceAs (Decidable (P x))

namespace Template

variable {P : List Char → Prop} {T : Template}

/-- The template written with `r` for the markers. -/
def render (r : List Char → List Char) (T : Template) : List Char :=
  T.flatMap (Piece.render r)

/-- All pieces have names of the class `P` and no braces besides. -/
def Over (P : List Char → Prop) (T : Template) : Prop :=
  ∀ piece ∈ T, piece.Over P

instance (P : List Char → Prop) [DecidablePred P] (T : Template) : Decidable (T.Over P) :=
  inferInstanceAs (Decidable (∀ piece ∈ T, piece.Over P))

@[simp] theorem render_nil (r : List Char → List Char) : render r [] = [] :=
  rfl

@[simp] theorem render_cons (r : List Char → List Char) (piece : Piece) (T : Template) :
    render r (piece :: T) = piece.render r ++ render r T :=
  rfl

theorem render_append (r : List Char → List Char) (T U : Template) :
    render r (T ++ U) = render r T ++ render r U :=
  List.flatMap_append

theorem Over.mono {U : Template} (h : Over P T) (hU : U ⊆ T) : Over P U :=
  fun piece hpiece => h piece (hU hpiece)

/-- Replacing one argument after the other puts in all values at once. -/
theorem substituteAll_written {pairs : List (String × String)}
    (hpairs : ∀ pair ∈ pairs, BraceFree pair.1.toList ∧ BraceFree pair.2.toList)
    (hT : Over BraceFree T) :
    substituteAll (render placeholder T) pairs =
      render (fun x => (valueOf pairs x).getD (placeholder x)) T := by
  induction T with
  | nil => exact substituteAll_nil pairs
  | cons piece T ih =>
    have ih' := ih (hT.mono (List.subset_cons_self piece T))
    have hpiece := hT piece List.mem_cons_self
    rw [render_cons, render_cons]
    cases piece with
    | plain c =>
      have hc : '{' ∉ [c] := fun h => hpiece.1 (List.mem_singleton.1 h).symm
      rw [Piece.render, Piece.render, substituteAll_append hc, ih']
    | marker x =>
      rw [Piece.render, Piece.render, substituteAll_placeholder_append hpairs hpiece, ih']

/-- A text without braces as a template. -/
def ofLiteral (l : List Char) : Template :=
  l.map .plain

theorem render_ofLiteral (r : List Char → List Char) (l : List Char) :
    render r (ofLiteral l) = l := by
  induction l with
  | nil => rfl
  | cons c l ih => exact congrArg (c :: ·) ih

theorem over_ofLiteral {l : List Char} (hl : BraceFree l) : Over P (ofLiteral l) := by
  intro piece hpiece
  obtain ⟨c, hc, rfl⟩ := List.mem_map.1 hpiece
  exact ⟨fun h => hl.1 (h ▸ hc), fun h => hl.2 (h ▸ hc)⟩

end Template

/-- A concatenation of literal texts without braces and markers with names of the class `P`. -/
inductive IsTemplate (P : List Char → Prop) : List Char → Prop
  | nil : IsTemplate P []
  | literal {l s : List Char} (hl : BraceFree l) (hs : IsTemplate P s) : IsTemplate P (l ++ s)
  | marker {x s : List Char} (hx : P x) (hs : IsTemplate P s) : IsTemplate P (placeholder x ++ s)

theorem IsTemplate.exists_template {P : List Char → Prop} {s : List Char} (h : IsTemplate P s) :
    ∃ T : Template, T.Over P ∧ s = T.render placeholder := by
  -- A literal is one piece for each character.
  induction h with
  | nil => exact ⟨[], fun _ hpiece => absurd hpiece List.not_mem_nil, rfl⟩
  | @literal l _ hl _ ih =>
    obtain ⟨T, hT, rfl⟩ := ih
    refine ⟨Template.ofLiteral l ++ T, ?_, ?_⟩
    · intro piece hpiece
      rcases List.mem_append.1 hpiece with h | h
      · exact Template.over_ofLiteral hl piece h
      · exact hT piece h
    · rw [Template.render_append, Template.render_ofLiteral]
  | @marker x _ hx _ ih =>
    obtain ⟨T, hT, rfl⟩ := ih
    refine ⟨.marker x :: T, ?_, rfl⟩
    intro piece hpiece
    rcases List.mem_cons.1 hpiece with rfl | h
    · exact hx
    · exact hT piece h

end Phrasebook
