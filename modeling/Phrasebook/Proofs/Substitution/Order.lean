import Phrasebook.Proofs.Entries
import Phrasebook.Proofs.Substitution

/-!
# The order of arguments

Arguments are put in one after the other, so their order can matter.  A value that contains the
marker of another argument is the plain case, but there is a second one: a value can make up such a
marker together with the text around it (`Completes`).  In a text with nested braces the value need
not have a brace for that (`substitute_perm_fails`).

* `substituteOne_comm`: two replacements commute, in any text, if neither value completes the marker
  of the other.
* `exists_substituteOne_ne`: if one of them does, there is a text in which they do not commute.
* `substitute_perm_iff`: no order of the arguments makes a difference in any text if and only if no
  value completes the marker of another name.
-/

namespace Phrasebook

open Phrasebook.Text

/-! ### Values that complete a marker -/

/-- A value completes a marker if it makes it up together with texts around it: there are a text
without a closing brace before it and one without an opening brace behind it, so that neither has a
marker of its own, and the three together contain the marker. -/
def Completes (value marker : List Char) : Prop :=
  ∃ before after, '}' ∉ before ∧ '{' ∉ after ∧ marker <:+: before ++ value ++ after

/-- The closing brace of a marker is its end, and the opening one its beginning. -/
theorem not_mem_of_append_eq_placeholder {name x y : List Char} (hname : BraceFree name)
    (h : x ++ y = placeholder name) : (y ≠ [] → '}' ∉ x) ∧ (x ≠ [] → '{' ∉ y) := by
  constructor
  · intro hy
    obtain ⟨y, c, rfl⟩ := List.eq_nil_or_concat y |>.resolve_left hy
    have hx : x ++ y = '{' :: name := by
      rw [placeholder, List.concat_eq_append, ← List.append_assoc] at h
      exact (List.append_inj' h rfl).1
    intro hmem
    have hmem : '}' ∈ '{' :: name := hx ▸ List.mem_append_left y hmem
    simp [hname.2] at hmem
  · intro hx hmem
    obtain ⟨c, x, rfl⟩ := List.exists_cons_of_ne_nil hx
    have hy : x ++ y = name ++ ['}'] := (List.cons.inj h).2
    have hmem : '{' ∈ name ++ ['}'] := hy ▸ List.mem_append_right x hmem
    simp [hname.1] at hmem

/-- A value without braces completes a marker only if it is a part of it. -/
theorem not_completes_of_not_infix {value name : List Char} (hvalue : BraceFree value)
    (h : ¬ value <:+: placeholder name) : ¬ Completes value (placeholder name) := by
  rintro ⟨before, after, hbefore, hafter, l, r, hmem⟩
  apply h
  have hmem : l ++ '{' :: (name ++ '}' :: r) = before ++ (value ++ after) := by
    rw [← List.append_assoc, ← hmem]
    simp [placeholder]
  have hopen : '{' ∉ value ++ after := by simp [hvalue.1, hafter]
  -- the marker begins before the value
  rcases List.append_eq_append_iff.1 hmem with ⟨u, hu, hrest⟩ | ⟨u, -, hrest⟩
  · cases u with
    | nil => exact absurd (hrest ▸ List.mem_cons_self) hopen
    | cons c u =>
      obtain ⟨rfl, htail⟩ := List.cons.inj hrest
      have hclose : '}' ∉ u ++ value := by
        have hu' : '}' ∉ u := fun hc =>
          hbefore (hu ▸ List.mem_append_right l (List.mem_cons_of_mem _ hc))
        simp [hu', hvalue.2]
      -- and ends behind it
      have htail : name ++ '}' :: r = (u ++ value) ++ after := by
        rw [List.append_assoc]
        exact htail
      rcases List.append_eq_append_iff.1 htail with ⟨w, hw, hr⟩ | ⟨w, hw, -⟩
      · cases w with
        | nil =>
          refine ⟨'{' :: u, ['}'], ?_⟩
          rw [placeholder, ← List.append_nil name, ← hw]
          rfl
        | cons c w =>
          obtain ⟨rfl, -⟩ := List.cons.inj hr
          exact absurd (hw ▸ List.mem_append_right name List.mem_cons_self) hclose
      · exact ⟨'{' :: u, w ++ ['}'], by simp [placeholder, hw]⟩
  · exact absurd (hrest ▸ List.mem_append_right u List.mem_cons_self) hopen

section Replacement

variable {name value : List Char}

/-- A value that does not complete a marker stays as it is, whatever follows it. -/
theorem substituteOne_append_of_not_completes (hname : BraceFree name)
    (h : ¬ Completes value (placeholder name)) (s new : List Char) :
    substituteOne (value ++ s) name new = value ++ substituteOne s name new := by
  -- the induction is on the part of the value that is still to be read
  have hread : ∀ read rest, read ++ rest = value →
      substituteOne (rest ++ s) name new = rest ++ substituteOne s name new := by
    intro read rest hvalue
    induction rest generalizing read with
    | nil => rfl
    | cons c rest ih =>
      have hnot : ¬ placeholder name <+: c :: (rest ++ s) := by
        rintro ⟨t, ht⟩
        apply h
        -- a marker that begins here ends in the value or behind it
        rcases List.append_eq_append_iff.1 (show placeholder name ++ t = (c :: rest) ++ s from ht)
          with ⟨u, hu, -⟩ | ⟨u, hu, -⟩
        · refine ⟨[], [], List.not_mem_nil, List.not_mem_nil, read, u, ?_⟩
          rw [List.append_assoc, ← hu, hvalue, List.nil_append, List.append_nil]
        · have hopen := (not_mem_of_append_eq_placeholder hname hu.symm).2 (List.cons_ne_nil _ _)
          refine ⟨[], u, List.not_mem_nil, hopen, read, [], ?_⟩
          rw [hu, ← hvalue]
          simp
      rw [substituteOne, List.cons_append, replaceAll_cons hnot]
      exact congrArg (c :: ·) (ih (read ++ [c]) (by rw [← hvalue]; simp))
  exact hread [] value rfl

/-- Values that do not complete a marker cannot take part in it: the end of the marker that follows
in the text with the values in it follows in the text itself. -/
theorem prefix_of_prefix_substituteOne {other : List Char} (hname : BraceFree name)
    (h : ¬ Completes value (placeholder name)) {x y s : List Char} (hx : x ≠ [])
    (hy : x ++ y = placeholder name) (hpre : y <+: substituteOne s other value) : y <+: s := by
  have hpatterns : ∀ p ∈ [placeholder other], p ≠ [] := by simp [placeholder]
  induction s using occurrence_induction hpatterns generalizing x y with
  | nil => exact hpre
  | occurrence p hp s _ =>
    obtain rfl := List.mem_singleton.1 hp
    by_cases hnil : y = []
    · exact hnil ▸ List.nil_prefix
    have hclose := (not_mem_of_append_eq_placeholder hname hy).1 hnil
    have hopen := (not_mem_of_append_eq_placeholder hname hy).2 hx
    obtain ⟨t, ht⟩ := hpre
    rw [substituteOne, replaceAll_append (hpatterns _ List.mem_cons_self)] at ht
    exfalso
    apply h
    -- the end of the marker would end in the value or behind it
    rcases List.append_eq_append_iff.1 ht with ⟨u, hu, -⟩ | ⟨u, hu, -⟩
    · refine ⟨x, [], hclose, List.not_mem_nil, [], u, ?_⟩
      rw [hu, ← hy]
      simp
    · refine ⟨x, u, hclose, fun hmem => hopen ?_, [], [], ?_⟩
      · exact hu ▸ List.mem_append_right value hmem
      · rw [← hy, hu]
        simp
  | other c s hnot ih =>
    rw [substituteOne, replaceAll_cons (hnot _ List.mem_cons_self)] at hpre
    cases y with
    | nil => exact List.nil_prefix
    | cons d y =>
      obtain ⟨rfl, htail⟩ := List.cons_prefix_cons.1 hpre
      have hsplit : (x ++ [d]) ++ y = placeholder name := by
        rw [← hy]
        simp
      exact List.cons_prefix_cons.2 ⟨rfl, ih (by simp) hsplit htail⟩

end Replacement

/-! ### Two replacements -/

/-- Two replacements commute if neither value completes the marker of the other name. -/
theorem substituteOne_comm {name name' value value' : List Char} (hname : BraceFree name)
    (hname' : BraceFree name') (hne : name ≠ name')
    (hvalue : ¬ Completes value (placeholder name'))
    (hvalue' : ¬ Completes value' (placeholder name)) (s : List Char) :
    substituteOne (substituteOne s name value) name' value' =
      substituteOne (substituteOne s name' value') name value := by
  have hpatterns : ∀ p ∈ [placeholder name, placeholder name'], p ≠ [] := by simp [placeholder]
  -- a character at which no marker begins is none behind a replacement either
  have hstays : ∀ {a b v : List Char} {c : Char} {s : List Char}, BraceFree b →
      ¬ Completes v (placeholder b) → ¬ placeholder b <+: c :: s →
      ¬ placeholder b <+: c :: substituteOne s a v := by
    intro a b v c s hb hv hnot hpre
    obtain ⟨rfl, htail⟩ := List.cons_prefix_cons.1 hpre
    exact hnot (List.cons_prefix_cons.2
      ⟨rfl, prefix_of_prefix_substituteOne (x := ['{']) hb hv (by simp) rfl htail⟩)
  induction s using occurrence_induction hpatterns with
  | nil => rfl
  | occurrence p hp s ih =>
    rcases List.mem_cons.1 hp with rfl | hp
    · rw [substituteOne_placeholder_append hname hname, if_pos rfl,
        substituteOne_append_of_not_completes hname' hvalue, ih,
        substituteOne_placeholder_append hname hname', if_neg hne,
        substituteOne_placeholder_append hname hname, if_pos rfl]
    · obtain rfl := List.mem_singleton.1 hp
      rw [substituteOne_placeholder_append hname' hname, if_neg hne.symm,
        substituteOne_placeholder_append hname' hname', if_pos rfl, ih,
        substituteOne_placeholder_append hname' hname', if_pos rfl,
        substituteOne_append_of_not_completes hname hvalue']
  | other c s hnot ih =>
    have hfirst := hnot (placeholder name) List.mem_cons_self
    have hsecond := hnot (placeholder name') (List.mem_cons_of_mem _ List.mem_cons_self)
    unfold substituteOne at ih hstays ⊢
    rw [replaceAll_cons hfirst, replaceAll_cons (hstays hname' hvalue hsecond),
      replaceAll_cons hsecond, replaceAll_cons (hstays hname hvalue' hfirst), ih]

/-! ### A text for two replacements that do not commute -/

theorem substituteOne_of_not_mem {s : List Char} (hs : '{' ∉ s) (name value : List Char) :
    substituteOne s name value = s := by
  have happend := substituteOne_append hs [] name value
  have hnil : substituteOne [] name value = [] := replaceAll_nil _ _
  rwa [hnil, List.append_nil] at happend

/-- No marker begins before an opening brace and ends behind it. -/
theorem substituteOne_append_of_closing_not_mem {x name : List Char} (hx : '}' ∉ x)
    (hname : '{' ∉ name) (s value : List Char) :
    substituteOne (x ++ '{' :: s) name value = x ++ substituteOne ('{' :: s) name value := by
  induction x with
  | nil => rfl
  | cons c x ih =>
    have hx' : '}' ∉ x := fun hmem => hx (List.mem_cons_of_mem c hmem)
    -- A marker that begins in `x` would have its closing brace in `x`, or the opening brace behind
    -- `x` in its name.
    have hnot : ¬ placeholder name <+: c :: (x ++ '{' :: s) := by
      intro hpre
      obtain ⟨t, ht⟩ := (List.cons_prefix_cons.1 hpre).2
      have ht : name ++ '}' :: t = x ++ '{' :: s := by
        rw [← ht]
        simp
      rcases List.append_eq_append_iff.1 ht with ⟨u, hu, hrest⟩ | ⟨u, hu, hrest⟩
      · cases u with
        | nil => simp at hrest
        | cons d u =>
          obtain ⟨rfl, -⟩ := List.cons.inj hrest
          exact hx' (hu ▸ List.mem_append_right name List.mem_cons_self)
      · cases u with
        | nil => simp at hrest
        | cons d u =>
          obtain ⟨rfl, -⟩ := List.cons.inj hrest
          exact hname (hu ▸ List.mem_append_right x List.mem_cons_self)
    have ih' := ih hx'
    unfold substituteOne at ih' ⊢
    rw [List.cons_append, replaceAll_cons hnot, ih', List.cons_append]

/-- If a value completes the marker of another name, there is a text that changes when it is put in
before the other, and only then. -/
theorem exists_substituteOne_ne {name name' value value' : List Char} (hname : BraceFree name)
    (h : Completes value (placeholder name')) (hvalue' : value' ≠ placeholder name') :
    ∃ s, (∀ other new, BraceFree other → name ≠ other → substituteOne s other new = s) ∧
      substituteOne (substituteOne s name value) name' value' ≠ substituteOne s name value := by
  obtain ⟨before, after, hbefore, hafter, hmem⟩ := h
  -- Only the marker of `name` is there, until its value completes that of `name'`.
  have hread : ∀ other new, BraceFree other →
      substituteOne (before ++ (placeholder name ++ after)) other new =
        before ++ ((if name = other then new else placeholder name) ++ after) := by
    intro other new hother
    rw [placeholder, List.cons_append, List.cons_append,
      substituteOne_append_of_closing_not_mem hbefore hother.1, ← List.cons_append,
      ← List.cons_append, ← placeholder, substituteOne_placeholder_append hname hother,
      substituteOne_of_not_mem hafter]
  refine ⟨before ++ (placeholder name ++ after), ?_, ?_⟩
  · intro other new hother hne
    rw [hread other new hother, if_neg hne]
  · rw [hread name value hname, if_pos rfl, ← List.append_assoc]
    exact fun heq => hvalue' (eq_of_replaceAll_eq_self (List.cons_ne_nil _ _) heq hmem)

/-! ### Any number of arguments -/

section Arguments

variable {pairs : List (String × String)}

theorem substituteAll_append_pairs (s : List Char) (pairs pairs' : List (String × String)) :
    substituteAll s (pairs ++ pairs') = substituteAll (substituteAll s pairs) pairs' :=
  List.foldl_append

theorem substituteAll_eq_self {s : List Char}
    (h : ∀ pair ∈ pairs, substituteOne s pair.1.toList pair.2.toList = s) :
    substituteAll s pairs = s := by
  induction pairs with
  | nil => rfl
  | cons pair pairs ih =>
    have ih' := ih fun q hq => h q (List.mem_cons_of_mem pair hq)
    unfold substituteAll at ih' ⊢
    rw [List.foldl_cons, h pair List.mem_cons_self, ih']

/-- The order of arguments does not matter if no value completes the marker of another name. -/
theorem substituteAll_eq_of_perm {pairs' : List (String × String)}
    (hnames : (pairs.map Prod.fst).Nodup) (hfree : ∀ pair ∈ pairs, BraceFree pair.1.toList)
    (h : ∀ pair ∈ pairs, ∀ other ∈ pairs, pair.1 ≠ other.1 →
      ¬ Completes pair.2.toList (placeholder other.1.toList))
    (hperm : pairs'.Perm pairs) (s : List Char) :
    substituteAll s pairs' = substituteAll s pairs := by
  refine hperm.foldl_eq' ?_ s
  intro pair hpair other hother s
  replace hpair := hperm.mem_iff.1 hpair
  replace hother := hperm.mem_iff.1 hother
  by_cases hname : pair.1 = other.1
  · rw [List.inj_on_of_nodup_map hnames hpair hother hname]
  · exact substituteOne_comm (hfree pair hpair) (hfree other hother)
      (fun heq => hname (String.toList_inj.1 heq)) (h pair hpair other hother hname)
      (h other hother pair hpair (Ne.symm hname)) s

/-- If a value completes the marker of another name, some order makes a difference in some text. -/
theorem exists_perm_substituteAll_ne {pair other : String × String}
    (hnames : (pairs.map Prod.fst).Nodup) (hfree : ∀ pair ∈ pairs, BraceFree pair.1.toList)
    (hpair : pair ∈ pairs) (hother : other ∈ pairs) (hne : pair.1 ≠ other.1)
    (h : Completes pair.2.toList (placeholder other.1.toList))
    (hvalue : other.2.toList ≠ placeholder other.1.toList) :
    ∃ s pairs₁ pairs₂, pairs₁.Perm pairs ∧ pairs₂.Perm pairs ∧
      substituteAll s pairs₁ ≠ substituteAll s pairs₂ := by
  obtain ⟨s, hkeep, hdiffers⟩ := exists_substituteOne_ne (hfree pair hpair) h hvalue
  have hmem : other ∈ pairs.erase pair :=
    (List.mem_erase_of_ne fun heq => hne (congrArg Prod.fst heq).symm).2 hother
  -- all others come first, and change nothing
  obtain ⟨rest, hrest⟩ : ∃ rest, (pair :: other :: rest).Perm pairs :=
    ⟨_, ((List.perm_cons_erase hmem).cons pair).symm.trans (List.perm_cons_erase hpair).symm⟩
  have hsame : substituteAll s rest = s := by
    refine substituteAll_eq_self fun q hq => ?_
    have hq' : q ∈ pairs := hrest.mem_iff.1 (List.mem_cons_of_mem _ (List.mem_cons_of_mem _ hq))
    refine hkeep _ _ (hfree q hq') fun heq => ?_
    have hnodup := (hrest.map Prod.fst).nodup_iff.2 hnames
    rw [List.map_cons, List.map_cons] at hnodup
    refine (List.nodup_cons.1 hnodup).1 (List.mem_cons_of_mem _ ?_)
    rw [String.toList_inj.1 heq]
    exact List.mem_map_of_mem hq
  refine ⟨s, rest ++ [pair, other], rest ++ [other, pair],
    List.perm_append_comm.trans hrest,
    List.perm_append_comm.trans ((List.Perm.swap pair other rest).trans hrest), ?_⟩
  rw [substituteAll_append_pairs, substituteAll_append_pairs, hsame]
  have hskip := hkeep other.1.toList other.2.toList (hfree other hother)
    fun heq => hne (String.toList_inj.1 heq)
  unfold substituteAll
  rw [List.foldl_cons, List.foldl_cons, List.foldl_nil, List.foldl_cons, List.foldl_cons,
    List.foldl_nil, hskip]
  exact hdiffers

end Arguments

/-- **When the order of arguments matters.**  The names differ from each other and have no braces,
and no value contains the marker of a name.  Then all orders of the arguments give the same in all
texts if and only if no value completes the marker of another name with a text around it. -/
theorem substitute_perm_iff (pairs : List (String × String)) (hnames : (pairs.map Prod.fst).Nodup)
    (hfree : ∀ pair ∈ pairs, BraceFree pair.1.toList)
    (hvalues : ∀ pair ∈ pairs, ∀ other ∈ pairs,
      ¬ placeholder other.1.toList <:+: pair.2.toList) :
    (∀ (text : String) (pairs' : List (String × String)), pairs'.Perm pairs →
      substitute text (Args.ofTexts pairs') = substitute text (Args.ofTexts pairs)) ↔
    ∀ pair ∈ pairs, ∀ other ∈ pairs, pair.1 ≠ other.1 →
      ¬ Completes pair.2.toList (placeholder other.1.toList) := by
  have hlist : ∀ {pairs' : List (String × String)}, pairs'.Perm pairs → ∀ text : String,
      (substitute text (Args.ofTexts pairs')).toList = substituteAll text.toList pairs' := by
    intro pairs' hperm text
    rw [toList_substitute, Args.toList_ofTexts ((hperm.map Prod.fst).nodup_iff.2 hnames)]
  constructor
  · intro hall pair hpair other hother hne hcompletes
    have hvalue : other.2.toList ≠ placeholder other.1.toList :=
      fun heq => hvalues other hother other hother (heq ▸ List.infix_rfl)
    -- A completed marker tells two orders apart, by whether its argument comes behind or in front.
    obtain ⟨s, pairs₁, pairs₂, hperm₁, hperm₂, hdiffers⟩ :=
      exists_perm_substituteAll_ne hnames hfree hpair hother hne hcompletes hvalue
    have heq := (hall (String.ofList s) pairs₁ hperm₁).trans
      (hall (String.ofList s) pairs₂ hperm₂).symm
    rw [← String.toList_inj, hlist hperm₁, hlist hperm₂, String.toList_ofList] at heq
    exact hdiffers heq
  · intro h text pairs' hperm
    rw [← String.toList_inj, hlist hperm, hlist (List.Perm.refl _)]
    exact substituteAll_eq_of_perm hnames hfree h hperm _

/-- Values without braces that are no parts of the markers: all orders give the same, also in a text
with braces of its own. -/
theorem substitute_perm_iff_name :
    (∀ pair ∈ [("name", "Ada"), ("n", "36"), ("", "-")],
      ∀ other ∈ [("name", "Ada"), ("n", "36"), ("", "-")],
        ¬ placeholder other.1.toList <:+: pair.2.toList) ∧
    ∀ (text : String) (pairs' : List (String × String)),
      pairs'.Perm [("name", "Ada"), ("n", "36"), ("", "-")] →
        substitute text (Args.ofTexts pairs') =
          substitute text (Args.ofTexts [("name", "Ada"), ("n", "36"), ("", "-")]) := by
  refine ⟨by decide, (substitute_perm_iff [("name", "Ada"), ("n", "36"), ("", "-")] (by decide)
    (by decide) (by decide)).2 ?_⟩
  intro pair hpair other hother _
  have hparts : ∀ pair ∈ [("name", "Ada"), ("n", "36"), ("", "-")],
      ∀ other ∈ [("name", "Ada"), ("n", "36"), ("", "-")], BraceFree pair.2.toList ∧
        ¬ pair.2.toList <:+: placeholder other.1.toList := by
    decide
  exact not_completes_of_not_infix (hparts pair hpair other hother).1
    (hparts pair hpair other hother).2

/-- The order can matter though no value contains a marker: a value within braces makes one up. -/
theorem substitute_perm_fails :
    ¬ ∀ (text : String) (pairs pairs' : List (String × String)), (pairs.map Prod.fst).Nodup →
      (∀ pair ∈ pairs, BraceFree pair.1.toList) →
      (∀ pair ∈ pairs, ∀ other ∈ pairs, ¬ placeholder other.1.toList <:+: pair.2.toList) →
      pairs'.Perm pairs →
      substitute text (Args.ofTexts pairs') = substitute text (Args.ofTexts pairs) := by
  intro h
  have heq := h "{{a}}" [("a", "b"), ("b", "B")] [("b", "B"), ("a", "b")] (by decide) (by decide)
    (by decide) (by decide)
  exact absurd heq (by decide +kernel)

end Phrasebook
