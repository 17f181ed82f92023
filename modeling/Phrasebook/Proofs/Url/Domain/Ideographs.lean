import Phrasebook.Proofs.Url.Domain.Name

/-!
# Labels of ideographs

The ideographs from 4E00 to 9FFF are in none of the tables for domain names, and in no composed
character (`ideographs`).  So a label of such characters is a name in the spelling of domain names
(`spell?_of_isIdeograph`) and can stand in a name (`isLabel_of_isIdeograph`), and the name in ASCII
is the encoded label: `toAscii?_of_isIdeograph`.
-/

namespace Phrasebook.Url.Domain

open Phrasebook.Text

/-- Whether a character is one of the ideographs of the first block. -/
def isIdeograph (c : Char) : Bool :=
  0x4E00 ≤ c.toNat && c.toNat ≤ 0x9FFF

variable {c : Char} {s : List Char}

theorem isIdeograph_iff : isIdeograph c = true ↔ 0x4E00 ≤ c.toNat ∧ c.toNat ≤ 0x9FFF := by
  simp [isIdeograph]

/-! ### Tables -/

/-- A range of code points that the tables for domain names say nothing about. -/
structure UnlistedRange where
  first : ℕ
  last : ℕ
  isClearOf_replaced : Row.IsClearOf first last replaced
  isClearOf_dropped : Row.IsClearOf first last dropped
  isClearOf_refused : Row.IsClearOf first last refused
  isClearOf_marks : Row.IsClearOf first last marks
  isClearOf_classes : Row.IsClearOf first last classes
  isClearOf_right : Row.IsClearOf first last (Row.readAll rightText)
  isClearOf_arabicNumbers : Row.IsClearOf first last (Row.readAll arabicNumbersText)
  /-- The characters are not composed, and no character is composed with one. -/
  isOutside_composites : ∀ r ∈ composites,
    (r.isOutside first last && r.values.all fun n => n < first || last < n) = true

/-- The range of the ideographs. -/
def ideographs : UnlistedRange where
  first := 0x4E00
  last := 0x9FFF
  -- `forall_readAll_cons` takes a line as its characters, since to decode it would take long.
  isClearOf_replaced := by
    unfold replaced replacedText
    repeat' (apply Row.forall_readAll_cons; decide +kernel)
    exact Row.forall_readAll_nil
  isClearOf_dropped := by
    unfold dropped droppedText
    repeat' (apply Row.forall_readAll_cons; decide +kernel)
    exact Row.forall_readAll_nil
  isClearOf_refused := by
    unfold refused refusedText
    repeat' (apply Row.forall_readAll_cons; decide +kernel)
    exact Row.forall_readAll_nil
  isClearOf_marks := by
    unfold marks marksText
    repeat' (apply Row.forall_readAll_cons; decide +kernel)
    exact Row.forall_readAll_nil
  isClearOf_classes := by
    unfold classes classesText
    repeat' (apply Row.forall_readAll_cons; decide +kernel)
    exact Row.forall_readAll_nil
  isClearOf_right := by
    unfold rightText
    repeat' (apply Row.forall_readAll_cons; decide +kernel)
    exact Row.forall_readAll_nil
  isClearOf_arabicNumbers := by
    unfold arabicNumbersText
    repeat' (apply Row.forall_readAll_cons; decide +kernel)
    exact Row.forall_readAll_nil
  isOutside_composites := by
    unfold composites compositesText
    repeat' (apply Row.forall_readAll_cons; decide +kernel)
    exact Row.forall_readAll_nil

/-! ### Characters -/

theorem mapping?_of_isIdeograph (h : isIdeograph c = true) : mapping? c = some [c] := by
  obtain ⟨hfirst, hlast⟩ := isIdeograph_iff.1 h
  have hbeyond : ¬ c.toNat < 0x80 := by omega
  unfold mapping?
  rw [if_neg hbeyond, ideographs.isClearOf_replaced.find?_eq_none hfirst hlast]
  dsimp only
  rw [ideographs.isClearOf_dropped.anyHas_eq_false hfirst hlast,
    ideographs.isClearOf_refused.anyHas_eq_false hfirst hlast]
  rfl

theorem isValid_of_isIdeograph (h : isIdeograph c = true) : isValid c = true := by
  obtain ⟨hfirst, hlast⟩ := isIdeograph_iff.1 h
  have hbeyond : ¬ c.toNat < 0x80 := by omega
  unfold isValid
  rw [if_neg hbeyond, ideographs.isClearOf_replaced.anyHas_eq_false hfirst hlast,
    ideographs.isClearOf_dropped.anyHas_eq_false hfirst hlast,
    ideographs.isClearOf_refused.anyHas_eq_false hfirst hlast]
  rfl

theorem isMark_of_isIdeograph (h : isIdeograph c = true) : isMark c = false := by
  obtain ⟨hfirst, hlast⟩ := isIdeograph_iff.1 h
  unfold isMark
  exact ideographs.isClearOf_marks.anyHas_eq_false hfirst hlast

theorem classOf_of_isIdeograph (h : isIdeograph c = true) : classOf c = 0 := by
  obtain ⟨hfirst, hlast⟩ := isIdeograph_iff.1 h
  unfold classOf
  rw [ideographs.isClearOf_classes.find?_eq_none hfirst hlast]

theorem parts?_of_isIdeograph (h : isIdeograph c = true) : parts? c = none := by
  obtain ⟨hfirst, hlast⟩ := isIdeograph_iff.1 h
  have hclear : Row.IsClearOf 0x4E00 0x9FFF composites := fun r hr =>
    (Bool.and_eq_true_iff.1 (ideographs.isOutside_composites r hr)).1
  have hsyllable : syllableParts? c.toNat = none := by
    have hbefore : (decide (c.toNat < firstSyllable) ||
        decide (firstSyllable + syllableCount ≤ c.toNat)) = true := by
      rw [decide_eq_true (show c.toNat < firstSyllable from Nat.lt_of_le_of_lt hlast (by decide))]
      rfl
    unfold syllableParts?
    rw [if_pos hbefore]
  unfold parts?
  rw [hsyllable, hclear.find?_eq_none hfirst hlast]

theorem composite?_of_isIdeograph (a : Char) (h : isIdeograph c = true) :
    composite? a c = none := by
  obtain ⟨hfirst, hlast⟩ := isIdeograph_iff.1 h
  have hsyllable : syllable? a.toNat c.toNat = none := by
    unfold syllable?
    rw [if_neg (by simp; omega), if_neg (by simp; omega)]
  have hfind : composites.find? (fun r => r.values = [a.toNat, c.toNat]) = none := by
    rw [List.find?_eq_none]
    intro r hr hvalues
    have houtside : (r.values.all fun n => n < 0x4E00 || 0x9FFF < n) = true :=
      (Bool.and_eq_true_iff.1 (ideographs.isOutside_composites r hr)).2
    rw [of_decide_eq_true hvalues] at houtside
    simp at houtside
    omega
  unfold composite?
  rw [hsyllable, hfind]
  rfl

/-! ### Labels -/

theorem orderMarks_of_class_zero (h : ∀ c ∈ s, classOf c = 0) : orderMarks s = s := by
  have hfold : ∀ acc : List Char,
      s.foldl (fun acc c => if classOf c = 0 then c :: acc else placeMark c acc) acc =
        s.reverse ++ acc := by
    induction s with
    | nil => exact fun acc => rfl
    | cons c s ih =>
      intro acc
      obtain ⟨hc, hs⟩ := List.forall_mem_cons.1 h
      rw [List.foldl_cons, if_pos hc, ih hs, List.reverse_cons, List.append_assoc,
        List.singleton_append]
  unfold orderMarks
  rw [hfold, List.append_nil, List.reverse_reverse]

theorem decompose_of_isIdeograph (h : ∀ c ∈ s, isIdeograph c = true) : decompose s = s := by
  have hparts : s.flatMap (allParts compositionDepth) = s := by
    have hself : ∀ c ∈ s, allParts compositionDepth c = [c] := by
      intro c hc
      unfold compositionDepth
      rw [allParts, parts?_of_isIdeograph (h c hc)]
    rw [List.flatMap_def, List.map_congr_left hself, ← List.flatMap_def, List.flatMap_singleton']
  unfold decompose
  rw [hparts, orderMarks_of_class_zero fun c hc => classOf_of_isIdeograph (h c hc)]

/-- Ideographs are put one behind the other. -/
theorem foldl_add_of_isIdeograph (h : ∀ c ∈ s, isIdeograph c = true) {k : Composing}
    (hbehind : k.behind = []) : (s.foldl Composing.add k).all = s.reverse ++ k.all := by
  induction s generalizing k with
  | nil => rfl
  | cons c s ih =>
    obtain ⟨hc, hs⟩ := List.forall_mem_cons.1 h
    -- The ideograph is the next starter, and is not composed with the one before.
    have hadd : k.add c = ⟨k.all, some c, []⟩ := by
      unfold Composing.add
      rw [hbehind]
      cases k.starter with
      | none =>
        dsimp only
        rw [if_pos (classOf_of_isIdeograph hc)]
      | some a =>
        dsimp only
        rw [if_neg Bool.false_ne_true, composite?_of_isIdeograph a hc]
        dsimp only
        rw [if_pos (classOf_of_isIdeograph hc)]
    rw [List.foldl_cons, hadd, ih hs rfl, List.reverse_cons, List.append_assoc]
    rfl

theorem compose_of_isIdeograph (h : ∀ c ∈ s, isIdeograph c = true) : compose s = s := by
  unfold compose
  rw [decompose_of_isIdeograph h, foldl_add_of_isIdeograph h rfl]
  show (s.reverse ++ []).reverse = s
  rw [List.append_nil, List.reverse_reverse]

theorem spell?_of_isIdeograph (h : ∀ c ∈ s, isIdeograph c = true) : spell? s = some s := by
  have hmap : s.mapM mapping? = some (s.map fun c => [c]) :=
    mapM_eq_some_map fun c hc => mapping?_of_isIdeograph (h c hc)
  have hflatten : (s.map fun c => [c]).flatten = s := by
    rw [← List.flatMap_def, List.flatMap_singleton']
  unfold spell?
  rw [hmap, Option.map_some, hflatten, compose_of_isIdeograph h, ite_self]

theorem joinersFitFrom_of_isIdeograph (h : ∀ c ∈ s, isIdeograph c = true) (before : List Char) :
    joinersFitFrom before s = true := by
  induction s generalizing before with
  | nil => rfl
  | cons c s ih =>
    obtain ⟨hc, hs⟩ := List.forall_mem_cons.1 h
    have hfirst := (isIdeograph_iff.1 hc).1
    unfold joinersFitFrom
    dsimp only
    rw [if_neg (by omega), if_neg (by omega), Bool.true_and]
    exact ih hs (c :: before)

theorem isLabel_of_isIdeograph (h : ∀ c ∈ s, isIdeograph c = true)
    (hlength : s.length ≤ clearLimit) :
    isLabel s = true := by
  have hvalid : s.all isValid = true :=
    List.all_eq_true.2 fun c hc => isValid_of_isIdeograph (h c hc)
  have hmark : s.head?.any isMark = false := by
    cases s with
    | nil => rfl
    | cons c s => exact isMark_of_isIdeograph (h c List.mem_cons_self)
  unfold isLabel joinersFit
  rw [hvalid, compose_of_isIdeograph h, hmark, joinersFitFrom_of_isIdeograph h, decide_eq_true rfl,
    decide_eq_true hlength]
  exact Bool.or_true _

theorem directionsFit_of_isIdeograph (h : ∀ c ∈ s, isIdeograph c = true) :
    directionsFit [s] = true := by
  refine directionsFit_of_isFromRight fun label hlabel c hc => ?_
  obtain rfl := List.mem_singleton.1 hlabel
  obtain ⟨hfirst, hlast⟩ := isIdeograph_iff.1 (h c hc)
  exact isFromRight_directionOf ideographs.isClearOf_right ideographs.isClearOf_arabicNumbers
    hfirst hlast

theorem not_mem_of_isIdeograph (h : ∀ c ∈ s, isIdeograph c = true) (hc : isIdeograph c = false) :
    c ∉ s :=
  fun hmem => Bool.false_ne_true (hc.symm.trans (h c hmem))

theorem clearLabel?_of_isIdeograph (h : ∀ c ∈ s, isIdeograph c = true)
    (hlength : s.length ≤ clearLimit) : clearLabel? s = some s := by
  have hmark : ¬ encodedMark.isPrefixOf s = true := by
    intro hmark
    obtain ⟨rest, rfl⟩ := List.isPrefixOf_iff_prefix.1 hmark
    exact not_mem_of_isIdeograph (c := 'x') h (by decide) (List.mem_append_left _ (by decide))
  unfold clearLabel?
  rw [if_neg hmark, if_pos (isLabel_of_isIdeograph h hlength)]

theorem clearLabels?_of_isIdeograph (h : ∀ c ∈ s, isIdeograph c = true)
    (hlength : s.length ≤ clearLimit) : clearLabels? s = some [s] := by
  have hsplit : splitAt '.' s = [s] := splitAt_joinWith (List.cons_ne_nil s []) fun piece hpiece =>
    List.mem_singleton.1 hpiece ▸ not_mem_of_isIdeograph h (by decide)
  unfold clearLabels?
  rw [hsplit, List.mapM_cons, clearLabel?_of_isIdeograph h hlength]
  show Option.filter directionsFit (some [s]) = _
  rw [Option.filter_some, if_pos (directionsFit_of_isIdeograph h)]

theorem encodeLabel_of_isIdeograph (hne : s ≠ []) (h : ∀ c ∈ s, isIdeograph c = true) :
    encodeLabel s = encodedMark ++ Punycode.encode s := by
  obtain ⟨c, cs, rfl⟩ := List.exists_cons_of_ne_nil hne
  have hfirst := (isIdeograph_iff.1 (h c List.mem_cons_self)).1
  refine if_neg fun hascii => ?_
  have hlt := of_decide_eq_true (List.all_eq_true.1 hascii c List.mem_cons_self)
  omega

/-- **A label of ideographs is encoded**, and what is encoded is one label. -/
theorem toAscii?_of_isIdeograph (hne : s ≠ []) (h : ∀ c ∈ s, isIdeograph c = true)
    (hlength : s.length ≤ clearLimit) :
    toAscii? s = some (encodedMark ++ Punycode.encode s) ∧
      splitAt '.' (encodedMark ++ Punycode.encode s) = [encodedMark ++ Punycode.encode s] := by
  have hencode := encodeLabel_of_isIdeograph hne h
  have hname : encodeLabels [s] = encodedMark ++ Punycode.encode s := hencode
  have hclear : IsClear s := isClear_of_clearLabel? (not_mem_of_isIdeograph h (by decide))
    (clearLabel?_of_isIdeograph h hlength)
  have hself := splitAt_encodeLabels (List.cons_ne_nil s []) fun label hlabel =>
    List.mem_singleton.1 hlabel ▸ hclear
  rw [List.map_singleton, hencode, hname] at hself
  refine ⟨?_, hself⟩
  unfold toAscii?
  rw [spell?_of_isIdeograph h, Option.bind_some, clearLabels?_of_isIdeograph h hlength,
    Option.map_some, hname]

end Phrasebook.Url.Domain
