import Phrasebook.Proofs.Text.Split
import Phrasebook.Proofs.Url.Percent
import Phrasebook.Url.Parser

/-!
# Reading paths back

The path of a URL with an authority is kept without dot segments and encoded, so what is written is
read as the same path: `readServedPath_renderPath`, for the segments that
`isSegment_of_mem_readServedPath` says there are.

That an encoded segment is no dot segment rests on dots not being encoded: a text that is a dot
segment when it has been encoded has been one before (`lower_eq_of_lower_encodeWith`).
-/

namespace Phrasebook.Url

open Phrasebook.Text

variable {p q : Char → Bool} {s t segment : List Char}

/-! ### Dot segments -/

/-- An unencoded character in front of an encoded text is one in front of the text. -/
theorem exists_cons_of_lower_encodeWith {d : Char} (hd : d ≠ '%')
    (h : lower (encodeWith p s) = d :: t) :
    ∃ c rest, s = c :: rest ∧ c.toLower = d ∧ lower (encodeWith p rest) = t := by
  cases s with
  | nil => exact nomatch h
  | cons c rest =>
    rw [encodeWith_cons] at h
    split_ifs at h
    · obtain ⟨b, tail, hbytes, -⟩ := Utf8.decodeOne_utf8EncodeChar c []
      rw [hbytes] at h
      exact absurd (List.cons.inj h).1.symm hd
    · exact ⟨c, rest, rfl, List.cons.inj h⟩

/-- An encoded dot in front of an encoded text is one in front of the text. -/
theorem exists_append_of_lower_encodeWith (hdot : p '.' = false)
    (h : lower (encodeWith p s) = "%2e".toList ++ t) :
    ∃ dot rest, s = dot ++ rest ∧ lower dot = "%2e".toList ∧ lower (encodeWith p rest) = t := by
  have hdigits : ∀ m < 16, ∀ n < 16, (upperHexChar m).toLower = '2' →
      (upperHexChar n).toLower = 'e' → m = 2 ∧ n = 14 := by decide
  cases s with
  | nil => exact nomatch h
  | cons c rest =>
    rw [encodeWith_cons] at h
    split_ifs at h with hc
    · -- the digits of an encoded character say that it is a dot, which is not encoded
      obtain ⟨b, tail, hbytes, hone⟩ := Utf8.decodeOne_utf8EncodeChar c []
      rw [hbytes] at h
      have hlt : b.toNat < 256 := b.toNat_lt
      obtain ⟨hfirst, hsecond⟩ := hdigits (b.toNat / 16) (by omega) (b.toNat % 16) (by omega)
        (List.cons.inj (List.cons.inj h).2).1
        (List.cons.inj (List.cons.inj (List.cons.inj h).2).2).1
      have hb : b.toNat = 0x2E := by omega
      have hchar : c = '.' := by
        have hfst := congrArg Prod.fst hone
        unfold Utf8.decodeOne at hfst
        rw [if_pos (by omega), hb] at hfst
        exact hfst.symm
      rw [hchar, hdot] at hc
      exact absurd hc (by decide)
    · -- A percent sign that stands there already is followed by the two digits themselves.
      obtain ⟨hlower, h⟩ := List.cons.inj h
      obtain ⟨c₂, rest₂, rfl, hlower₂, h⟩ := exists_cons_of_lower_encodeWith (by decide) h
      obtain ⟨c₃, rest₃, rfl, hlower₃, h⟩ := exists_cons_of_lower_encodeWith (by decide) h
      refine ⟨[c, c₂, c₃], rest₃, rfl, ?_, h⟩
      show [c.toLower, c₂.toLower, c₃.toLower] = _
      rw [hlower₂, hlower₃]
      exact congrArg (· :: ['2', 'e']) hlower

theorem lower_append (s t : List Char) : lower (s ++ t) = lower s ++ lower t :=
  List.map_append

/-- A text that is written as dots when it has been encoded was written as the same dots before. -/
theorem lower_eq_of_lower_encodeWith (hdot : p '.' = false) (dots : List (List Char))
    (hdots : ∀ dot ∈ dots, dot = ['.'] ∨ dot = "%2e".toList)
    (h : lower (encodeWith p s) = dots.flatten) : lower s = dots.flatten := by
  induction dots generalizing s with
  | nil =>
    -- What is encoded is not empty unless the segment is.
    cases s with
    | nil => rfl
    | cons c rest => exact absurd (List.map_eq_nil_iff.1 h) (encodeWith_cons_ne_nil p c rest)
  | cons dot dots ih =>
    obtain ⟨hfirst, hrest⟩ := List.forall_mem_cons.1 hdots
    rw [List.flatten_cons] at h ⊢
    rcases hfirst with rfl | rfl
    · obtain ⟨c, rest, rfl, hlower, h⟩ := exists_cons_of_lower_encodeWith (by decide) h
      show c.toLower :: lower rest = _
      rw [hlower, ih hrest h]
      rfl
    · obtain ⟨dot, rest, rfl, hlower, h⟩ := exists_append_of_lower_encodeWith hdot h
      rw [lower_append, hlower, ih hrest h]

theorem isSingleDot_of_encodeWith (hdot : p '.' = false)
    (h : isSingleDot (encodeWith p s) = true) : isSingleDot s = true := by
  simp only [isSingleDot, List.any_cons, List.any_nil, Bool.or_false, Bool.or_eq_true,
    decide_eq_true_eq] at h ⊢
  rcases h with h | h
  · exact Or.inl (lower_eq_of_lower_encodeWith hdot [['.']] (by decide) h)
  · exact Or.inr (lower_eq_of_lower_encodeWith hdot ["%2e".toList] (by decide) h)

theorem isDoubleDot_of_encodeWith (hdot : p '.' = false)
    (h : isDoubleDot (encodeWith p s) = true) : isDoubleDot s = true := by
  simp only [isDoubleDot, List.any_cons, List.any_nil, Bool.or_false, Bool.or_eq_true,
    decide_eq_true_eq] at h ⊢
  rcases h with h | h | h | h
  · exact Or.inl (lower_eq_of_lower_encodeWith hdot [['.'], ['.']] (by decide) h)
  · exact Or.inr (Or.inl
      (lower_eq_of_lower_encodeWith hdot [['.'], "%2e".toList] (by decide) h))
  · exact Or.inr (Or.inr (Or.inl
      (lower_eq_of_lower_encodeWith hdot ["%2e".toList, ['.']] (by decide) h)))
  · exact Or.inr (Or.inr (Or.inr
      (lower_eq_of_lower_encodeWith hdot ["%2e".toList, "%2e".toList] (by decide) h)))

/-! ### Segments -/

/-- The characters that no segment of a path has: those that are encoded in a path, and slashes. -/
def segmentSet (c : Char) : Bool :=
  pathSet c || isSlash true c

theorem isEncodeSet_segmentSet : IsEncodeSet segmentSet :=
  ⟨by decide, by decide⟩

/-- A segment of a path as it is kept. -/
structure IsSegment (segment : List Char) : Prop where
  encoded : IsEncoded segmentSet segment
  single : isSingleDot segment = false
  double : isDoubleDot segment = false

theorem isSegment_nil : IsSegment [] :=
  ⟨fun _ h => (nomatch h), by decide, by decide⟩

/-- What stands between slashes is a segment when it is encoded, unless it is a dot segment. -/
theorem isSegment_encodeWith (hslash : ∀ c ∈ s, ¬ isSlash true c = true)
    (hsingle : ¬ isSingleDot s = true) (hdouble : ¬ isDoubleDot s = true) :
    IsSegment (encodeWith pathSet s) := by
  have hset : encodeWith pathSet s = encodeWith segmentSet s :=
    encodeWith_congr fun c hc => by simp [segmentSet, hslash c hc]
  have hdot : pathSet '.' = false := by decide
  refine ⟨?_, Bool.eq_false_iff.2 (mt (isSingleDot_of_encodeWith hdot) hsingle),
    Bool.eq_false_iff.2 (mt (isDoubleDot_of_encodeWith hdot) hdouble)⟩
  rw [hset]
  exact isEncoded_encodeWith isEncodeSet_segmentSet s

theorem IsSegment.encodeWith_eq_self (h : IsSegment segment) :
    encodeWith pathSet segment = segment :=
  (h.encoded.mono fun _ hc => Bool.or_eq_true_iff.2 (Or.inl hc)).encodeWith_eq_self

theorem IsSegment.not_isSlash (h : IsSegment segment) : ∀ c ∈ segment, isSlash true c = false :=
  fun c hc => (Bool.or_eq_false_iff.1 (h.encoded c hc).1).2

/-! ### Trails -/

namespace Trail

theorem down_false (segment : List Char) (t : Trail) :
    t.down false segment = { t with segments := encodeWith pathSet segment :: t.segments } :=
  rfl

/-- The segments of the trail are such as are kept. -/
def IsKept (t : Trail) : Prop :=
  ∀ segment ∈ t.segments, IsSegment segment

theorem IsKept.enter {t : Trail} (h : t.IsKept) (hslash : ∀ c ∈ s, ¬ isSlash true c = true) :
    (t.enter false s).IsKept := by
  unfold Trail.enter
  split_ifs with hdouble hsingle
  · -- going up drops a segment, or nothing at all
    unfold Trail.up
    split
    · rename_i segment before hsegments
      split_ifs
      · exact h
      · intro other hother
        exact h other (hsegments ▸ List.mem_cons_of_mem segment hother)
    · exact h
  · exact h
  · rw [down_false]
    exact List.forall_mem_cons.2 ⟨isSegment_encodeWith hslash hsingle hdouble, h⟩

theorem IsKept.finish {t : Trail} (h : t.IsKept) (hslash : ∀ c ∈ s, ¬ isSlash true c = true) :
    (t.finish false s).IsKept ∧ (t.finish false s).segments ≠ [] := by
  unfold Trail.finish
  have henter := h.enter hslash
  dsimp only
  split_ifs with hdots
  · -- dots at the end leave an empty segment behind them
    exact ⟨List.forall_mem_cons.2 ⟨isSegment_nil, henter⟩, List.cons_ne_nil _ _⟩
  · rw [Bool.or_eq_true, not_or] at hdots
    refine ⟨henter, ?_⟩
    unfold Trail.enter
    rw [if_neg hdots.1, if_neg hdots.2, down_false]
    exact List.cons_ne_nil _ _

/-- Following segments keeps to such trails, and there is a segment at the end. -/
theorem IsKept.follow {t : Trail} (h : t.IsKept) {segments : List (List Char)} (hne : segments ≠ [])
    (hslash : ∀ segment ∈ segments, ∀ c ∈ segment, ¬ isSlash true c = true) :
    (follow false t segments).IsKept ∧ (follow false t segments).segments ≠ [] := by
  induction segments generalizing t with
  | nil => exact absurd rfl hne
  | cons segment rest ih =>
    obtain ⟨hsegment, hrest⟩ := List.forall_mem_cons.1 hslash
    cases rest with
    | nil => exact h.finish hsegment
    | cons next rest => exact ih (h.enter hsegment) (List.cons_ne_nil _ _) hrest

theorem enter_of_isSegment (h : IsSegment segment) (t : Trail) :
    t.enter false segment = { t with segments := segment :: t.segments } := by
  unfold Trail.enter
  rw [if_neg (by simp [h.double]), if_neg (by simp [h.single]), down_false, h.encodeWith_eq_self]

/-- A segment that is kept is followed as it is. -/
theorem segments_follow {segments : List (List Char)} (h : ∀ segment ∈ segments, IsSegment segment)
    (t : Trail) : (follow false t segments).segments = segments.reverse ++ t.segments := by
  induction segments generalizing t with
  | nil => rfl
  | cons segment rest ih =>
    obtain ⟨hsegment, hrest⟩ := List.forall_mem_cons.1 h
    rw [List.reverse_cons, List.append_assoc, List.singleton_append]
    cases rest with
    | nil =>
      -- The last segment is entered when the path ends, as it is no dot segment.
      have hdots : ¬ (isDoubleDot segment || isSingleDot segment) = true := by
        simp [hsegment.double, hsegment.single]
      show (t.finish false segment).segments = _
      unfold Trail.finish
      dsimp only
      rw [if_neg hdots, enter_of_isSegment hsegment]
      rfl
    | cons next rest =>
      show (follow false (t.enter false segment) (next :: rest)).segments = _
      rw [ih hrest, enter_of_isSegment hsegment]

end Trail

/-! ### Paths -/

/-- A path is read as segments that can be kept, and there is always one. -/
theorem isSegment_of_mem_readServedPath (s : List Char) :
    readServedPath true s ≠ [] ∧ ∀ segment ∈ readServedPath true s, IsSegment segment := by
  have htrail : ∀ s, (readTrail true false s).path ≠ [] ∧
      ∀ segment ∈ (readTrail true false s).path, IsSegment segment := by
    intro s
    have hempty : (⟨[], false⟩ : Trail).IsKept := fun _ h => nomatch h
    obtain ⟨hkept, hsome⟩ := hempty.follow (pieces_ne_nil (isSlash true) s)
      fun segment hsegment c hc => not_of_mem_pieces hsegment hc
    exact ⟨mt List.reverse_eq_nil_iff.1 hsome, fun segment hsegment =>
      hkept segment (List.mem_reverse.1 hsegment)⟩
  cases s with
  | nil => exact ⟨List.cons_ne_nil _ _, List.forall_mem_singleton.2 isSegment_nil⟩
  | cons c rest => exact htrail _

theorem renderPath_eq {path : List (List Char)} (hne : path ≠ []) :
    renderPath path = '/' :: joinWith ['/'] path := by
  induction path with
  | nil => exact absurd rfl hne
  | cons segment rest ih =>
    cases rest with
    | nil => simp [renderPath, joinWith]
    | cons next rest =>
      have hrest := ih (List.cons_ne_nil _ _)
      show '/' :: segment ++ renderPath (next :: rest) = _
      rw [hrest]
      simp [joinWith]

/-- A path that has been written is read back. -/
theorem readServedPath_renderPath {path : List (List Char)} (hne : path ≠ [])
    (h : ∀ segment ∈ path, IsSegment segment) : readServedPath true (renderPath path) = path := by
  have hpieces : pieces (isSlash true) (joinWith ['/'] path) = path :=
    pieces_joinWith (by decide) hne fun segment hsegment => (h segment hsegment).not_isSlash
  rw [renderPath_eq hne]
  show (readTrail true false (joinWith ['/'] path)).path = path
  unfold readTrail Trail.path
  rw [hpieces, Trail.segments_follow h, List.append_nil, List.reverse_reverse]

end Phrasebook.Url
