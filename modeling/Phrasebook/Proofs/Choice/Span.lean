import Phrasebook.Choice.Span
import Phrasebook.Proofs.Choice.Marker
import Phrasebook.Proofs.Text.Utf8

/-!
# Markers found by places

Reading a choice string by places makes cuts all the time, each of which could fail: behind the end
of the text, or within a character.  None does.  The places that are computed are the numbers of
bytes of parts of the text, and a text can be cut where a part of it ends (`cutAt_append`).  The
leading bytes that are digits are the bytes of the leading digits, as all bytes of longer characters
are greater than those of digits (`leadingDigits_eq`).

* `exactAt_append`, `intervalAt_append`: scanning at a place is reading what stands there.
* `findSomeM?_placesFrom`: so trying one place after the other finds the leftmost marker.
* `rulesByPlace_eq`: and the rules that are read by places are those of the choice string.
* `spans_valid` says of the spans of markers that they are valid.
-/

namespace Phrasebook.Choice

open Phrasebook.Text

/-! ### Cuts -/

@[simp] theorem utf8Length_append (s t : List Char) :
    utf8Length (s ++ t) = utf8Length s + utf8Length t := by
  induction s with
  | nil => simp [utf8Length]
  | cons c s ih => simp [utf8Length, ih, Nat.add_assoc]

@[simp] theorem utf8Length_nil : utf8Length [] = 0 :=
  rfl

@[simp] theorem utf8Length_cons (c : Char) (s : List Char) :
    utf8Length (c :: s) = c.utf8Size + utf8Length s :=
  rfl

theorem utf8Length_eq_zero_iff {s : List Char} : utf8Length s = 0 ↔ s = [] := by
  cases s with
  | nil => simp
  | cons c s =>
    have hc := c.utf8Size_pos
    simp only [utf8Length_cons, reduceCtorEq, iff_false]
    omega

theorem length_encode (s : List Char) : (Utf8.encode s).length = utf8Length s := by
  induction s with
  | nil => rfl
  | cons c s ih =>
    rw [utf8Length_cons, ← ih, ← String.length_utf8EncodeChar, ← List.length_append]
    rfl

/-- A text can be cut between two characters. -/
theorem cutAt_append (before after : List Char) :
    cutAt (utf8Length before) (before ++ after) = .ok (before, after) := by
  induction before with
  | nil => cases after <;> rfl
  | cons c before ih =>
    -- A cut goes over the characters, and takes the bytes of each off the place.
    obtain ⟨n, hn⟩ : ∃ n, utf8Length (c :: before) = n + 1 := by
      have hc := c.utf8Size_pos
      exact ⟨utf8Length (c :: before) - 1, by rw [utf8Length_cons]; omega⟩
    have hfits : c.utf8Size ≤ n + 1 := by
      rw [← hn, utf8Length_cons]
      omega
    have hrest : n + 1 - c.utf8Size = utf8Length before := by
      rw [← hn, utf8Length_cons]
      omega
    rw [hn, List.cons_append, cutAt, if_pos hfits, hrest, ih]
    rfl

theorem upTo_append (before after : List Char) :
    upTo (utf8Length before) (before ++ after) = .ok before := by
  rw [upTo, cutAt_append]
  rfl

theorem onFrom_append (before after : List Char) :
    onFrom (utf8Length before) (before ++ after) = .ok after := by
  rw [onFrom, cutAt_append]
  rfl

/-- A place behind a character of one byte. -/
theorem onFrom_append_cons {c : Char} (hc : c.utf8Size = 1) (before after : List Char) :
    onFrom (utf8Length before + 1) (before ++ c :: after) = .ok after := by
  have hcut := onFrom_append (before ++ [c]) after
  simpa [hc] using hcut

/-! ### Digits -/

/-- A digit is written as one byte, and that is a digit. -/
theorem utf8EncodeChar_of_isDigit {d : Char} (h : isDigit d) :
    ∃ b, String.utf8EncodeChar d = [b] ∧ b.toNat = d.toNat ∧ isDigitByte b := by
  have hd := isDigit_iff.1 h
  have hbyte : (UInt8.ofNat d.toNat).toNat = d.toNat := by
    rw [UInt8.toNat_ofNat']
    omega
  refine ⟨UInt8.ofNat d.toNat, ?_, hbyte, ?_⟩
  · rw [← Utf8.utf8EncodeChar_ofNat (by omega), Char.ofNat_toNat]
  · simp [isDigitByte, hbyte, hd]

/-- Any other character begins with a byte that is no digit, as the bytes of longer characters are
all greater. -/
theorem utf8EncodeChar_of_not_isDigit {c : Char} (h : ¬ isDigit c) :
    ∃ b rest, String.utf8EncodeChar c = b :: rest ∧ ¬ isDigitByte b := by
  have hc : ¬ (0x30 ≤ c.toNat ∧ c.toNat ≤ 0x39) := fun hrange => h (isDigit_iff.2 hrange)
  have hvalid := Utf8.toNat_valid c
  have hbyte : ∀ n, n < 256 → ¬ (0x30 ≤ n ∧ n ≤ 0x39) → ¬ isDigitByte (UInt8.ofNat n) := by
    intro n hn hrange
    have hn' : (UInt8.ofNat n).toNat = n := by
      rw [UInt8.toNat_ofNat']
      omega
    simpa [isDigitByte, hn'] using hrange
  rcases Utf8.utf8EncodeChar_cases c with ⟨hone, heq⟩ | ⟨htwo, heq⟩ | ⟨hthree, heq⟩ | ⟨hfour, heq⟩
  · exact ⟨_, _, heq, hbyte _ (by omega) hc⟩
  all_goals exact ⟨_, _, heq, hbyte _ (by omega) (by omega)⟩

theorem encode_cons (c : Char) (s : List Char) :
    Utf8.encode (c :: s) = String.utf8EncodeChar c ++ Utf8.encode s :=
  rfl

/-- The leading bytes that are digits are those of the leading characters that are digits. -/
theorem leadingDigits_eq (s : List Char) : leadingDigits s = utf8Length (s.takeWhile isDigit) := by
  unfold leadingDigits
  induction s with
  | nil => rfl
  | cons c s ih =>
    rw [encode_cons]
    by_cases hc : isDigit c
    · -- A digit has one byte, which is a digit; the first byte of any other character is none.
      obtain ⟨b, hb, -, hdigit⟩ := utf8EncodeChar_of_isDigit hc
      have hsize : c.utf8Size = 1 := by
        rw [← String.length_utf8EncodeChar, hb]
        rfl
      rw [hb, List.takeWhile_cons_of_pos hc, utf8Length_cons, ← ih, hsize]
      simp [hdigit, Nat.add_comm]
    · obtain ⟨b, rest, hb, hdigit⟩ := utf8EncodeChar_of_not_isDigit hc
      rw [hb, List.takeWhile_cons_of_neg hc]
      simp [hdigit]

theorem leadingDigits_eq_zero_iff {s : List Char} :
    leadingDigits s = 0 ↔ s.takeWhile isDigit = [] := by
  rw [leadingDigits_eq, utf8Length_eq_zero_iff]

theorem upTo_leadingDigits (s : List Char) :
    upTo (leadingDigits s) s = .ok (s.takeWhile isDigit) := by
  have hcut := upTo_append (s.takeWhile isDigit) (s.dropWhile isDigit)
  rwa [List.takeWhile_append_dropWhile, ← leadingDigits_eq] at hcut

theorem onFrom_leadingDigits (s : List Char) :
    onFrom (leadingDigits s) s = .ok (s.dropWhile isDigit) := by
  have hcut := onFrom_append (s.takeWhile isDigit) (s.dropWhile isDigit)
  rwa [List.takeWhile_append_dropWhile, ← leadingDigits_eq] at hcut

theorem foldlM_pushByte {ds : List Char} (h : ∀ d ∈ ds, isDigit d) (value : ℕ) :
    (Utf8.encode ds).foldlM pushByte value = .ok (ds.foldl pushDigit value) := by
  induction ds generalizing value with
  | nil => rfl
  | cons d ds ih =>
    obtain ⟨hd, hds⟩ := List.forall_mem_cons.1 h
    obtain ⟨b, hb, hvalue, hdigit⟩ := utf8EncodeChar_of_isDigit hd
    have hpush : pushByte value b = .ok (pushDigit value d) := by
      have hlow : 0x30 ≤ b.toNat := by
        simp only [isDigitByte, Bool.and_eq_true, decide_eq_true_eq] at hdigit
        exact hdigit.1
      rw [pushByte, distance, if_pos hlow, hvalue]
      rfl
    rw [encode_cons, hb, List.singleton_append, List.foldlM_cons, hpush]
    exact ih hds _

/-- A run of digits has its value. -/
theorem bytesValue_takeWhile (s : List Char) :
    bytesValue (s.takeWhile isDigit) = .ok (saturated (s.takeWhile isDigit)) :=
  foldlM_pushByte (fun _ hd => List.mem_takeWhile_imp hd) 0

/-! ### Markers at a place -/

/-- A marker that is read behind a text. -/
def Reading.behind (before : List Char) (r : Reading) : Sighting :=
  ⟨r.marker, before, r.token, r.after⟩

/-- The places of a marker, and what it says. -/
def Sighting.located (x : Sighting) : Span × Marker :=
  (⟨x.start, x.stop⟩, x.marker)

theorem exactAt_append (before body : List Char) :
    exactAt (before ++ '{' :: body) (utf8Length before) =
      .ok ((readExact ('{' :: body)).map fun r => (r.behind before).located) := by
  have hbody : onFrom (utf8Length before + 1) (before ++ '{' :: body) = .ok body :=
    onFrom_append_cons rfl before body
  unfold exactAt
  simp only [hbody, onFrom_leadingDigits, upTo_leadingDigits, bytesValue_takeWhile,
    leadingDigits_eq_zero_iff, bind, Except.bind, pure, Except.pure]
  rw [readExact]
  -- Behind the brace stand some digits or none, and behind these the other brace or not.
  cases htake : body.takeWhile isDigit with
  | nil => simp
  | cons d ds =>
    rw [if_neg (List.cons_ne_nil d ds)]
    have hlen : leadingDigits body = utf8Length (d :: ds) := by
      rw [leadingDigits_eq, htake]
    split
    · rename_i after hdrop
      have hsize : '{'.utf8Size = 1 ∧ '}'.utf8Size = 1 := ⟨rfl, rfl⟩
      simp [hdrop, hlen, Reading.behind, Sighting.located, Sighting.start, Sighting.stop, hsize]
      omega
    · rename_i hdrop
      split
      · rename_i hdrop'
        exact absurd hdrop' (hdrop _)
      · rfl

theorem upperAt_eq (s : List Char) :
    upperAt s = .ok ((readUpper s).map fun r => (r.1, r.2.2)) := by
  unfold upperAt readUpper
  split
  · rfl
  · simp only [onFrom_leadingDigits, upTo_leadingDigits, bytesValue_takeWhile,
      leadingDigits_eq_zero_iff, bind, Except.bind, pure, Except.pure]
    cases htake : s.takeWhile isDigit with
    | nil => simp
    | cons d ds => simp

/-- A marker that has been read ends where what follows it begins. -/
theorem distance_after {read : List Char → Option Reading} {P : Marker → List Char → Prop}
    (hP : Recognizes read P) (before : List Char) {s : List Char} {r : Reading}
    (h : read s = some r) :
    distance (utf8Length r.after) (utf8Length (before ++ s)) = .ok (r.behind before).stop := by
  have hs := (hP.read_iff.1 h).2
  have hlength : utf8Length (before ++ s) =
      utf8Length before + utf8Length r.token + utf8Length r.after := by
    rw [hs, utf8Length_append, utf8Length_append, Nat.add_assoc]
  rw [distance, if_pos (by omega), hlength, Nat.add_sub_cancel]
  rfl

theorem intervalAt_append (before body : List Char) :
    intervalAt (before ++ '[' :: body) (utf8Length before) =
      .ok ((readInterval ('[' :: body)).map fun r => (r.behind before).located) := by
  have hbody : onFrom (utf8Length before + 1) (before ++ '[' :: body) = .ok body :=
    onFrom_append_cons rfl before body
  unfold intervalAt
  simp only [hbody, onFrom_leadingDigits, upTo_leadingDigits, bytesValue_takeWhile, upperAt_eq,
    leadingDigits_eq_zero_iff, bind, Except.bind, pure, Except.pure]
  -- The cases are those of the reader: no digits, no comma behind them, no upper end or bracket, or
  -- an interval.
  cases htake : body.takeWhile isDigit with
  | nil => simp [readInterval, htake]
  | cons d ds =>
    rw [if_neg (List.cons_ne_nil d ds)]
    split
    · rename_i rest hdrop
      split
      · -- the upper end is read, and the bracket follows it
        rename_i _ after hfound
        obtain ⟨⟨high, upper, _⟩, hupper, heq⟩ := Option.map_eq_some_iff.1 hfound
        obtain ⟨rfl, rfl⟩ := Prod.mk.inj heq
        rw [trimStart] at hupper
        have hread : readInterval ('[' :: body) = some ⟨.interval (saturated (d :: ds)) high,
            '[' :: (d :: ds) ++ ',' :: rest.takeWhile isBlank ++ upper ++ [']'], after⟩ := by
          simp only [readInterval, htake, hdrop, hupper]
        have hstop := distance_after recognizes_readInterval before hread
        dsimp only at hstop
        rw [hstop, hread]
        rfl
      · rename_i hfound
        have hread : readInterval ('[' :: body) = none := by
          simp only [readInterval, htake, hdrop]
          split
          · rename_i high upper after hupper
            exact absurd (by rw [trimStart, hupper]; rfl) (hfound high after)
          · rfl
        rw [hread]
        rfl
    · rename_i hdrop
      have hread : readInterval ('[' :: body) = none := by
        rw [readInterval, htake]
        split
        · rename_i hdrop'
          exact absurd hdrop' (hdrop _)
        · rfl
      rw [hread]
      rfl

/-! ### The leftmost marker -/

/-- Trying the places of the character that markers begin with, in order, finds the leftmost marker
with its places. -/
theorem findSomeM?_placesFrom {scan : List Char → ℕ → Except PlaceFault (Option (Span × Marker))}
    {read : List Char → Option Reading} {opening : Char}
    (hscan : ∀ before body, scan (before ++ opening :: body) (utf8Length before) =
      .ok ((read (opening :: body)).map fun r => (r.behind before).located))
    (hread : ∀ c s, c ≠ opening → read (c :: s) = none) (before s : List Char) :
    (placesFrom opening (utf8Length before) s).findSomeM? (scan (before ++ s)) =
      .ok ((findFirst read s).map fun x => (x.prepend before).located) := by
  induction s generalizing before with
  | nil => rfl
  | cons c s ih =>
    -- what stands behind `c` is found with one more character in front
    have hnext : (placesFrom opening (utf8Length before + c.utf8Size) s).findSomeM?
        (scan (before ++ c :: s)) =
          .ok ((findFirst read s).map fun x => (x.prepend (before ++ [c])).located) := by
      have happend := ih (before ++ [c])
      simpa using happend
    have hrest : ∀ x : Sighting, x.prepend (before ++ [c]) =
        Sighting.prepend before { x with before := c :: x.before } := by
      intro x
      simp [Sighting.prepend]
    simp only [hrest] at hnext
    rw [placesFrom, findFirst]
    split_ifs with hc
    · subst hc
      rw [List.findSomeM?_cons, hscan]
      cases hfound : read (c :: s) with
      | none =>
        dsimp only
        rw [Option.map_map]
        exact hnext
      | some r =>
        have hhere : (⟨r.marker, [], r.token, r.after⟩ : Sighting).prepend before =
            r.behind before := by
          simp [Sighting.prepend, Reading.behind]
        dsimp only
        rw [Option.map_some, Option.map_some, hhere]
        rfl
    · rw [hread c s hc, Option.map_map]
      exact hnext

theorem exactSpan_eq (segment : List Char) :
    exactSpan segment = .ok ((findExact segment).map Sighting.located) :=
  findSomeM?_placesFrom exactAt_append (fun _ s hc => readExact_cons s hc) [] segment

theorem intervalSpan_eq (segment : List Char) :
    intervalSpan segment = .ok ((findInterval segment).map Sighting.located) :=
  findSomeM?_placesFrom intervalAt_append (fun _ s hc => readInterval_cons s hc) [] segment

theorem markerSpan_eq (segment : List Char) :
    markerSpan segment = .ok ((findMarker segment).map Sighting.located) := by
  rw [markerSpan, exactSpan_eq, findMarker]
  cases findExact segment with
  | some x => rfl
  | none => exact intervalSpan_eq segment

/-! ### Reading rules by places -/

/-- Cutting a marker out leaves what stands around it. -/
theorem withoutSpan_located {segment : List Char} (x : Sighting)
    (h : segment = x.before ++ x.token ++ x.after) :
    withoutSpan segment x.located.1 = .ok x.phrase := by
  have hcut : cutAt x.located.1.start segment = .ok (x.before, x.token ++ x.after) := by
    rw [h, List.append_assoc]
    exact cutAt_append _ _
  -- What is cut out is the token, as the span is as long.
  have hlength : x.located.1.length = utf8Length x.token := by
    show x.start + utf8Length x.token - x.start = _
    rw [Nat.add_sub_cancel_left]
  have hrest : onFrom x.located.1.length (x.token ++ x.after) = .ok x.after := by
    rw [hlength]
    exact onFrom_append _ _
  rw [withoutSpan, hcut]
  show (onFrom x.located.1.length (x.token ++ x.after) >>= fun after => _) = _
  rw [hrest]
  rfl

theorem eq_of_findMarker {segment : List Char} {x : Sighting} (h : findMarker segment = some x) :
    segment = x.before ++ x.token ++ x.after := by
  rcases Option.or_eq_some_iff.1 h with hexact | ⟨-, hinterval⟩
  · exact (leftmost_of_findFirst recognizes_readExact hexact).eq
  · exact (leftmost_of_findFirst recognizes_readInterval hinterval).eq

theorem variantByPlace_eq (segment : List Char) :
    variantByPlace segment = .ok (Variant.ofSegment segment) := by
  rw [variantByPlace, markerSpan_eq, Variant.ofSegment]
  cases hfound : findMarker segment with
  | none => rfl
  | some x =>
    show (withoutSpan segment x.located.1 >>= fun phrase => _) = _
    rw [withoutSpan_located x (eq_of_findMarker hfound)]
    rfl

/-- No cut fails, and the rules are those of the choice string. -/
theorem rulesByPlace_eq (text : String) : rulesByPlace text = .ok (parseRules text) := by
  have hvariants : variantByPlace = fun segment => pure (Variant.ofSegment segment) :=
    funext variantByPlace_eq
  rw [rulesByPlace, hvariants, List.mapM_pure]
  rfl

/-! ### Valid spans -/

/-- `span.Covers segment token`: the span is a part of the segment that begins and ends between
characters, and its bytes are those of the token. -/
structure Span.Covers (span : Span) (segment token : List Char) : Prop where
  start_lt_stop : span.start < span.stop
  stop_le : span.stop ≤ (Utf8.encode segment).length
  isValid_start : (⟨span.start⟩ : String.Pos.Raw).IsValid (String.ofList segment)
  isValid_stop : (⟨span.stop⟩ : String.Pos.Raw).IsValid (String.ofList segment)
  bytes : ((Utf8.encode segment).drop span.start).take span.length = Utf8.encode token

theorem utf8Length_eq_utf8ByteSize (s : List Char) :
    utf8Length s = (String.ofList s).utf8ByteSize := by
  rw [← length_encode]
  show _ = (Utf8.encode s).toByteArray.size
  exact List.size_toByteArray.symm

/-- The place between two parts of a text is one between characters. -/
theorem isValid_utf8Length (before after : List Char) :
    (⟨utf8Length before⟩ : String.Pos.Raw).IsValid (String.ofList (before ++ after)) := by
  refine String.Pos.Raw.isValid_iff_exists_append.2 ⟨.ofList before, .ofList after, ?_, ?_⟩
  · exact String.ofList_append
  · rw [utf8Length_eq_utf8ByteSize]
    rfl

theorem covers_located {segment : List Char} (x : Sighting)
    (h : segment = x.before ++ x.token ++ x.after) (hne : x.token ≠ []) :
    x.located.1.Covers segment x.token := by
  have hpos : 0 < utf8Length x.token :=
    Nat.pos_of_ne_zero fun hzero => hne (utf8Length_eq_zero_iff.1 hzero)
  have hstop : x.stop = utf8Length (x.before ++ x.token) := (utf8Length_append _ _).symm
  -- A token that is not empty has bytes, and the place behind it is that of a part of the segment.
  constructor
  · show x.start < x.start + utf8Length x.token
    omega
  · show x.stop ≤ _
    rw [length_encode, hstop, h, utf8Length_append _ x.after]
    exact Nat.le_add_right _ _
  · rw [h, List.append_assoc]
    exact isValid_utf8Length _ _
  · show (⟨x.stop⟩ : String.Pos.Raw).IsValid _
    rw [hstop, h]
    exact isValid_utf8Length _ _
  · have hlength : x.located.1.length = (Utf8.encode x.token).length := by
      show x.start + utf8Length x.token - x.start = _
      rw [Nat.add_sub_cancel_left, length_encode]
    have hstart : x.located.1.start = (Utf8.encode x.before).length := (length_encode _).symm
    have hencode : Utf8.encode segment =
        Utf8.encode x.before ++ (Utf8.encode x.token ++ Utf8.encode x.after) := by
      rw [h]
      simp [Utf8.encode]
    rw [hencode, hstart, hlength, List.drop_left, List.take_left]

theorem covers_of_exactSpan {segment : List Char} {span : Span} {marker : Marker}
    (h : exactSpan segment = .ok (some (span, marker))) :
    ∃ ds, IsNumeral ds ∧ span.Covers segment ('{' :: ds ++ ['}']) ∧
      ∃ phrase, withoutSpan segment span = .ok phrase := by
  rw [exactSpan_eq] at h
  obtain ⟨x, hfound, hlocated⟩ := Option.map_eq_some_iff.1 (Except.ok.inj h)
  have hleft := leftmost_of_findFirst recognizes_readExact hfound
  have hcovers := covers_located x hleft.eq (recognizes_readExact.ne_nil hleft.isToken)
  have hcut := withoutSpan_located x hleft.eq
  rw [hlocated] at hcovers hcut
  have htoken := hleft.isToken
  generalize x.token = token at hcovers htoken
  generalize x.marker = m at htoken
  cases htoken with
  | intro numeral => exact ⟨_, numeral, hcovers, _, hcut⟩

theorem covers_of_intervalSpan {segment : List Char} {span : Span} {marker : Marker}
    (h : intervalSpan segment = .ok (some (span, marker))) :
    ∃ ds blanks upper, IsNumeral ds ∧ (∀ c ∈ blanks, isBlank c) ∧
      (upper = ['*'] ∨ IsNumeral upper) ∧
      span.Covers segment ('[' :: ds ++ ',' :: blanks ++ upper ++ [']']) ∧
      ∃ phrase, withoutSpan segment span = .ok phrase := by
  rw [intervalSpan_eq] at h
  obtain ⟨x, hfound, hlocated⟩ := Option.map_eq_some_iff.1 (Except.ok.inj h)
  have hleft := leftmost_of_findFirst recognizes_readInterval hfound
  have hcovers := covers_located x hleft.eq (recognizes_readInterval.ne_nil hleft.isToken)
  have hcut := withoutSpan_located x hleft.eq
  rw [hlocated] at hcovers hcut
  -- What is covered is the token, whatever it is, so its form can be taken apart.
  have htoken := hleft.isToken
  generalize x.token = token at hcovers htoken
  generalize x.marker = m at htoken
  cases htoken with
  | intro numeral blank hupper =>
    refine ⟨_, _, _, numeral, blank, ?_, hcovers, _, hcut⟩
    cases hupper with
    | star => exact Or.inl rfl
    | numeral hds => exact Or.inr hds

/-- **Spans of markers are valid, and reading a choice string by places never fails.**  The searches
by places find the markers that are read character by character.  The span of a marker is not empty,
lies within the text, begins and ends between characters and has the bytes of a marker.  All cuts
succeed, and the rules are those of the choice string. -/
theorem spans_valid :
    (∀ segment : List Char,
      exactSpan segment = .ok ((findExact segment).map Sighting.located) ∧
      intervalSpan segment = .ok ((findInterval segment).map Sighting.located)) ∧
    (∀ (segment : List Char) (span : Span) (marker : Marker),
      exactSpan segment = .ok (some (span, marker)) →
        ∃ ds, IsNumeral ds ∧ span.Covers segment ('{' :: ds ++ ['}']) ∧
          ∃ phrase, withoutSpan segment span = .ok phrase) ∧
    (∀ (segment : List Char) (span : Span) (marker : Marker),
      intervalSpan segment = .ok (some (span, marker)) →
        ∃ ds blanks upper, IsNumeral ds ∧ (∀ c ∈ blanks, isBlank c) ∧
          (upper = ['*'] ∨ IsNumeral upper) ∧
          span.Covers segment ('[' :: ds ++ ',' :: blanks ++ upper ++ [']']) ∧
          ∃ phrase, withoutSpan segment span = .ok phrase) ∧
    ∀ text : String, rulesByPlace text = .ok (parseRules text) :=
  ⟨fun segment => ⟨exactSpan_eq segment, intervalSpan_eq segment⟩,
    fun _ _ _ h => covers_of_exactSpan h, fun _ _ _ h => covers_of_intervalSpan h, rulesByPlace_eq⟩

/-- An interval whose white space takes three bytes, between characters of more than one byte. -/
theorem spans_valid_ideographic :
    intervalSpan "é[2,\u3000*]à".toList = .ok (some (⟨2, 10⟩, .interval 2 .unbounded)) ∧
    (∃ token, (⟨2, 10⟩ : Span).Covers "é[2,\u3000*]à".toList token) ∧
    rulesByPlace "é[2,\u3000*]à" = .ok (parseRules "é[2,\u3000*]à") := by
  obtain ⟨-, -, hinterval, hrules⟩ := spans_valid
  have hspan : intervalSpan "é[2,\u3000*]à".toList =
      .ok (some (⟨2, 10⟩, .interval 2 .unbounded)) := by decide +kernel
  obtain ⟨_, _, _, -, -, -, hcovers, -⟩ := hinterval _ _ _ hspan
  exact ⟨hspan, ⟨_, hcovers⟩, hrules _⟩

end Phrasebook.Choice
