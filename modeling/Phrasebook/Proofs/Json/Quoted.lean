import Phrasebook.Json.Token
import Phrasebook.Proofs.Text.Decimal
import Mathlib.Tactic.Common

/-!
# Reading strings

What may stand between the quotes of a string has a grammar that does not speak of reading
(`Spells`): a character may stand for itself, behind a backslash, by its number, or by the two
halves of its surrogate pair.

* `Spells.untilQuote`: a string ends at the first quote behind it, as no spelling has a quote that
  is not escaped.
* `Spells.ofQuoted`: the spelling of a text is read as that text.
* `spells_escape`: what is written for a text is a spelling of it.

The reader cuts the spelling into pieces before it joins surrogates, so the law of reading goes over
the pieces (`Spells.exists_pieces`).
-/

namespace Phrasebook.Json

open Phrasebook.Text

/-! ### The grammar of strings -/

/-- The letters behind a backslash with the characters that they stand for. -/
def shortEscapes : List (Char × Char) :=
  [('"', '"'), ('\\', '\\'), ('/', '/'), ('b', '\x08'), ('f', '\x0c'), ('n', '\n'), ('r', '\r'),
    ('t', '\t')]

/-- `Spells raw s`: between the quotes of a string, `raw` stands for the text `s`. -/
inductive Spells : List Char → List Char → Prop
  | nil : Spells [] []
  | plain {c : Char} {raw s : List Char} (hquote : c ≠ '"') (hslash : c ≠ '\\')
      (hcontrol : 0x20 ≤ c.toNat) (h : Spells raw s) : Spells (c :: raw) (c :: s)
  | short {e c : Char} {raw s : List Char} (hescape : (e, c) ∈ shortEscapes) (h : Spells raw s) :
      Spells ('\\' :: e :: raw) (c :: s)
  | unit {a b c d u : Char} {raw s : List Char} (hvalue : hexNumber? [a, b, c, d] = some u.toNat)
      (h : Spells raw s) : Spells ('\\' :: 'u' :: a :: b :: c :: d :: raw) (u :: s)
  | pair {a b c d a' b' c' d' u : Char} {high low : ℕ} {raw s : List Char}
      (hhigh : hexNumber? [a, b, c, d] = some high) (hlow : hexNumber? [a', b', c', d'] = some low)
      (hhalves : 0xD800 ≤ high ∧ high < 0xDC00 ∧ 0xDC00 ≤ low ∧ low < 0xE000)
      (hvalue : u.toNat = 0x10000 + (high - 0xD800) * 0x400 + (low - 0xDC00)) (h : Spells raw s) :
      Spells ('\\' :: 'u' :: a :: b :: c :: d :: '\\' :: 'u' :: a' :: b' :: c' :: d' :: raw)
        (u :: s)

/-! ### Where a string ends -/

theorem untilQuote_quote (s : List Char) : untilQuote ('"' :: s) = some ([], s) := by
  cases s <;> rfl

theorem untilQuote_escape (e : Char) (s : List Char) :
    untilQuote ('\\' :: e :: s) =
      (untilQuote s).map fun (body, after) => ('\\' :: e :: body, after) := by
  rw [untilQuote]
  rfl

theorem untilQuote_cons {c : Char} (hquote : c ≠ '"') (hslash : c ≠ '\\') (s : List Char) :
    untilQuote (c :: s) = (untilQuote s).map fun (body, after) => (c :: body, after) := by
  cases s with
  | nil => simp [untilQuote, hquote]
  | cons d rest => simp [untilQuote, hquote, hslash]

/-- A run without quotes and backslashes belongs to the string. -/
theorem untilQuote_append {run s body after : List Char} (hrun : ∀ c ∈ run, c ≠ '"' ∧ c ≠ '\\')
    (h : untilQuote s = some (body, after)) :
    untilQuote (run ++ s) = some (run ++ body, after) := by
  induction run with
  | nil => exact h
  | cons c run ih =>
    obtain ⟨hquote, hslash⟩ := hrun c List.mem_cons_self
    have hrest := ih fun d hd => hrun d (List.mem_cons_of_mem c hd)
    rw [List.cons_append, untilQuote_cons hquote hslash, hrest]
    rfl

/-- A number is read from hexadecimal digits only. -/
theorem isSome_hexValue?_of_mem {ds : List Char} {n : ℕ} (h : hexNumber? ds = some n) {c : Char}
    (hc : c ∈ ds) : (hexValue? c).isSome := by
  -- the fold is lost as soon as one character has no value, whatever has been read before it
  have hfold : ∀ (ds : List Char) (value : Option ℕ),
      (ds.foldl (fun value d => do return 16 * (← value) + (← hexValue? d)) value).isSome →
        value.isSome ∧ ∀ d ∈ ds, (hexValue? d).isSome := by
    intro ds
    induction ds with
    | nil => simp
    | cons d ds ih =>
      intro value hvalue
      obtain ⟨hfirst, hrest⟩ := ih _ hvalue
      cases value with
      | none => exact absurd hfirst Bool.false_ne_true
      | some v =>
        cases hd : hexValue? d with
        | none =>
          dsimp only at hfirst
          rw [hd] at hfirst
          exact absurd hfirst Bool.false_ne_true
        | some x => exact ⟨rfl, List.forall_mem_cons.2 ⟨Option.isSome_of_eq_some hd, hrest⟩⟩
  exact (hfold ds (some 0) (Option.isSome_of_eq_some h)).2 c hc

/-- Hexadecimal digits are no quotes and no backslashes. -/
theorem ne_of_mem_of_hexNumber? {ds : List Char} {n : ℕ} (h : hexNumber? ds = some n) :
    ∀ c ∈ ds, c ≠ '"' ∧ c ≠ '\\' := by
  intro c hc
  have hvalue := isSome_hexValue?_of_mem h hc
  constructor <;> rintro rfl <;> exact absurd hvalue (by decide)

theorem untilQuote_unit {a b c d : Char} {n : ℕ} {s body after : List Char}
    (hvalue : hexNumber? [a, b, c, d] = some n) (h : untilQuote s = some (body, after)) :
    untilQuote ('\\' :: 'u' :: a :: b :: c :: d :: s) =
      some ('\\' :: 'u' :: a :: b :: c :: d :: body, after) := by
  have hdigits : untilQuote (a :: b :: c :: d :: s) = some (a :: b :: c :: d :: body, after) :=
    untilQuote_append (ne_of_mem_of_hexNumber? hvalue) h
  rw [untilQuote_escape, hdigits, Option.map_some]

/-- A string ends at the first quote behind the spelling of a text. -/
theorem Spells.untilQuote {raw s : List Char} (h : Spells raw s) (rest : List Char) :
    untilQuote (raw ++ '"' :: rest) = some (raw, rest) := by
  induction h with
  | nil => exact untilQuote_quote rest
  | plain hquote hslash _ _ ih =>
    rw [List.cons_append, untilQuote_cons hquote hslash, ih, Option.map_some]
  | short _ _ ih =>
    rw [List.cons_append, List.cons_append, untilQuote_escape, ih, Option.map_some]
  | unit hvalue _ ih => exact untilQuote_unit hvalue ih
  | pair hhigh hlow _ _ _ ih => exact untilQuote_unit hhigh (untilQuote_unit hlow ih)

/-! ### What a string says -/

theorem unescape?_of_mem_shortEscapes {e c : Char} (h : (e, c) ∈ shortEscapes) :
    unescape? e = some c := by
  have hall : ∀ pair ∈ shortEscapes, unescape? pair.1 = some pair.2 := by decide
  exact hall _ h

theorem pieces?_plain {c : Char} (hslash : c ≠ '\\') (hcontrol : 0x20 ≤ c.toNat)
    (s : List Char) : pieces? (c :: s) = (pieces? s).map (.char c :: ·) := by
  have hif : ¬ (c == '\\' || decide (c.toNat < 0x20)) = true := by
    simp [hslash, hcontrol]
  rw [pieces?, if_neg hif]
  all_goals simp [hslash]

theorem pieces?_short {e c : Char} (h : unescape? e = some c) (s : List Char) :
    pieces? ('\\' :: e :: s) = (pieces? s).map (.char c :: ·) := by
  have hu : e ≠ 'u' := by
    rintro rfl
    exact nomatch h
  rw [pieces?, h]
  · cases pieces? s <;> rfl
  · simp [hu]

theorem pieces?_unit {a b c d : Char} {n : ℕ} (h : hexNumber? [a, b, c, d] = some n)
    (s : List Char) :
    pieces? ('\\' :: 'u' :: a :: b :: c :: d :: s) = (pieces? s).map (.unit n :: ·) := by
  rw [pieces?, h]
  cases pieces? s <;> rfl

theorem joinPieces_unit {n : ℕ} (hhigh : isHighSurrogate n = false)
    (hlow : isLowSurrogate n = false) (rest : List Piece) :
    joinPieces (.unit n :: rest) = (joinPieces rest).map (Char.ofNat n :: ·) := by
  cases rest with
  | nil => simp [joinPieces, hhigh, hlow]
  | cons piece rest => cases piece <;> simp [joinPieces, hhigh, hlow]

/-- A character is no half of a surrogate pair. -/
theorem not_surrogate (c : Char) :
    isHighSurrogate c.toNat = false ∧ isLowSurrogate c.toNat = false := by
  have hvalid : c.toNat < 0xD800 ∨ 0xDFFF < c.toNat ∧ c.toNat < 0x110000 := c.valid
  simp only [isHighSurrogate, isLowSurrogate, Bool.and_eq_false_iff, decide_eq_false_iff_not]
  omega

/-- The spelling of a text is cut into pieces that are joined to the text. -/
theorem Spells.exists_pieces {raw s : List Char} (h : Spells raw s) :
    ∃ pieces, pieces? raw = some pieces ∧ joinPieces pieces = some s := by
  induction h with
  | nil => exact ⟨[], rfl, rfl⟩
  | @plain c _ _ _ hslash hcontrol _ ih =>
    obtain ⟨pieces, hpieces, hjoin⟩ := ih
    refine ⟨.char c :: pieces, ?_, ?_⟩
    · rw [pieces?_plain hslash hcontrol, hpieces, Option.map_some]
    · rw [joinPieces, hjoin, Option.map_some]
  | @short _ c _ _ hescape _ ih =>
    obtain ⟨pieces, hpieces, hjoin⟩ := ih
    refine ⟨.char c :: pieces, ?_, ?_⟩
    · rw [pieces?_short (unescape?_of_mem_shortEscapes hescape), hpieces, Option.map_some]
    · rw [joinPieces, hjoin, Option.map_some]
  | @unit _ _ _ _ u _ _ hvalue _ ih =>
    obtain ⟨pieces, hpieces, hjoin⟩ := ih
    refine ⟨.unit u.toNat :: pieces, ?_, ?_⟩
    · rw [pieces?_unit hvalue, hpieces, Option.map_some]
    · -- The code of a character is no half of a pair, so it is joined with nothing.
      obtain ⟨hhigh, hlow⟩ := not_surrogate u
      rw [joinPieces_unit hhigh hlow, hjoin, Option.map_some, Char.ofNat_toNat]
  | @pair _ _ _ _ _ _ _ _ u high low _ _ hhigh hlow hhalves hvalue _ ih =>
    obtain ⟨pieces, hpieces, hjoin⟩ := ih
    refine ⟨.unit high :: .unit low :: pieces, ?_, ?_⟩
    · rw [pieces?_unit hhigh, pieces?_unit hlow, hpieces, Option.map_some, Option.map_some]
    · -- The two halves follow each other, so they are joined.
      have hishigh : isHighSurrogate high = true := by
        simp only [isHighSurrogate, Bool.and_eq_true, decide_eq_true_eq]
        omega
      have hislow : isLowSurrogate low = true := by
        simp only [isLowSurrogate, Bool.and_eq_true, decide_eq_true_eq]
        omega
      rw [joinPieces, if_pos hishigh, if_pos hislow, hjoin, Option.map_some, ← hvalue,
        Char.ofNat_toNat]

/-- The spelling of a text is read as that text. -/
theorem Spells.ofQuoted {raw s : List Char} (h : Spells raw s) :
    ofQuoted? raw = some (.text s) := by
  obtain ⟨pieces, hpieces, hjoin⟩ := h.exists_pieces
  rw [ofQuoted?, hpieces, Option.map_some, hjoin]
  rfl

/-! ### What is written -/

/-- A control character is written by its number. -/
theorem hexNumber?_control : ∀ n < 0x20,
    hexNumber? ['0', '0', hexChar (n / 16), hexChar (n % 16)] = some n := by decide

theorem Spells.escape_append {raw s : List Char} (h : Spells raw s) (c : Char) :
    Spells (escape c ++ raw) (c :: s) := by
  unfold escape
  -- the characters with an escape of one letter, the other control characters, and all others
  split_ifs with hquote hslash hfeed hreturn htab hback hform hcontrol
  · subst hquote
    exact .short (by decide) h
  · subst hslash
    exact .short (by decide) h
  · subst hfeed
    exact .short (by decide) h
  · subst hreturn
    exact .short (by decide) h
  · subst htab
    exact .short (by decide) h
  · obtain rfl : c = '\x08' := Char.toNat_inj.1 hback
    exact .short (by decide) h
  · obtain rfl : c = '\x0c' := Char.toNat_inj.1 hform
    exact .short (by decide) h
  · exact .unit (hexNumber?_control c.toNat hcontrol) h
  · exact .plain hquote hslash (Nat.le_of_not_lt hcontrol) h

/-- What is written for a text between the quotes stands for it. -/
theorem spells_escape (s : List Char) : Spells (s.flatMap escape) s := by
  induction s with
  | nil => exact .nil
  | cons c s ih => exact ih.escape_append c

end Phrasebook.Json
