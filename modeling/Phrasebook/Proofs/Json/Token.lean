import Phrasebook.Proofs.Json.Quoted
import Phrasebook.Proofs.Text.Split
import Mathlib.Data.List.Chain

/-!
# Reading written tokens

A JSON text has its tokens in order, with any white space around them.  `WrittenAs` says how a
token may be written and `Spaced` how a text may be laid out, both without speaking of reading.

* `reads_of_writtenAs`: a token that is written is read, and what follows it is left.
* `tokens_of_spaced`: a text that is laid out has the tokens from which it is made.
* `spaced_render`: tokens that are written one after the other are laid out without white space.

A number has no mark at its end, so it is told from what follows it only if this cannot go on with
the number.  That is so for the tokens of a document, where a number has a mark behind it
(`MayPrecede`).
-/

namespace Phrasebook

open Phrasebook.Text

/-- An integer whose digits fit a word of 64 bits, with or without a sign. -/
structure Numeral.IsWord (n : Numeral) : Prop where
  whole : n.whole = true
  exponent : n.exponent = 0
  bound : n.mantissa < UInt64.size

theorem Numeral.IsWord.not_overflows {n : Numeral} (h : n.IsWord) : n.overflows = false := by
  have hleading : Numeral.leading n.mantissa = (n.mantissa, 0) := by
    rw [Numeral.leading, if_pos h.bound]
  unfold Numeral.overflows
  rw [hleading, h.exponent]
  simp

namespace Json

/-! ### The grammar of tokens -/

/-- `t.WrittenAs word`: the token may be written as `word`.  Only integers are considered of all
numbers. -/
inductive Token.WrittenAs : Token → List Char → Prop
  | openBrace : WrittenAs .openBrace ['{']
  | closeBrace : WrittenAs .closeBrace ['}']
  | openBracket : WrittenAs .openBracket ['[']
  | closeBracket : WrittenAs .closeBracket [']']
  | colon : WrittenAs .colon [':']
  | comma : WrittenAs .comma [',']
  | null : WrittenAs .null "null".toList
  | bool (b : Bool) : WrittenAs (.bool b) (if b then "true".toList else "false".toList)
  | number {n : Numeral} (h : n.IsWord) :
      WrittenAs (.number n) ((if n.negative then ['-'] else []) ++ decimal n.mantissa)
  | text {raw s : List Char} (h : Spells raw s) : WrittenAs (.text s) ('"' :: raw ++ ['"'])

/-- `Spaced ts s`: the text has these tokens in order, with any white space before each of them and
at its end. -/
inductive Spaced : List Token → List Char → Prop
  | nil {gap : List Char} (hgap : ∀ c ∈ gap, isSpace c = true) : Spaced [] gap
  | cons {t : Token} {ts : List Token} {gap word s : List Char}
      (hgap : ∀ c ∈ gap, isSpace c = true) (hword : t.WrittenAs word) (h : Spaced ts s) :
      Spaced (t :: ts) (gap ++ (word ++ s))

/-- Whether a token is one of the marks between values. -/
def Token.isMark : Token → Bool
  | .closeBrace | .closeBracket | .colon | .comma => true
  | _ => false

/-- A token may follow another one immediately: only marks follow numbers. -/
def Token.MayPrecede (t u : Token) : Prop :=
  ∀ n, t = .number n → u.isMark = true

/-! ### Numbers -/

/-- A text that does not go on with a number. -/
def EndsNumber (s : List Char) : Prop :=
  ∀ c ∈ s.head?, isDigit c = false ∧ c ≠ '.' ∧ c ≠ 'e' ∧ c ≠ 'E'

/-- A number above zero does not begin with a zero. -/
theorem head?_decimal {n : ℕ} (h : (decimal n).head? = some '0') : n = 0 := by
  induction n using decimal.induct with
  | case1 n hn =>
    rw [decimal, dif_pos hn] at h
    have hall : ∀ m < 10, digitChar m = '0' → m = 0 := by decide
    exact hall n hn (Option.some.inj h)
  | case2 n hn ih =>
    rw [decimal, dif_neg hn, List.head?_append, Option.or_of_isSome] at h
    · have := ih h
      omega
    · rw [List.isSome_head?]
      exact decimal_ne_nil _

/-- The digits of a number end where a text follows that does not go on with it. -/
theorem span_decimal {rest : List Char} (h : EndsNumber rest) (n : ℕ) :
    (decimal n ++ rest).takeWhile isDigit = decimal n ∧
      (decimal n ++ rest).dropWhile isDigit = rest := by
  have hdigits : ∀ d ∈ decimal n, isDigit d = true := fun _ hd => isDigit_of_mem_decimal hd
  cases rest with
  | nil =>
    rw [List.append_nil, List.takeWhile_eq_self_iff, List.dropWhile_eq_nil_iff]
    exact ⟨hdigits, hdigits⟩
  | cons c rest =>
    have hc : ¬ isDigit c = true := by simp [(h c rfl).1]
    exact ⟨takeWhile_span hdigits hc, dropWhile_span hdigits hc⟩

theorem readFraction_of_endsNumber {rest : List Char} (h : EndsNumber rest) :
    readFraction rest = some ([], rest) := by
  unfold readFraction
  split
  · exact absurd rfl (h '.' rfl).2.1
  · rfl

theorem readExponent_of_endsNumber {rest : List Char} (h : EndsNumber rest) :
    readExponent rest = some (none, rest) := by
  unfold readExponent
  split
  · rfl
  · rename_i c cs
    obtain ⟨-, -, hlower, hupper⟩ := h c rfl
    have hif : ¬ (c == 'e' || c == 'E') = true := by simp [hlower, hupper]
    rw [if_neg hif]

theorem readUnsigned_decimal {rest : List Char} (h : EndsNumber rest) (negative : Bool) (n : ℕ) :
    readUnsigned negative (decimal n ++ rest) = some (⟨negative, n, 0, true⟩, rest) := by
  obtain ⟨htake, hdrop⟩ := span_decimal h n
  have hzero : ((decimal n).head? == some '0' && (decimal n).length != 1) = false := by
    by_cases hhead : (decimal n).head? = some '0'
    · rw [head?_decimal hhead]
      decide +kernel
    · simp [hhead]
  have hempty : (decimal n).isEmpty = false := by simp [decimal_ne_nil]
  unfold readUnsigned
  simp only [htake, hdrop, hempty, hzero, readFraction_of_endsNumber h]
  simp [readExponent_of_endsNumber h, digitsValue_decimal]

/-- The digits of a number begin with a digit. -/
theorem exists_decimal_eq_cons (n : ℕ) : ∃ d ds, decimal n = d :: ds ∧ isDigit d = true := by
  obtain ⟨d, ds, heq⟩ := List.exists_cons_of_ne_nil (decimal_ne_nil n)
  exact ⟨d, ds, heq, isDigit_of_mem_decimal (heq ▸ List.mem_cons_self)⟩

/-- A number is read up to a text that does not go on with it. -/
theorem readNumber_append {rest : List Char} (h : EndsNumber rest) {n : Numeral} (hn : n.IsWord) :
    readNumber ((if n.negative then ['-'] else []) ++ decimal n.mantissa ++ rest) =
      some (n, rest) := by
  have heq : (⟨n.negative, n.mantissa, 0, true⟩ : Numeral) = n := by
    rw [← hn.exponent, ← hn.whole]
  have hunsigned := readUnsigned_decimal h n.negative n.mantissa
  rw [heq] at hunsigned
  cases hsign : n.negative with
  | true =>
    rw [hsign] at hunsigned
    exact hunsigned
  | false =>
    -- the first digit is no minus sign, so the reader goes on to the digits
    rw [hsign] at hunsigned
    obtain ⟨d, ds, hcons, hd⟩ := exists_decimal_eq_cons n.mantissa
    rw [hcons] at hunsigned ⊢
    show readNumber (d :: (ds ++ rest)) = _
    rw [readNumber]
    · exact hunsigned
    · rintro s hs
      rw [(List.cons.inj hs).1] at hd
      exact absurd hd (by decide)

/-! ### One token -/

/-- `Reads word rest t`: where `word` stands before `rest`, `t` is read and `rest` left. -/
def Reads (word rest : List Char) (t : Token) : Prop :=
  ∃ c cs, word ++ rest = c :: cs ∧ isSpace c = false ∧ readToken c cs = some (t, rest)

theorem isSpace_of_isDigit {c : Char} (h : isDigit c = true) : isSpace c = false := by
  rw [Bool.eq_false_iff]
  intro hspace
  simp only [isSpace, Bool.or_eq_true, beq_iff_eq] at hspace
  rcases hspace with ((rfl | rfl) | rfl) | rfl <;> exact absurd h (by decide)

theorem reads_number {rest : List Char} (h : EndsNumber rest) {n : Numeral} (hn : n.IsWord) :
    Reads ((if n.negative then ['-'] else []) ++ decimal n.mantissa) rest (.number n) := by
  have hread := readNumber_append h hn
  -- The sign or the first digit is what the reader goes by.
  have hcons : ∃ c cs, (if n.negative then ['-'] else []) ++ decimal n.mantissa ++ rest = c :: cs ∧
      (c = '-' ∨ isDigit c = true) := by
    cases n.negative with
    | true => exact ⟨'-', _, rfl, Or.inl rfl⟩
    | false =>
      obtain ⟨d, ds, heq, hd⟩ := exists_decimal_eq_cons n.mantissa
      exact ⟨d, ds ++ rest, by rw [heq]; rfl, Or.inr hd⟩
  obtain ⟨c, cs, heq, hc⟩ := hcons
  rw [heq] at hread
  refine ⟨c, cs, heq, ?_, ?_⟩
  · rcases hc with rfl | hc
    · decide
    · exact isSpace_of_isDigit hc
  · have hif : (c == '-' || isDigit c) = true := by simpa using hc
    unfold readToken
    split
    case h_8 => rw [if_pos hif, hread, Option.map_some]
    all_goals exact absurd hc (by decide)

/-- A token that is written is read, and what follows it is left. -/
theorem reads_of_writtenAs {t : Token} {word rest : List Char} (h : t.WrittenAs word)
    (hrest : ∀ n, t = .number n → EndsNumber rest) : Reads word rest t := by
  cases h with
  | openBrace | closeBrace | openBracket | closeBracket | colon | comma | null =>
    exact ⟨_, _, rfl, by decide, rfl⟩
  | bool b => cases b <;> exact ⟨_, _, rfl, by decide, rfl⟩
  | number hn => exact reads_number (hrest _ rfl) hn
  | @text raw s h =>
    refine ⟨'"', raw ++ '"' :: rest, by simp, by decide, ?_⟩
    unfold readToken
    simp [h.untilQuote, h.ofQuoted]

/-! ### The tokens of a text -/

theorem tokens_nil : tokens [] = [] := by
  rw [tokens]

theorem tokens_of_reads {word rest : List Char} {t : Token} (h : Reads word rest t) :
    tokens (word ++ rest) = t :: tokens rest := by
  obtain ⟨c, cs, heq, hspace, hread⟩ := h
  have hif : ¬ isSpace c = true := by simp [hspace]
  rw [heq, tokens, if_neg hif]
  split
  · rename_i hnone
    exact absurd (hread.symm.trans hnone) (Option.some_ne_none _)
  · rename_i token rest' hsome
    obtain ⟨rfl, rfl⟩ := Prod.mk.inj (Option.some.inj (hread.symm.trans hsome))
    rfl

/-- White space is passed over. -/
theorem tokens_gap {gap : List Char} (hgap : ∀ c ∈ gap, isSpace c = true) (s : List Char) :
    tokens (gap ++ s) = tokens s := by
  induction gap with
  | nil => rfl
  | cons c gap ih =>
    rw [List.cons_append, tokens, if_pos (hgap c List.mem_cons_self)]
    exact ih fun d hd => hgap d (List.mem_cons_of_mem c hd)

theorem endsNumber_nil : EndsNumber [] :=
  fun _ hc => nomatch hc

theorem endsNumber_cons {c : Char}
    (h : isDigit c = false ∧ c ≠ '.' ∧ c ≠ 'e' ∧ c ≠ 'E') (s : List Char) :
    EndsNumber (c :: s) := by
  intro d hd
  obtain rfl := Option.some.inj hd
  exact h

theorem endsNumber_of_isSpace {c : Char} (h : isSpace c = true) (s : List Char) :
    EndsNumber (c :: s) := by
  simp only [isSpace, Bool.or_eq_true, beq_iff_eq] at h
  rcases h with ((rfl | rfl) | rfl) | rfl <;> exact endsNumber_cons (by decide) s

/-- A text that begins with a mark, perhaps behind white space, does not go on with a number. -/
theorem endsNumber_of_spaced {ts : List Token} {s : List Char} (h : Spaced ts s)
    (hmark : ∀ u ∈ ts.head?, u.isMark = true) : EndsNumber s := by
  cases h with
  | nil hgap =>
    cases s with
    | nil => exact endsNumber_nil
    | cons c gap => exact endsNumber_of_isSpace (hgap c List.mem_cons_self) gap
  | @cons t ts gap word s hgap hword h =>
    have ht : t.isMark = true := hmark t rfl
    -- behind the number stands white space, or the mark itself
    cases gap with
    | cons c gap => exact endsNumber_of_isSpace (hgap c List.mem_cons_self) _
    | nil =>
      cases hword with
      | closeBrace | closeBracket | colon | comma => exact endsNumber_cons (by decide) s
      | openBrace | openBracket | null | bool | number | text => exact nomatch ht

/-- A text that is laid out has the tokens from which it is made. -/
theorem tokens_of_spaced {ts : List Token} {s : List Char} (h : Spaced ts s)
    (hchain : ts.IsChain Token.MayPrecede) : tokens s = ts := by
  induction h with
  | nil hgap =>
    have hnil := tokens_gap hgap []
    rw [List.append_nil] at hnil
    rw [hnil, tokens_nil]
  | @cons t ts gap word s hgap hword h ih =>
    obtain ⟨hfirst, hrest⟩ := List.isChain_cons.1 hchain
    -- if the token is a number, then what the chain says of the next one ends it
    have hends : ∀ n, t = .number n → EndsNumber s :=
      fun n hn => endsNumber_of_spaced h fun u hu => hfirst u hu n hn
    rw [tokens_gap hgap, tokens_of_reads (reads_of_writtenAs hword hends), ih hrest]

/-! ### What can be written -/

/-- There is a way to write the token. -/
def Token.Writable (t : Token) : Prop :=
  ∃ word, t.WrittenAs word

theorem writable_number_iff {n : Numeral} : (Token.number n).Writable ↔ n.IsWord := by
  constructor
  · rintro ⟨_, hword⟩
    cases hword with
    | number h => exact h
  · exact fun h => ⟨_, .number h⟩

theorem writable_text (s : List Char) : (Token.text s).Writable :=
  ⟨_, .text (spells_escape s)⟩

theorem not_writable_brokenText : ¬ Token.brokenText.Writable :=
  fun ⟨_, hword⟩ => nomatch hword

theorem writable_of_isMark {t : Token} (h : t.isMark = true) : t.Writable := by
  cases t with
  | closeBrace => exact ⟨_, .closeBrace⟩
  | closeBracket => exact ⟨_, .closeBracket⟩
  | colon => exact ⟨_, .colon⟩
  | comma => exact ⟨_, .comma⟩
  | openBrace | openBracket | null | bool | number | text | brokenText | junk => exact nomatch h

/-- The printer writes a token in one of the ways. -/
theorem Token.Writable.render {t : Token} (h : t.Writable) : t.WrittenAs t.render := by
  obtain ⟨word, hword⟩ := h
  cases hword with
  | openBrace => exact .openBrace
  | closeBrace => exact .closeBrace
  | openBracket => exact .openBracket
  | closeBracket => exact .closeBracket
  | colon => exact .colon
  | comma => exact .comma
  | null => exact .null
  | bool b => cases b <;> exact .bool _
  | @number n h =>
    have hrender : renderNumber n = (if n.negative then ['-'] else []) ++ decimal n.mantissa := by
      rw [renderNumber, if_pos h.whole, List.append_nil]
    show (Token.number n).WrittenAs (renderNumber n)
    rw [hrender]
    exact .number h
  | text => exact .text (spells_escape _)

theorem Spaced.writable {ts : List Token} {s : List Char} (h : Spaced ts s) :
    ∀ t ∈ ts, t.Writable := by
  induction h with
  | nil => simp
  | cons _ hword _ ih => exact List.forall_mem_cons.2 ⟨⟨_, hword⟩, ih⟩

/-- Tokens that are written one after the other are laid out without white space. -/
theorem spaced_render {ts : List Token} (h : ∀ t ∈ ts, t.Writable) :
    Spaced ts (ts.flatMap Token.render) := by
  have hgap : ∀ c ∈ ([] : List Char), isSpace c = true := fun _ hc => absurd hc List.not_mem_nil
  induction ts with
  | nil => exact .nil hgap
  | cons t ts ih =>
    obtain ⟨ht, hts⟩ := List.forall_mem_cons.1 h
    show Spaced (t :: ts) ([] ++ (t.render ++ ts.flatMap Token.render))
    exact .cons hgap ht.render (ih hts)

end Json

end Phrasebook
