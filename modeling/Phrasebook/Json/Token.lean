import Phrasebook.Document
import Phrasebook.Text.Decimal

/-!
## The tokens of JSON

JSON as RFC 8259 defines it: no byte order mark, no comments, and white space is the space, the tab,
the line feed and the carriage return.

* `tokens` cuts a text into tokens.  Where no token can be read it puts `Token.junk` and stops, so
  a reader that needs only the tokens before that place is not disturbed.
* `Token.render` writes a token.  In a string only the quote, the backslash and the characters below
  U+0020 are escaped.
* `ofQuoted?` reads what stands between the quotes of a string.  Escapes that are well formed but
  make no text are a token of their own, which only those readers refuse that need the text.
-/

namespace Phrasebook.Json

open Phrasebook.Text

/-- A token of JSON. -/
inductive Token where
  | openBrace
  | closeBrace
  | openBracket
  | closeBracket
  | colon
  | comma
  | null
  | bool (b : Bool)
  | number (n : Numeral)
  | text (s : List Char)
  /-- A string that is no text, since it has one half of a surrogate pair. -/
  | brokenText
  /-- A place at which no token can be read. -/
  | junk
  deriving DecidableEq, Repr

/-- The white space of JSON. -/
def isSpace (c : Char) : Bool :=
  c == ' ' || c == '\t' || c == '\n' || c == '\r'

/-! ### Strings -/

/-- A piece of a string: a character, or a UTF-16 code unit that is given by its number. -/
inductive Piece where
  | char (c : Char)
  | unit (n : Nat)

/-- The character for the letter behind a backslash, `u` apart. -/
def unescape? (c : Char) : Option Char :=
  match c with
  | '"' => some '"'
  | '\\' => some '\\'
  | '/' => some '/'
  | 'b' => some '\x08'
  | 'f' => some '\x0c'
  | 'n' => some '\n'
  | 'r' => some '\r'
  | 't' => some '\t'
  | _ => none

/-- The pieces of what stands between the quotes of a string. -/
def pieces? : List Char → Option (List Piece)
  | [] => some []
  | '\\' :: 'u' :: a :: b :: c :: d :: rest => do
    let n ← hexNumber? [a, b, c, d]
    return .unit n :: (← pieces? rest)
  | '\\' :: c :: rest => do
    let c ← unescape? c
    return .char c :: (← pieces? rest)
  | c :: rest =>
    if c == '\\' || c.toNat < 0x20 then none
    else (pieces? rest).map (.char c :: ·)

/-- Whether a code unit is the first of a surrogate pair. -/
def isHighSurrogate (n : Nat) : Bool :=
  0xD800 ≤ n && n < 0xDC00

/-- Whether a code unit is the second of a surrogate pair. -/
def isLowSurrogate (n : Nat) : Bool :=
  0xDC00 ≤ n && n < 0xE000

/-- The characters of pieces; a surrogate outside a pair is refused. -/
def joinPieces : List Piece → Option (List Char)
  | [] => some []
  | .char c :: rest => (joinPieces rest).map (c :: ·)
  | .unit n :: .unit m :: rest =>
    if isHighSurrogate n then
      if isLowSurrogate m then
        (joinPieces rest).map (Char.ofNat (0x10000 + (n - 0xD800) * 0x400 + (m - 0xDC00)) :: ·)
      else none
    else if isLowSurrogate n then none
    else (joinPieces (.unit m :: rest)).map (Char.ofNat n :: ·)
  | .unit n :: rest =>
    if isHighSurrogate n || isLowSurrogate n then none
    else (joinPieces rest).map (Char.ofNat n :: ·)

/-- The token of a string, from what is written between its quotes. -/
def ofQuoted? (s : List Char) : Option Token :=
  (pieces? s).map fun pieces => ((joinPieces pieces).map Token.text).getD .brokenText

/-- What stands before the first quote that is not escaped, and what stands behind it. -/
def untilQuote : List Char → Option (List Char × List Char)
  | [] => none
  | [c] => if c == '"' then some ([], []) else none
  | c :: d :: rest =>
    if c == '"' then some ([], d :: rest)
    else if c == '\\' then (untilQuote rest).map fun (body, after) => (c :: d :: body, after)
    else (untilQuote (d :: rest)).map fun (body, after) => (c :: body, after)

/-- How a character is written in a string. -/
def escape (c : Char) : List Char :=
  if c = '"' then ['\\', '"']
  else if c = '\\' then ['\\', '\\']
  else if c = '\n' then ['\\', 'n']
  else if c = '\r' then ['\\', 'r']
  else if c = '\t' then ['\\', 't']
  else if c.toNat = 0x08 then ['\\', 'b']
  else if c.toNat = 0x0C then ['\\', 'f']
  else if c.toNat < 0x20 then
    ['\\', 'u', '0', '0', hexChar (c.toNat / 16), hexChar (c.toNat % 16)]
  else [c]

/-! ### Numbers -/

/-- What follows the point of a number: the digits and the rest. -/
def readFraction : List Char → Option (List Char × List Char)
  | '.' :: s =>
    match s.takeWhile isDigit with
    | [] => none
    | d :: ds => some (d :: ds, s.dropWhile isDigit)
  | s => some ([], s)

/-- The digits of an exponent, with the sign that is before them. -/
def readExponentDigits (negative : Bool) (s : List Char) : Option (Option Int × List Char) :=
  match s.takeWhile isDigit with
  | [] => none
  | d :: ds =>
    let size : Int := digitsValue (d :: ds)
    some (some (if negative then -size else size), s.dropWhile isDigit)

/-- The exponent of a number, if it has one, and the rest. -/
def readExponent (s : List Char) : Option (Option Int × List Char) :=
  match s with
  | [] => some (none, [])
  | c :: rest =>
    if c == 'e' || c == 'E' then
      match rest with
      | '+' :: ds => readExponentDigits false ds
      | '-' :: ds => readExponentDigits true ds
      | ds => readExponentDigits false ds
    else some (none, s)

/-- A number without its sign, and the rest.  A leading zero stands alone. -/
def readUnsigned (negative : Bool) (s : List Char) : Option (Numeral × List Char) := do
  let whole := s.takeWhile isDigit
  if whole.isEmpty || (whole.head? == some '0' && whole.length != 1) then none
  let (fraction, s) ← readFraction (s.dropWhile isDigit)
  let (exponent, s) ← readExponent s
  return (⟨negative, digitsValue (whole ++ fraction), exponent.getD 0 - fraction.length,
    fraction.isEmpty && exponent.isNone⟩, s)

/-- The number at the start of a text, and the rest. -/
def readNumber : List Char → Option (Numeral × List Char)
  | '-' :: s => readUnsigned true s
  | s => readUnsigned false s

/-- A number as JSON writes it: without a point. -/
def renderNumber (n : Numeral) : List Char :=
  (if n.negative then ['-'] else []) ++ decimal n.mantissa ++
    (if n.whole then [] else 'e' :: decimalInt n.exponent)

/-! ### Tokens -/

/-- Each word of JSON with its token. -/
def literals : List (List Char × Token) :=
  [("null".toList, .null), ("true".toList, .bool true), ("false".toList, .bool false)]

/-- The word at the start of a text, and the rest. -/
def readLiteral (s : List Char) : Option (Token × List Char) :=
  literals.findSome? fun (word, token) =>
    if word.isPrefixOf s then some (token, s.drop word.length) else none

/-- The token at the start of a text that does not begin with white space, and the rest. -/
def readToken (c : Char) (cs : List Char) : Option (Token × List Char) :=
  match c with
  | '{' => some (.openBrace, cs)
  | '}' => some (.closeBrace, cs)
  | '[' => some (.openBracket, cs)
  | ']' => some (.closeBracket, cs)
  | ':' => some (.colon, cs)
  | ',' => some (.comma, cs)
  | '"' => do
    let (body, rest) ← untilQuote cs
    return (← ofQuoted? body, rest)
  | c =>
    if c == '-' || isDigit c then
      (readNumber (c :: cs)).map fun (n, rest) => (.number n, rest)
    else readLiteral (c :: cs)

theorem untilQuote_length {s body rest : List Char} (h : untilQuote s = some (body, rest)) :
    rest.length < s.length := by
  fun_induction untilQuote s generalizing body rest with
  | case1 => simp at h
  | case2 c hc => simp_all
  | case3 c hc => simp at h
  | case4 c d tail hc => simp_all
  | case5 c d tail hc hc' ih =>
    obtain ⟨⟨b, r⟩, hr, heq⟩ := Option.map_eq_some_iff.1 h
    have hlt := ih hr
    simp only [Prod.mk.injEq] at heq
    simp only [← heq.2, List.length_cons]
    omega
  | case6 c d tail hc hc' ih =>
    obtain ⟨⟨b, r⟩, hr, heq⟩ := Option.map_eq_some_iff.1 h
    have hlt := ih hr
    simp only [Prod.mk.injEq] at heq
    simp only [← heq.2, List.length_cons] at hlt ⊢
    omega

theorem length_dropWhile_le (p : Char → Bool) (s : List Char) :
    (s.dropWhile p).length ≤ s.length :=
  (List.dropWhile_sublist p).length_le

theorem readFraction_length {s ds rest : List Char} (h : readFraction s = some (ds, rest)) :
    rest.length ≤ s.length := by
  unfold readFraction at h
  split at h
  · split at h
    · simp at h
    · simp only [Option.some.injEq, Prod.mk.injEq] at h
      rw [← h.2, List.length_cons]
      exact Nat.le_succ_of_le (length_dropWhile_le _ _)
  · simp only [Option.some.injEq, Prod.mk.injEq] at h
    obtain ⟨_, rfl⟩ := h
    exact Nat.le_refl _

theorem readExponentDigits_length {negative : Bool} {s rest : List Char} {e : Option Int}
    (h : readExponentDigits negative s = some (e, rest)) : rest.length ≤ s.length := by
  unfold readExponentDigits at h
  split at h
  · simp at h
  · simp only [Option.some.injEq, Prod.mk.injEq] at h
    rw [← h.2]
    exact length_dropWhile_le _ _

theorem readExponent_length {s rest : List Char} {e : Option Int}
    (h : readExponent s = some (e, rest)) : rest.length ≤ s.length := by
  unfold readExponent at h
  split at h
  · simp_all
  · split at h
    · split at h
      all_goals
        have hle := readExponentDigits_length h
        simp only [List.length_cons]
        omega
    · simp only [Option.some.injEq, Prod.mk.injEq] at h
      obtain ⟨_, rfl⟩ := h
      exact Nat.le_refl _

theorem readUnsigned_length {negative : Bool} {s rest : List Char} {n : Numeral}
    (h : readUnsigned negative s = some (n, rest)) : rest.length < s.length := by
  unfold readUnsigned at h
  simp only [Option.bind_eq_bind] at h
  split at h
  · simp at h
  · rename_i hw
    simp only [Option.pure_def, Option.bind_eq_some_iff, Option.some.injEq,
      Prod.mk.injEq, Prod.exists] at h
    obtain ⟨fraction, s₁, h₁, exponent, s₂, h₂, _, rfl⟩ := h
    have l₁ := readFraction_length h₁
    have l₂ := readExponent_length h₂
    have hne : s.takeWhile isDigit ≠ [] := by
      intro hnil
      simp [hnil] at hw
    have hlen : (s.takeWhile isDigit).length + (s.dropWhile isDigit).length = s.length := by
      rw [← List.length_append, List.takeWhile_append_dropWhile]
    have hpos := List.length_pos_iff.2 hne
    omega

theorem readNumber_length {s rest : List Char} {n : Numeral}
    (h : readNumber s = some (n, rest)) : rest.length < s.length := by
  unfold readNumber at h
  split at h
  · have := readUnsigned_length h
    simp only [List.length_cons]
    omega
  · exact readUnsigned_length h

theorem readLiteral_length {s rest : List Char} {t : Token}
    (h : readLiteral s = some (t, rest)) : rest.length < s.length := by
  unfold readLiteral at h
  obtain ⟨⟨word, token⟩, hmem, hread⟩ := List.exists_of_findSome?_eq_some h
  simp only at hread
  split at hread
  · rename_i hp
    simp only [Option.some.injEq, Prod.mk.injEq] at hread
    have hle : word.length ≤ s.length :=
      (List.isPrefixOf_iff_prefix.1 hp).length_le
    have hpos : 0 < word.length := by
      simp only [literals, List.mem_cons, Prod.mk.injEq, List.not_mem_nil, or_false] at hmem
      rcases hmem with ⟨rfl, _⟩ | ⟨rfl, _⟩ | ⟨rfl, _⟩ <;> decide
    rw [← hread.2, List.length_drop]
    omega
  · simp at hread

/-- A token takes at least one character. -/
theorem readToken_length {c : Char} {cs rest : List Char} {t : Token}
    (h : readToken c cs = some (t, rest)) : rest.length ≤ cs.length := by
  unfold readToken at h
  split at h
  case h_7 =>
    simp only [Option.bind_eq_bind, Option.pure_def, Option.bind_eq_some_iff, Option.some.injEq,
      Prod.mk.injEq, Prod.exists] at h
    obtain ⟨body, rest', h₁, s, h₂, _, rfl⟩ := h
    exact Nat.le_of_lt (untilQuote_length h₁)
  case h_8 =>
    split at h
    · obtain ⟨⟨n, r⟩, hr, heq⟩ := Option.map_eq_some_iff.1 h
      have := readNumber_length hr
      simp only [Prod.mk.injEq, List.length_cons] at heq this
      rw [← heq.2]
      omega
    · have := readLiteral_length h
      simp only [List.length_cons] at this
      omega
  all_goals
    simp only [Option.some.injEq, Prod.mk.injEq] at h
    obtain ⟨_, rfl⟩ := h
    exact Nat.le_refl _

/-- The tokens of a text. -/
def tokens : List Char → List Token
  | [] => []
  | c :: cs =>
    if isSpace c then tokens cs
    else match _h : readToken c cs with
      | none => [.junk]
      | some (token, rest) => token :: tokens rest
termination_by s => s.length
decreasing_by
  · simp
  · have := readToken_length _h
    simp only [List.length_cons]
    omega

/-- A token as it is written. -/
def Token.render : Token → List Char
  | .openBrace => ['{']
  | .closeBrace => ['}']
  | .openBracket => ['[']
  | .closeBracket => [']']
  | .colon => [':']
  | .comma => [',']
  | .null => "null".toList
  | .bool true => "true".toList
  | .bool false => "false".toList
  | .number n => renderNumber n
  | .text s => '"' :: s.flatMap escape ++ ['"']
  | .brokenText => "\"\\ud800\"".toList
  | .junk => []

end Phrasebook.Json
