import Phrasebook.Text.Quoted
import Phrasebook.Proofs.Text.Decimal
import Phrasebook.Proofs.Text.Split

/-!
# What a quoted text quotes

A quoted text tells where it ends and what it quotes, whatever text follows it: `quoted_append_inj`.
It has no line feed: `lineFeed_not_mem_quoted`.

Each character inside the quotes is written in one of three ways (`escaped_cases`), and a reader of
one character finds it again with all that follows it (`readEscaped_escaped`).  As no character
inside begins with a double quote (`escaped_append_ne`), the first one that stands where a character
could begin is the end.
-/

namespace Phrasebook.Text

/-- The character that a letter behind a backslash stands for. -/
def named? : Char → Option Char
  | '"' => some '"'
  | '\\' => some '\\'
  | 'n' => some '\n'
  | 'r' => some '\r'
  | 't' => some '\t'
  | '0' => some '\x00'
  | _ => none

/-- Reads one character as it is written inside double quotes: the character and what follows. -/
def readEscaped : List Char → Option (Char × List Char)
  | [] => none
  | '\\' :: 'u' :: '{' :: s => do
    let (digits, rest) ← cut? '}' s
    return (← codePoint? digits, rest)
  | '\\' :: d :: s => (named? d).map fun c => (c, s)
  | c :: s => some (c, s)

/-! ### One character -/

/-- A character is written behind a backslash by its letter, or as it is, or by its code point. -/
theorem escaped_cases (c : Char) :
    (∃ d, named? d = some c ∧ escaped c = ['\\', d]) ∨
      (c ≠ '"' ∧ c ≠ '\\' ∧ c ≠ '\n' ∧ escaped c = [c]) ∨
      escaped c = ['\\', 'u', '{'] ++ hexadecimal c.toNat ++ ['}'] := by
  unfold escaped
  split_ifs with hquote hbackslash hfeed hreturn htab hnull hprint
  · exact Or.inl ⟨'"', congrArg some hquote.symm, rfl⟩
  · exact Or.inl ⟨'\\', congrArg some hbackslash.symm, rfl⟩
  · exact Or.inl ⟨'n', congrArg some hfeed.symm, rfl⟩
  · exact Or.inl ⟨'r', congrArg some hreturn.symm, rfl⟩
  · exact Or.inl ⟨'t', congrArg some htab.symm, rfl⟩
  · have hc : c = '\x00' := Char.toNat_inj.1 hnull
    exact Or.inl ⟨'0', congrArg some hc.symm, rfl⟩
  · exact Or.inr (Or.inl ⟨hquote, hbackslash, hfeed, rfl⟩)
  · exact Or.inr (Or.inr rfl)

theorem codePoint?_hexadecimal (c : Char) : codePoint? (hexadecimal c.toNat) = some c := by
  have hvalid : (decide (c.toNat < 0xD800) ||
      (decide (0xE000 ≤ c.toNat) && decide (c.toNat < 0x110000))) = true := by
    have h : c.toNat < 0xD800 ∨ 0xDFFF < c.toNat ∧ c.toNat < 0x110000 := c.valid
    rw [Bool.or_eq_true, Bool.and_eq_true, decide_eq_true_eq, decide_eq_true_eq, decide_eq_true_eq]
    omega
  unfold codePoint?
  rw [hexNumber?_hexadecimal]
  show (if _ then some (Char.ofNat c.toNat) else none) = some c
  rw [if_pos hvalid, Char.ofNat_toNat]

/-- A character that has been written is found again, and so is all that follows it. -/
theorem readEscaped_escaped (c : Char) (s : List Char) :
    readEscaped (escaped c ++ s) = some (c, s) := by
  obtain ⟨d, hd, h⟩ | ⟨-, hbackslash, -, h⟩ | h := escaped_cases c
  · rw [h]
    -- no character is named by the letter that a code point begins with
    have hu : d ≠ 'u' := by
      rintro rfl
      cases hd
    rw [List.cons_append, List.cons_append, List.nil_append, readEscaped, hd]
    · rfl
    · exact fun t ht => absurd ht hu
  · rw [h, List.cons_append, List.nil_append, readEscaped]
    · exact fun t ht => absurd ht hbackslash
    · exact fun d t ht => absurd ht hbackslash
  · have hcut : cut? '}' (hexadecimal c.toNat ++ '}' :: s) = some (hexadecimal c.toNat, s) :=
      cut?_append (not_mem_hexadecimal (by decide) _) s
    have hread : readEscaped ('\\' :: 'u' :: '{' :: (hexadecimal c.toNat ++ '}' :: s)) =
        some (c, s) := by
      rw [readEscaped, hcut]
      show (codePoint? (hexadecimal c.toNat)).bind (fun d => some (d, s)) = some (c, s)
      rw [codePoint?_hexadecimal]
      rfl
    rw [h]
    simpa using hread

theorem escaped_append_inj {c d : Char} {s t : List Char} (h : escaped c ++ s = escaped d ++ t) :
    c = d ∧ s = t := by
  have hread := congrArg readEscaped h
  rw [readEscaped_escaped, readEscaped_escaped] at hread
  exact Prod.mk.inj (Option.some.inj hread)

theorem escaped_append_ne (c : Char) (s t : List Char) : escaped c ++ s ≠ '"' :: t := by
  obtain ⟨d, -, h⟩ | ⟨hquote, -, -, h⟩ | h := escaped_cases c
  · rw [h]
    exact fun heq => absurd (List.cons.inj heq).1 (by decide)
  · rw [h]
    exact fun heq => hquote (List.cons.inj heq).1
  · rw [h]
    exact fun heq => absurd (List.cons.inj heq).1 (by decide)

theorem lineFeed_not_mem_escaped (c : Char) : '\n' ∉ escaped c := by
  obtain ⟨d, hd, h⟩ | ⟨-, -, hfeed, h⟩ | h := escaped_cases c
  · have hd : d ≠ '\n' := by
      rintro rfl
      cases hd
    rw [h]
    simpa using hd.symm
  · rw [h]
    simpa using Ne.symm hfeed
  · have hhex : '\n' ∉ hexadecimal c.toNat := not_mem_hexadecimal (by decide) _
    rw [h]
    simpa using hhex

/-! ### All characters -/

/-- Inside the quotes the first quote that does not belong to a character is the end. -/
theorem flatMap_escaped_append_inj {s t rest rest' : List Char}
    (h : s.flatMap escaped ++ '"' :: rest = t.flatMap escaped ++ '"' :: rest') :
    s = t ∧ rest = rest' := by
  induction s generalizing t with
  | nil =>
    cases t with
    | nil => exact ⟨rfl, (List.cons.inj h).2⟩
    | cons d t =>
      rw [List.flatMap_cons, List.append_assoc] at h
      -- The quote that ends one string is no escaped character of the other.
      exact absurd h.symm (escaped_append_ne d _ rest)
  | cons c s ih =>
    rw [List.flatMap_cons, List.append_assoc] at h
    cases t with
    | nil => exact absurd h (escaped_append_ne c _ rest')
    | cons d t =>
      rw [List.flatMap_cons, List.append_assoc] at h
      obtain ⟨rfl, htail⟩ := escaped_append_inj h
      obtain ⟨rfl, hrest⟩ := ih htail
      exact ⟨rfl, hrest⟩

/-- A quoted text tells its end and what it quotes, whatever follows it. -/
theorem quoted_append_inj {s t rest rest' : List Char}
    (h : quoted s ++ rest = quoted t ++ rest') : s = t ∧ rest = rest' := by
  have htail : s.flatMap escaped ++ '"' :: rest = t.flatMap escaped ++ '"' :: rest' := by
    simpa [quoted] using h
  exact flatMap_escaped_append_inj htail

theorem lineFeed_not_mem_quoted (s : List Char) : '\n' ∉ quoted s := by
  have hinside : '\n' ∉ s.flatMap escaped := by
    intro hmem
    obtain ⟨c, -, hc⟩ := List.mem_flatMap.1 hmem
    exact lineFeed_not_mem_escaped c hc
  unfold quoted
  simpa using hinside

end Phrasebook.Text
