import Phrasebook.Text.Utf8
import Mathlib.Data.Nat.Notation
import Mathlib.Tactic.Common

/-!
# Reading UTF-8 back

Bytes of any kind are read, and those of a text give the text back: `decodeLossy_encode`.  Other
bytes are read as a text, too, but that is written with other bytes: `repair_eq_self_iff`.  The
order of texts by their code points is that of their bytes: `encode_lt_encode`.

A character is written as a first byte that says how many follow (`lead?_two`, `lead?_three`,
`lead?_four`), and each of those brings six more bits (`gather_cons`).  The bounds that a first byte
sets for the second one exclude what no character is written as: numbers that would fit fewer bytes,
surrogates, and numbers beyond the last character.
-/

namespace Phrasebook.Text.Utf8

/-! ### The first byte -/

theorem lead?_two {n : ℕ} (hlow : 0x7F < n) (hhigh : n ≤ 0x7FF) :
    lead? (n / 64 + 0xC0) = some ⟨1, 0x80, 0xBF, n / 64⟩ := by
  have hrange : 0xC2 ≤ n / 64 + 0xC0 ∧ n / 64 + 0xC0 ≤ 0xDF := by omega
  unfold lead?
  rw [if_pos (by simpa using hrange), Nat.add_sub_cancel]

/-- Behind the first of three bytes comes one that makes the number long enough for three, and no
surrogate. -/
theorem lead?_three {n : ℕ} (hlow : 0x7FF < n) (hhigh : n ≤ 0xFFFF)
    (hvalid : n < 0xD800 ∨ 0xDFFF < n) :
    ∃ least greatest, lead? (n / 4096 + 0xE0) = some ⟨2, least, greatest, n / 4096⟩ ∧
      least ≤ n / 64 % 64 + 0x80 ∧ n / 64 % 64 + 0x80 ≤ greatest := by
  unfold lead?
  rw [if_neg (by simp)]
  by_cases hfirst : n / 4096 = 0
  · refine ⟨0xA0, 0xBF, ?_, by omega, by omega⟩
    rw [hfirst]
    rfl
  by_cases hsurrogate : n / 4096 = 0xD
  · refine ⟨0x80, 0x9F, ?_, by omega, by omega⟩
    rw [hsurrogate]
    rfl
  · refine ⟨0x80, 0xBF, ?_, by omega, by omega⟩
    rw [if_neg (by omega), if_neg (by omega), if_pos (by simp; omega), Nat.add_sub_cancel]

/-- Behind the first of four bytes comes one that makes the number long enough for four, and does
not pass the last character. -/
theorem lead?_four {n : ℕ} (hlow : 0xFFFF < n) (hhigh : n < 0x110000) :
    ∃ least greatest, lead? (n / 262144 + 0xF0) = some ⟨3, least, greatest, n / 262144⟩ ∧
      least ≤ n / 4096 % 64 + 0x80 ∧ n / 4096 % 64 + 0x80 ≤ greatest := by
  unfold lead?
  rw [if_neg (by simp), if_neg (by omega), if_neg (by omega), if_neg (by simp)]
  by_cases hfirst : n / 262144 = 0
  · refine ⟨0x90, 0xBF, ?_, by omega, by omega⟩
    rw [hfirst]
    rfl
  by_cases hlast : n / 262144 = 4
  · refine ⟨0x80, 0x8F, ?_, by omega, by omega⟩
    rw [hlast]
    rfl
  · refine ⟨0x80, 0xBF, ?_, by omega, by omega⟩
    rw [if_neg (by omega), if_pos (by simp; omega), Nat.add_sub_cancel]

/-! ### The bytes that follow -/

theorem gather_cons {value taken needed least greatest : ℕ} {b : UInt8} (rest : List UInt8)
    (hleast : least ≤ b.toNat) (hgreatest : b.toNat ≤ greatest) :
    gather value taken (needed + 1) least greatest (b :: rest) =
      gather (value * 64 + (b.toNat - 0x80)) (taken + 1) needed 0x80 0xBF rest := by
  rw [gather, if_pos (by simp [hleast, hgreatest])]

/-- A byte that follows a first one brings six bits. -/
theorem gather_six {value taken needed least greatest bits : ℕ} (rest : List UInt8)
    (hbits : bits < 64) (hleast : least ≤ bits + 0x80) (hgreatest : bits + 0x80 ≤ greatest) :
    gather value taken (needed + 1) least greatest (UInt8.ofNat (bits + 0x80) :: rest) =
      gather (value * 64 + bits) (taken + 1) needed 0x80 0xBF rest := by
  have hbyte : (UInt8.ofNat (bits + 0x80)).toNat = bits + 0x80 := by
    rw [UInt8.toNat_ofNat']
    omega
  rw [gather_cons rest (by omega) (by omega), hbyte, Nat.add_sub_cancel]

/-! ### Characters -/

/-- A character is no surrogate, and none is beyond the last one. -/
theorem toNat_valid (c : Char) : c.toNat < 0xD800 ∨ 0xDFFF < c.toNat ∧ c.toNat < 0x110000 :=
  c.valid

theorem toNat_ofNat_of_valid {n : ℕ} (h : n < 0xD800 ∨ 0xDFFF < n ∧ n < 0x110000) :
    (Char.ofNat n).toNat = n := by
  have hvalid : n.isValidChar := h
  unfold Char.ofNat
  rw [dif_pos hvalid]
  rfl

theorem toNat_ofNat_of_lt {n : ℕ} (h : n < 0x80) : (Char.ofNat n).toNat = n :=
  toNat_ofNat_of_valid (Or.inl (by omega))

/-- A character is written as one byte to four. -/
theorem utf8EncodeChar_cases (c : Char) :
    (c.toNat ≤ 0x7F ∧ String.utf8EncodeChar c = [UInt8.ofNat c.toNat]) ∨
    ((0x7F < c.toNat ∧ c.toNat ≤ 0x7FF) ∧ String.utf8EncodeChar c =
      [UInt8.ofNat (c.toNat / 64 + 0xC0), UInt8.ofNat (c.toNat % 64 + 0x80)]) ∨
    ((0x7FF < c.toNat ∧ c.toNat ≤ 0xFFFF) ∧ String.utf8EncodeChar c =
      [UInt8.ofNat (c.toNat / 4096 + 0xE0), UInt8.ofNat (c.toNat / 64 % 64 + 0x80),
        UInt8.ofNat (c.toNat % 64 + 0x80)]) ∨
    (0xFFFF < c.toNat ∧ String.utf8EncodeChar c =
      [UInt8.ofNat (c.toNat / 262144 + 0xF0), UInt8.ofNat (c.toNat / 4096 % 64 + 0x80),
        UInt8.ofNat (c.toNat / 64 % 64 + 0x80), UInt8.ofNat (c.toNat % 64 + 0x80)]) := by
  have hvalid := toNat_valid c
  rw [String.utf8EncodeChar.eq_1, show c.val.toNat = c.toNat from rfl]
  generalize c.toNat = n at hvalid
  -- The encoder masks the leading bits, which within a range changes nothing.
  by_cases hone : n ≤ 0x7F
  · exact Or.inl ⟨hone, if_pos hone⟩
  rw [if_neg hone]
  by_cases htwo : n ≤ 0x7FF
  · have hbits : n / 64 % 32 = n / 64 := by omega
    rw [if_pos htwo, hbits]
    exact Or.inr (Or.inl ⟨by omega, rfl⟩)
  rw [if_neg htwo]
  by_cases hthree : n ≤ 0xFFFF
  · have hbits : n / 4096 % 16 = n / 4096 := by omega
    rw [if_pos hthree, hbits]
    exact Or.inr (Or.inr (Or.inl ⟨by omega, rfl⟩))
  · have hbits : n / 262144 % 8 = n / 262144 := by omega
    rw [if_neg hthree, hbits]
    exact Or.inr (Or.inr (Or.inr ⟨by omega, rfl⟩))

/-- A character of ASCII is written as one byte. -/
theorem utf8EncodeChar_ofNat {n : ℕ} (h : n < 0x80) :
    String.utf8EncodeChar (Char.ofNat n) = [UInt8.ofNat n] := by
  have hn := toNat_ofNat_of_lt h
  rcases utf8EncodeChar_cases (Char.ofNat n) with
    ⟨-, hbytes⟩ | ⟨hrange, -⟩ | ⟨hrange, -⟩ | ⟨hrange, -⟩
  · rw [hbytes, hn]
  all_goals omega

theorem decodeOne_of_lead? {m n taken : ℕ} {l : Lead} {rest : List UInt8}
    (hm : 0x80 ≤ m ∧ m < 256) (hlead : lead? m = some l)
    (hgather : gather l.bits 0 l.more l.least l.greatest rest = (some n, taken)) :
    decodeOne (UInt8.ofNat m) rest = (Char.ofNat n, taken) := by
  have hbyte : (UInt8.ofNat m).toNat = m := by
    rw [UInt8.toNat_ofNat']
    omega
  unfold decodeOne
  rw [hbyte, if_neg (by omega), hlead]
  dsimp only
  rw [hgather]

/-- The bytes of a character are read as that character, whatever follows them. -/
theorem decodeOne_utf8EncodeChar (c : Char) (rest : List UInt8) :
    ∃ b tail, String.utf8EncodeChar c = b :: tail ∧
      decodeOne b (tail ++ rest) = (c, tail.length) := by
  have hvalid := toNat_valid c
  have hself : Char.ofNat c.toNat = c := Char.ofNat_toNat c
  -- One case for each number of bytes: the lead tells the number, and the six bits of each byte
  -- behind it make up the code point.
  rcases utf8EncodeChar_cases c with
    ⟨hrange, hbytes⟩ | ⟨hrange, hbytes⟩ | ⟨hrange, hbytes⟩ | ⟨hrange, hbytes⟩
  · refine ⟨_, _, hbytes, ?_⟩
    have hbyte : (UInt8.ofNat c.toNat).toNat = c.toNat := by
      rw [UInt8.toNat_ofNat']
      omega
    unfold decodeOne
    rw [hbyte, if_pos (by omega), hself]
    rfl
  · refine ⟨_, _, hbytes, ?_⟩
    have hvalue : c.toNat / 64 * 64 + c.toNat % 64 = c.toNat := Nat.div_add_mod' _ _
    refine (decodeOne_of_lead? (by omega) (lead?_two hrange.1 hrange.2) ?_).trans
      (congrArg (·, 1) hself)
    show gather (c.toNat / 64) 0 1 0x80 0xBF (UInt8.ofNat (c.toNat % 64 + 0x80) :: rest) = _
    rw [gather_six rest (by omega) (by omega) (by omega), hvalue]
    rfl
  · refine ⟨_, _, hbytes, ?_⟩
    have hvalue : (c.toNat / 4096 * 64 + c.toNat / 64 % 64) * 64 + c.toNat % 64 = c.toNat := by
      omega
    obtain ⟨least, greatest, hlead, hleast, hgreatest⟩ :=
      lead?_three hrange.1 hrange.2 (hvalid.imp_right And.left)
    refine (decodeOne_of_lead? (by omega) hlead ?_).trans (congrArg (·, 2) hself)
    show gather (c.toNat / 4096) 0 2 least greatest (_ :: _ :: rest) = _
    rw [gather_six _ (by omega) hleast hgreatest,
      gather_six rest (by omega) (by omega) (by omega), hvalue]
    rfl
  · refine ⟨_, _, hbytes, ?_⟩
    have hvalue : ((c.toNat / 262144 * 64 + c.toNat / 4096 % 64) * 64 + c.toNat / 64 % 64) * 64 +
        c.toNat % 64 = c.toNat := by omega
    obtain ⟨least, greatest, hlead, hleast, hgreatest⟩ := lead?_four hrange (by omega)
    refine (decodeOne_of_lead? (by omega) hlead ?_).trans (congrArg (·, 3) hself)
    show gather (c.toNat / 262144) 0 3 least greatest (_ :: _ :: _ :: rest) = _
    rw [gather_six _ (by omega) hleast hgreatest, gather_six _ (by omega) (by omega) (by omega),
      gather_six rest (by omega) (by omega) (by omega), hvalue]
    rfl

/-! ### Texts -/

theorem decodeFrom_length_append (l rest : List UInt8) :
    decodeFrom l.length (l ++ rest) = decodeFrom 0 rest := by
  induction l with
  | nil => rfl
  | cons b l ih => exact ih

theorem decodeFrom_utf8EncodeChar_append (c : Char) (rest : List UInt8) :
    decodeFrom 0 (String.utf8EncodeChar c ++ rest) = c :: decodeFrom 0 rest := by
  obtain ⟨b, tail, hbytes, hone⟩ := decodeOne_utf8EncodeChar c rest
  rw [hbytes, List.cons_append, decodeFrom, hone]
  dsimp only
  rw [decodeFrom_length_append]

/-- **The bytes of a text are read as that text.** -/
theorem decodeLossy_encode (s : List Char) : decodeLossy (encode s) = s := by
  unfold decodeLossy encode
  induction s with
  | nil => rfl
  | cons c s ih => rw [List.flatMap_cons, decodeFrom_utf8EncodeChar_append, ih]

/-! ### Bytes of no text -/

/-- The bytes are those of a text. -/
def IsText (bytes : List UInt8) : Prop :=
  bytes.toByteArray.IsValidUTF8

theorem isText_iff {bytes : List UInt8} : IsText bytes ↔ ∃ s, encode s = bytes := by
  constructor
  · rintro ⟨s, hs⟩
    exact ⟨s, (List.toByteArray_inj.1 hs).symm⟩
  · rintro ⟨s, rfl⟩
    exact ⟨s, rfl⟩

/-- The bytes of what bytes are read as. -/
def repair (bytes : List UInt8) : List UInt8 :=
  encode (decodeLossy bytes)

/-- Bytes are the same after they have been read and written if and only if they are a text's. -/
theorem repair_eq_self_iff {bytes : List UInt8} : repair bytes = bytes ↔ IsText bytes := by
  rw [isText_iff]
  constructor
  · exact fun h => ⟨decodeLossy bytes, h⟩
  · rintro ⟨s, rfl⟩
    rw [repair, decodeLossy_encode]

/-! ### The order of bytes -/

theorem ofNat_cons_lt_iff {m n : ℕ} (hm : m < 256) (hn : n < 256) (rest rest' : List UInt8) :
    UInt8.ofNat m :: rest < UInt8.ofNat n :: rest' ↔ m < n ∨ m = n ∧ rest < rest' := by
  have hbyte : ∀ {k : ℕ}, k < 256 → (UInt8.ofNat k).toNat = k := by
    intro k hk
    rw [UInt8.toNat_ofNat']
    omega
  rw [List.cons_lt_cons_iff, UInt8.lt_iff_toNat_lt, ← UInt8.toNat_inj, hbyte hm, hbyte hn]

theorem utf8EncodeChar_append_lt {c d : Char} (h : c < d) (rest rest' : List UInt8) :
    String.utf8EncodeChar c ++ rest < String.utf8EncodeChar d ++ rest' := by
  have hlt : c.toNat < d.toNat := h
  have hc := toNat_valid c
  have hd := toNat_valid d
  rcases utf8EncodeChar_cases c with
    ⟨hrange, hbytes⟩ | ⟨hrange, hbytes⟩ | ⟨hrange, hbytes⟩ | ⟨hrange, hbytes⟩ <;>
  rcases utf8EncodeChar_cases d with
    ⟨hrange', hbytes'⟩ | ⟨hrange', hbytes'⟩ | ⟨hrange', hbytes'⟩ | ⟨hrange', hbytes'⟩ <;>
  rw [hbytes, hbytes'] <;> simp only [List.cons_append, List.nil_append] <;>
  rw [ofNat_cons_lt_iff (by omega) (by omega)]
  -- a longer form begins with a greater byte, which leaves the pairs of forms of one length; they
  -- differ first where the numbers do, six bits at a time
  all_goals try omega
  · rw [ofNat_cons_lt_iff (by omega) (by omega)]
    omega
  · rw [ofNat_cons_lt_iff (by omega) (by omega), ofNat_cons_lt_iff (by omega) (by omega)]
    omega
  · rw [ofNat_cons_lt_iff (by omega) (by omega), ofNat_cons_lt_iff (by omega) (by omega),
      ofNat_cons_lt_iff (by omega) (by omega)]
    omega

/-- A text that comes before another by its code points does so by its bytes. -/
theorem encode_lt_encode {s t : List Char} (h : s < t) : encode s < encode t := by
  induction h with
  | @nil c t =>
    obtain ⟨b, tail, hbytes, -⟩ := decodeOne_utf8EncodeChar c []
    show [] < String.utf8EncodeChar c ++ encode t
    rw [hbytes]
    exact .nil
  | rel hlt => exact utf8EncodeChar_append_lt hlt _ _
  | cons _ ih => exact List.append_left_lt ih

end Phrasebook.Text.Utf8
