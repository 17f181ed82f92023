import Phrasebook.Proofs.Text.Decimal
import Phrasebook.Proofs.Text.Utf8
import Phrasebook.Url.Percent

/-!
# Laws of percent encoding

* `isEncoded_encodeWith`: encoding leaves no character of its set and none outside ASCII, as long as
  the set has none of the characters that encoding writes (`IsEncodeSet`).
* `IsEncoded.encodeWith_eq_self`: such a text is encoded already: encoding twice is encoding once.
* `decodeBytes_eq_encode`: a text without a percent sign stands for its own bytes.
-/

namespace Phrasebook.Url

open Phrasebook.Text

variable {p : Char → Bool} {s t : List Char} {c : Char}

/-! ### Decoding -/

theorem decodeBytes_percentByte (b : UInt8) (rest : List Char) :
    decodeBytes (percentByte b ++ rest) = b :: decodeBytes rest := by
  have hlt : b.toNat < 256 := b.toNat_lt
  have hhigh := hexValue?_upperHexChar (b.toNat / 16) (by omega)
  have hlow := hexValue?_upperHexChar (b.toNat % 16) (by omega)
  show decodeBytes ('%' :: _ :: _ :: rest) = _
  rw [decodeBytes, hhigh, hlow]
  dsimp only
  rw [Nat.div_add_mod, UInt8.ofNat_toNat]

theorem decodeBytes_cons_of_ne (hc : c ≠ '%') (rest : List Char) :
    decodeBytes (c :: rest) = String.utf8EncodeChar c ++ decodeBytes rest := by
  rw [decodeBytes]
  rintro a b s rfl
  exact absurd rfl hc

/-- A text without a percent sign stands for its own bytes. -/
theorem decodeBytes_eq_encode (h : '%' ∉ s) : decodeBytes s = Utf8.encode s := by
  induction s with
  | nil => rfl
  | cons c s ih =>
    have hc : c ≠ '%' := fun heq => h (List.mem_cons.2 (Or.inl heq.symm))
    have hs := ih fun hmem => h (List.mem_cons_of_mem c hmem)
    rw [decodeBytes_cons_of_ne hc, hs]
    rfl

/-! ### Encoding -/

/-- A set of characters of which encoding writes none. -/
structure IsEncodeSet (p : Char → Bool) : Prop where
  percent : p '%' = false
  digit : ∀ n < 16, p (upperHexChar n) = false

theorem isEncodeSet_fragmentSet : IsEncodeSet fragmentSet :=
  ⟨by decide, by decide⟩

theorem isEncodeSet_userinfoSet : IsEncodeSet userinfoSet :=
  ⟨by decide, by decide⟩

theorem isEncodeSet_specialQuerySet : IsEncodeSet specialQuerySet :=
  ⟨by decide, by decide⟩

/-- There is no character of the set in the text, and none outside ASCII. -/
def IsEncoded (p : Char → Bool) (s : List Char) : Prop :=
  ∀ c ∈ s, p c = false ∧ c.toNat < 0x80

/-- A character of the set is not in an encoded text. -/
theorem IsEncoded.not_mem (h : IsEncoded p s) (hc : p c = true) : c ∉ s :=
  fun hmem => Bool.false_ne_true ((h c hmem).1.symm.trans hc)

theorem IsEncoded.mono {q : Char → Bool} (h : IsEncoded p s) (hpq : ∀ c, q c = true → p c = true) :
    IsEncoded q s :=
  fun c hc => ⟨Bool.eq_false_iff.2 fun hq => h.not_mem (hpq c hq) hc, (h c hc).2⟩

/-- What holds of all characters of ASCII outside the set holds of those of an encoded text. -/
theorem IsEncoded.forall_mem {P : Char → Prop} (h : IsEncoded p s)
    (hp : ∀ n < 0x80, p (Char.ofNat n) = false → P (Char.ofNat n)) : ∀ c ∈ s, P c := by
  intro c hc
  obtain ⟨hset, hascii⟩ := h c hc
  rw [← Char.ofNat_toNat c] at hset ⊢
  exact hp c.toNat hascii hset

theorem toNat_upperHexChar_lt : ∀ n < 16, (upperHexChar n).toNat < 0x80 := by decide

theorem isEncoded_percentByte (hp : IsEncodeSet p) (b : UInt8) : IsEncoded p (percentByte b) := by
  have hlt : b.toNat < 256 := b.toNat_lt
  intro c hc
  simp only [percentByte, List.mem_cons, List.not_mem_nil, or_false] at hc
  rcases hc with rfl | rfl | rfl
  · exact ⟨hp.percent, by decide⟩
  · exact ⟨hp.digit _ (by omega), toNat_upperHexChar_lt _ (by omega)⟩
  · exact ⟨hp.digit _ (by omega), toNat_upperHexChar_lt _ (by omega)⟩

/-- A character is written as it is, or as percent signs and digits. -/
theorem encodeWith_cons (p : Char → Bool) (c : Char) (s : List Char) :
    encodeWith p (c :: s) =
      (if p c || 0x80 ≤ c.toNat then (String.utf8EncodeChar c).flatMap percentByte else [c]) ++
        encodeWith p s :=
  List.flatMap_cons

theorem encodeWith_cons_of_neg (hc : p c = false) (hascii : c.toNat < 0x80) :
    encodeWith p (c :: s) = c :: encodeWith p s := by
  rw [encodeWith_cons, if_neg (by simpa [hc] using hascii)]
  rfl

theorem encodeWith_cons_ne_nil (p : Char → Bool) (c : Char) (s : List Char) :
    encodeWith p (c :: s) ≠ [] := by
  rw [encodeWith_cons]
  refine List.append_ne_nil_of_left_ne_nil ?_ _
  split
  · obtain ⟨b, tail, hbytes, -⟩ := Utf8.decodeOne_utf8EncodeChar c []
    rw [hbytes]
    exact List.cons_ne_nil _ _
  · exact List.cons_ne_nil _ _

/-- Sets with the same characters of a text encode it alike. -/
theorem encodeWith_congr {q : Char → Bool} (h : ∀ c ∈ s, p c = q c) :
    encodeWith p s = encodeWith q s := by
  induction s with
  | nil => rfl
  | cons c s ih =>
    obtain ⟨hc, hs⟩ := List.forall_mem_cons.1 h
    rw [encodeWith_cons, encodeWith_cons, hc, ih hs]

/-- What has been encoded has no character of the set and none outside ASCII. -/
theorem isEncoded_encodeWith (hp : IsEncodeSet p) (s : List Char) :
    IsEncoded p (encodeWith p s) := by
  intro c hc
  obtain ⟨d, -, hd⟩ := List.mem_flatMap.1 hc
  split at hd
  · obtain ⟨b, -, hb⟩ := List.mem_flatMap.1 hd
    exact isEncoded_percentByte hp b c hb
  · rename_i hplain
    obtain rfl := List.mem_singleton.1 hd
    simpa using hplain

/-- Encoding changes nothing where there is nothing to encode. -/
theorem IsEncoded.encodeWith_eq_self (h : IsEncoded p s) : encodeWith p s = s := by
  induction s with
  | nil => rfl
  | cons c s ih =>
    obtain ⟨hc, hascii⟩ := h c List.mem_cons_self
    rw [encodeWith_cons_of_neg hc hascii, ih fun d hd => h d (List.mem_cons_of_mem c hd)]

end Phrasebook.Url
