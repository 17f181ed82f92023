import Phrasebook.Proofs.Text.Split
import Phrasebook.Proofs.Url.Percent
import Phrasebook.Url.Form

/-!
# Reading form queries back

What is written as a query is read as the same pairs, whatever characters their names and values
have: `Form.parse_render`.

A query is read in two stages, first as pairs of bytes (`parseRaw`) and then as pairs of texts
(`parse_eq_map_text`).  The proof follows the first stage down the layers of the format.  Pairs are
found between ampersands and names before the first equals sign, since neither sign is written for
anything else (`not_mem_encodeComponent`), and the bytes of a name or value come back one by one
(`decodeBytes_encodeByte`).  So the bytes in a query that has been written are those of the pairs
(`parseRaw_render`).  The second stage gives the texts back (`Utf8.decodeLossy_encode`), but it
forgets bytes that are no text's (`RawPair.repair_eq_self_iff`).

A query that has been written has nothing left to encode in a URL (`isEncoded_render`).
-/

namespace Phrasebook.Url

open Phrasebook.Text

namespace Form

/-! ### Bytes -/

theorem toNat_lt_of_isPlainByte {b : UInt8} (h : isPlainByte b = true) : b.toNat < 0x80 := by
  simp only [isPlainByte, Bool.or_eq_true, Bool.and_eq_true, decide_eq_true_eq, beq_iff_eq] at h
  omega

/-- A character that is not written as it is is not written for any plain byte. -/
theorem ofNat_ne_of_isPlainByte {b : UInt8} {c : Char} (h : isPlainByte b = true)
    (hc : ¬ isPlainByte (UInt8.ofNat c.toNat) = true) : Char.ofNat b.toNat ≠ c := by
  rintro rfl
  rw [Utf8.toNat_ofNat_of_lt (toNat_lt_of_isPlainByte h), UInt8.ofNat_toNat] at hc
  exact hc h

theorem isPlainByte_upperHexChar :
    ∀ n < 16, isPlainByte (UInt8.ofNat (upperHexChar n).toNat) = true := by decide

theorem not_mem_percentByte {c : Char} (hc : ¬ isPlainByte (UInt8.ofNat c.toNat) = true)
    (hpercent : c ≠ '%') (b : UInt8) : c ∉ percentByte b := by
  have hlt : b.toNat < 256 := b.toNat_lt
  have hhex : ∀ n < 16, c ≠ upperHexChar n := by
    rintro n hn rfl
    exact hc (isPlainByte_upperHexChar n hn)
  have hhigh := hhex (b.toNat / 16) (by omega)
  have hlow := hhex (b.toNat % 16) (by omega)
  simp [percentByte, hpercent, hhigh, hlow]

/-- Only plain bytes, the plus sign and the percent sign are written. -/
theorem not_mem_encodeByte {c : Char} (hc : ¬ isPlainByte (UInt8.ofNat c.toNat) = true)
    (hplus : c ≠ '+') (hpercent : c ≠ '%') (b : UInt8) : c ∉ encodeByte b := by
  unfold encodeByte
  split_ifs with hplain hspace
  · simpa using (ofNat_ne_of_isPlainByte hplain hc).symm
  · simpa using hplus
  · exact not_mem_percentByte hc hpercent b

/-- A plus sign stands for a space. -/
def spaced (c : Char) : Char :=
  if c == '+' then ' ' else c

theorem map_spaced {s : List Char} (h : '+' ∉ s) : s.map spaced = s := by
  have hself : ∀ c ∈ s, spaced c = id c := by
    intro c hc
    have hne : c ≠ '+' := fun heq => h (heq ▸ hc)
    exact if_neg (by simpa using hne)
  rw [List.map_congr_left hself, List.map_id]

/-- A byte that has been written is read back, and what follows it is read as before. -/
theorem decodeBytes_encodeByte (b : UInt8) (rest : List Char) :
    decodeBytes ((encodeByte b).map spaced ++ rest) = b :: decodeBytes rest := by
  unfold encodeByte
  split_ifs with hplain hspace
  · have hlt := toNat_lt_of_isPlainByte hplain
    have hplus : '+' ∉ [Char.ofNat b.toNat] := by
      simpa using (ofNat_ne_of_isPlainByte hplain (c := '+') (by decide)).symm
    have hpercent : Char.ofNat b.toNat ≠ '%' := ofNat_ne_of_isPlainByte hplain (by decide)
    rw [map_spaced hplus, List.singleton_append, decodeBytes_cons_of_ne hpercent,
      Utf8.utf8EncodeChar_ofNat hlt, UInt8.ofNat_toNat]
    rfl
  · have hb : b = UInt8.ofNat 0x20 := by rw [← hspace, UInt8.ofNat_toNat]
    show decodeBytes (' ' :: rest) = _
    rw [decodeBytes_cons_of_ne (by decide), hb]
    rfl
  · rw [map_spaced (not_mem_percentByte (by decide) (by decide) b), decodeBytes_percentByte]

/-! ### Names and values -/

/-- The bytes that an encoded name or value stands for. -/
def componentBytes (s : List Char) : List UInt8 :=
  decodeBytes (s.map spaced)

theorem componentBytes_encodeComponent (s : List Char) :
    componentBytes (encodeComponent s) = Utf8.encode s := by
  unfold componentBytes encodeComponent
  induction Utf8.encode s with
  | nil => rfl
  | cons b bytes ih => rw [List.flatMap_cons, List.map_append, decodeBytes_encodeByte, ih]

theorem not_mem_encodeComponent {c : Char} (hc : ¬ isPlainByte (UInt8.ofNat c.toNat) = true)
    (hplus : c ≠ '+') (hpercent : c ≠ '%') (s : List Char) : c ∉ encodeComponent s := by
  intro hmem
  obtain ⟨b, -, hb⟩ := List.mem_flatMap.1 hmem
  exact not_mem_encodeByte hc hplus hpercent b hb

/-! ### Pairs -/

/-- A pair of a query in bytes, before these are read as text. -/
structure RawPair where
  name : List UInt8
  value : List UInt8
  deriving DecidableEq

namespace RawPair

/-- What the bytes are read as. -/
def text (p : RawPair) : String × String :=
  (String.ofList (Utf8.decodeLossy p.name), String.ofList (Utf8.decodeLossy p.value))

/-- The bytes of a pair of texts. -/
def ofText (pair : String × String) : RawPair :=
  ⟨Utf8.encode pair.1.toList, Utf8.encode pair.2.toList⟩

/-- Both the name and the value are the bytes of texts. -/
structure IsText (p : RawPair) : Prop where
  name : Utf8.IsText p.name
  value : Utf8.IsText p.value

/-- The bytes of what a pair is read as. -/
def repair (p : RawPair) : RawPair :=
  ⟨Utf8.repair p.name, Utf8.repair p.value⟩

theorem text_ofText (pair : String × String) : (ofText pair).text = pair := by
  unfold text ofText
  rw [Utf8.decodeLossy_encode, Utf8.decodeLossy_encode, String.ofList_toList, String.ofList_toList]

theorem ofText_text (p : RawPair) : ofText p.text = p.repair := by
  unfold ofText text
  rw [String.toList_ofList, String.toList_ofList]
  rfl

theorem repair_eq_self_iff {p : RawPair} : p.repair = p ↔ p.IsText := by
  obtain ⟨name, value⟩ := p
  rw [repair, mk.injEq, Utf8.repair_eq_self_iff, Utf8.repair_eq_self_iff]
  exact ⟨fun h => ⟨h.1, h.2⟩, fun h => ⟨h.name, h.value⟩⟩

end RawPair

/-- The pair that is written between two ampersands, in bytes. -/
def rawPair (s : List Char) : RawPair :=
  match cut? '=' s with
  | some (name, value) => ⟨componentBytes name, componentBytes value⟩
  | none => ⟨componentBytes s, []⟩

/-- The pairs of a query in bytes. -/
def parseRaw (query : List Char) : List RawPair :=
  ((splitAt '&' query).filter fun piece => !piece.isEmpty).map rawPair

theorem decodePair_eq_text (s : List Char) : decodePair s = (rawPair s).text := by
  unfold decodePair rawPair
  cases cut? '=' s <;> rfl

/-- The pairs of a query are its pairs in bytes, read as text. -/
theorem parse_eq_map_text (query : List Char) :
    parse query = (parseRaw query).map RawPair.text := by
  unfold parse parseRaw
  rw [List.map_map]
  exact List.map_congr_left fun piece _ => decodePair_eq_text piece

theorem rawPair_encodePair (pair : String × String) : rawPair (encodePair pair) = .ofText pair := by
  have hname : '=' ∉ encodeComponent pair.1.toList :=
    not_mem_encodeComponent (by decide) (by decide) (by decide) _
  unfold rawPair encodePair
  rw [cut?_append hname]
  dsimp only
  rw [componentBytes_encodeComponent, componentBytes_encodeComponent]
  rfl

theorem not_mem_encodePair (pair : String × String) : '&' ∉ encodePair pair := by
  have hcomponent : ∀ s, '&' ∉ encodeComponent s :=
    not_mem_encodeComponent (by decide) (by decide) (by decide)
  simp [encodePair, hcomponent]

theorem encodePair_ne_nil (pair : String × String) : encodePair pair ≠ [] :=
  List.append_ne_nil_of_right_ne_nil _ (List.cons_ne_nil _ _)

/-- **A query that has been written has the bytes of its pairs**, in order and as often as they were
given. -/
theorem parseRaw_render (pairs : List (String × String)) :
    parseRaw (render pairs) = pairs.map RawPair.ofText := by
  rcases eq_or_ne pairs [] with rfl | hne
  · rfl
  have hpieces : splitAt '&' (render pairs) = pairs.map encodePair := by
    refine splitAt_joinWith (by simpa using hne) ?_
    intro piece hpiece
    obtain ⟨pair, -, rfl⟩ := List.mem_map.1 hpiece
    exact not_mem_encodePair pair
  -- an empty pair is written as an equals sign, so none of the pieces vanishes
  have hkept : (pairs.map encodePair).filter (fun piece => !piece.isEmpty) =
      pairs.map encodePair := by
    refine List.filter_eq_self.2 fun piece hpiece => ?_
    obtain ⟨pair, -, rfl⟩ := List.mem_map.1 hpiece
    simpa using encodePair_ne_nil pair
  unfold parseRaw
  rw [hpieces, hkept, List.map_map]
  exact List.map_congr_left fun pair _ => rawPair_encodePair pair

/-- **A query that has been written is read as the same pairs.** -/
theorem parse_render (pairs : List (String × String)) : parse (render pairs) = pairs := by
  have hself : RawPair.text ∘ RawPair.ofText = id := funext RawPair.text_ofText
  rw [parse_eq_map_text, parseRaw_render, List.map_map, hself, List.map_id]

/-! ### Characters -/

theorem isEncoded_encodeByte (b : UInt8) : IsEncoded specialQuerySet (encodeByte b) := by
  have hplain : ∀ n < 0x80, isPlainByte (UInt8.ofNat n) = true →
      specialQuerySet (Char.ofNat n) = false := by decide
  unfold encodeByte
  split_ifs with hb hspace
  · have hlt := toNat_lt_of_isPlainByte hb
    intro c hc
    obtain rfl := List.mem_singleton.1 hc
    rw [Utf8.toNat_ofNat_of_lt hlt]
    exact ⟨hplain b.toNat hlt (by rwa [UInt8.ofNat_toNat]), hlt⟩
  · intro c hc
    obtain rfl := List.mem_singleton.1 hc
    decide
  · exact isEncoded_percentByte isEncodeSet_specialQuerySet b

theorem isEncoded_encodePair (pair : String × String) :
    IsEncoded specialQuerySet (encodePair pair) := by
  have hcomponent : ∀ s, IsEncoded specialQuerySet (encodeComponent s) := by
    intro s c hc
    obtain ⟨b, -, hb⟩ := List.mem_flatMap.1 hc
    exact isEncoded_encodeByte b c hb
  intro c hc
  rcases List.mem_append.1 hc with hc | hc
  · exact hcomponent _ c hc
  · rcases List.mem_cons.1 hc with rfl | hc
    · decide
    · exact hcomponent _ c hc

/-- There is nothing to encode in a query that has been written. -/
theorem isEncoded_render (pairs : List (String × String)) :
    IsEncoded specialQuerySet (render pairs) := by
  intro c hc
  obtain hsep | ⟨piece, hpiece, hc⟩ := mem_joinWith hc
  · exact List.mem_singleton.1 hsep ▸ by decide
  · obtain ⟨pair, -, rfl⟩ := List.mem_map.1 hpiece
    exact isEncoded_encodePair pair c hc

end Form

end Phrasebook.Url
