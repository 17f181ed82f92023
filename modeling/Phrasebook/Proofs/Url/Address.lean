import Phrasebook.Proofs.Result
import Phrasebook.Proofs.Text.Decimal
import Phrasebook.Proofs.Text.Split
import Phrasebook.Url.Host

/-!
# Reading addresses back

An address that has been written is read as the same address: `readIpv4?_renderIpv4` and
`readIpv6?_renderIpv6`.  What has been read satisfies the conditions of these laws, a bound on the
address (`lt_of_readIpv4?`) or on each of eight pieces (`isAddress_of_readIpv6?`).

An address of version 6 is written with its longest run of zeros left out.  That it comes back rests
on `longestZeros_spec`: the run that is left out is one of zeros.
-/

namespace Phrasebook.Url

open Phrasebook.Text

/-! ### Version 4 -/

/-- Digits that do not begin with a zero are read as decimal. -/
theorem ipv4Number?_of_head?_ne {ds : List Char} (hne : ds ≠ []) (hdigits : ds.all isDigit = true)
    (hhead : ds.head? ≠ some '0') : ipv4Number? ds = some (digitsValue ds) := by
  unfold ipv4Number?
  split
  · exact absurd rfl hne
  · exact absurd rfl hhead
  · exact absurd rfl hhead
  · exact absurd rfl hhead
  · exact if_pos hdigits

theorem ipv4Number?_decimal (n : ℕ) : ipv4Number? (decimal n) = some n := by
  rcases Nat.eq_zero_or_pos n with rfl | hpos
  · rw [decimal]
    decide
  · have hdigits : (decimal n).all isDigit = true :=
      List.all_eq_true.2 fun c hc => isDigit_of_mem_decimal hc
    rw [ipv4Number?_of_head?_ne (decimal_ne_nil n) hdigits (head?_decimal_ne hpos),
      digitsValue_decimal]

/-- The four bytes of an address, the most significant first. -/
def addressBytes (address : ℕ) : List ℕ :=
  [3, 2, 1, 0].map fun i => address / Nat.pow 256 i % 256

theorem renderIpv4_eq (address : ℕ) :
    renderIpv4 address = joinWith ['.'] ((addressBytes address).map decimal) := by
  unfold renderIpv4 addressBytes
  rw [List.map_map]
  rfl

/-- What holds of the dot and of all digits holds of the characters of an address. -/
theorem forall_mem_renderIpv4 {P : Char → Prop} (hdot : P '.')
    (hdigit : ∀ n < 10, P (digitChar n)) (address : ℕ) : ∀ c ∈ renderIpv4 address, P c := by
  intro c hc
  rw [renderIpv4_eq] at hc
  obtain hsep | ⟨number, hnumber, hc⟩ := mem_joinWith hc
  · exact List.mem_singleton.1 hsep ▸ hdot
  · obtain ⟨n, -, rfl⟩ := List.mem_map.1 hnumber
    exact forall_isDigit hdigit (isDigit_of_mem_decimal hc)

theorem renderIpv4_ne_nil (address : ℕ) : renderIpv4 address ≠ [] := by
  rw [renderIpv4_eq]
  exact List.append_ne_nil_of_left_ne_nil
    (List.append_ne_nil_of_left_ne_nil (decimal_ne_nil _) _) _

/-- The labels of an address are its four numbers. -/
theorem labels_renderIpv4 (address : ℕ) :
    labels (renderIpv4 address) = (addressBytes address).map decimal := by
  have hsplit : splitAt '.' (renderIpv4 address) = (addressBytes address).map decimal := by
    rw [renderIpv4_eq]
    refine splitAt_joinWith (by simp [addressBytes]) fun piece hpiece => ?_
    obtain ⟨n, -, rfl⟩ := List.mem_map.1 hpiece
    exact not_mem_decimal (by decide) n
  unfold labels
  rw [hsplit]
  simp [addressBytes, decimal_ne_nil]

theorem endsInNumber_renderIpv4 (address : ℕ) : endsInNumber (renderIpv4 address) = true := by
  have hdigits : ∀ n, (!(decimal n).isEmpty && (decimal n).all isDigit) = true := fun n => by
    have hall : (decimal n).all isDigit = true :=
      List.all_eq_true.2 fun c hc => isDigit_of_mem_decimal hc
    simp [decimal_ne_nil, hall]
  unfold endsInNumber
  rw [labels_renderIpv4]
  exact Bool.or_eq_true_iff.2 (Or.inl (hdigits _))

/-- An address of version 4 that has been written is read back. -/
theorem readIpv4?_renderIpv4 {address : ℕ} (h : address < 256 ^ 4) :
    readIpv4? (renderIpv4 address) = some address := by
  have hnumbers : ((addressBytes address).map decimal).mapM ipv4Number? =
      some (addressBytes address) := by
    simp [addressBytes, ipv4Number?_decimal]
  unfold readIpv4?
  rw [labels_renderIpv4, hnumbers]
  simp [addressBytes, ipv4OfNumbers?]
  omega

/-- The value of numbers of one byte each. -/
theorem foldl_bytes_lt {numbers : List ℕ} (h : ∀ n ∈ numbers, n ≤ 255) :
    numbers.foldl (fun address n => 256 * address + n) 0 < 256 ^ numbers.length := by
  induction numbers using List.reverseRecOn with
  | nil => decide
  | append_singleton numbers n ih =>
    have hbefore := ih fun m hm => h m (List.mem_append_left _ hm)
    have hlast := h n (List.mem_append_right _ List.mem_cons_self)
    rw [List.foldl_append, List.length_append, List.length_singleton, pow_succ]
    simp only [List.foldl_cons, List.foldl_nil]
    omega

theorem lt_of_readIpv4? {name : List Char} {address : ℕ} (h : readIpv4? name = some address) :
    address < 256 ^ 4 := by
  obtain ⟨numbers, -, h⟩ := Option.bind_eq_some_iff.1 h
  unfold ipv4OfNumbers? at h
  cases hreverse : numbers.reverse with
  | nil =>
    rw [hreverse] at h
    exact nomatch h
  | cons last before =>
    rw [hreverse] at h
    dsimp only at h
    split_ifs at h with hguard
    simp only [Bool.and_eq_true, decide_eq_true_eq, List.all_eq_true] at hguard
    obtain ⟨⟨hlength, hbytes⟩, hlast⟩ := hguard
    obtain rfl := Option.some.inj h
    -- The numbers in front take a byte each, and the last one has the bytes that are left.
    have hfold : before.reverse.foldl (fun address n => 256 * address + n) 0 <
        256 ^ before.length := by
      rw [← List.length_reverse]
      exact foldl_bytes_lt fun n hn => hbytes n (List.mem_reverse.1 hn)
    have hcount : numbers.length = before.length + 1 := by
      rw [← List.length_reverse, hreverse, List.length_cons]
    rw [hcount] at hlength hlast ⊢
    generalize before.reverse.foldl (fun address n => 256 * address + n) 0 = value at hfold ⊢
    generalize before.length = k at hlength hlast hfold ⊢
    calc value * 256 ^ (5 - (k + 1)) + last
        < (value + 1) * 256 ^ (5 - (k + 1)) := by
          rw [Nat.add_mul, Nat.one_mul]
          exact Nat.add_lt_add_left hlast _
      _ ≤ 256 ^ k * 256 ^ (5 - (k + 1)) := Nat.mul_le_mul_right _ hfold
      _ = 256 ^ 4 := by
          rw [← pow_add]
          congr 1
          omega

/-! ### Version 6 -/

/-- Pieces between colons, as they are written. -/
def writePieces (pieces : List ℕ) : List Char :=
  joinWith [':'] (pieces.map hexadecimal)

/-- Eight pieces of 16 bits each. -/
structure IsAddress (pieces : List ℕ) : Prop where
  length : pieces.length = 8
  piece : ∀ n ∈ pieces, n < 16 ^ 4

theorem renderIpv6_eq (pieces : List ℕ) :
    renderIpv6 pieces =
      if (longestZeros pieces).2 < 2 then writePieces pieces
      else writePieces (pieces.take (longestZeros pieces).1) ++ [':', ':'] ++
        writePieces (pieces.drop ((longestZeros pieces).1 + (longestZeros pieces).2)) :=
  rfl

theorem take_leadingZeros (pieces : List ℕ) :
    leadingZeros pieces ≤ pieces.length ∧
      pieces.take (leadingZeros pieces) = List.replicate (leadingZeros pieces) 0 := by
  induction pieces with
  | nil => exact ⟨Nat.zero_le _, rfl⟩
  | cons n rest ih =>
    cases n with
    | zero => exact ⟨Nat.succ_le_succ ih.1, congrArg (0 :: ·) ih.2⟩
    | succ n => exact ⟨Nat.zero_le _, rfl⟩

theorem longestZeros_cons (n : ℕ) (rest : List ℕ) :
    longestZeros (n :: rest) =
      if n = 0 && (longestZeros rest).2 ≤ leadingZeros (n :: rest) then
        (0, leadingZeros (n :: rest))
      else ((longestZeros rest).1 + 1, (longestZeros rest).2) :=
  rfl

/-- The longest run of zeros is one of zeros, and it is in the list. -/
theorem longestZeros_spec (pieces : List ℕ) :
    (longestZeros pieces).1 + (longestZeros pieces).2 ≤ pieces.length ∧
    pieces.take (longestZeros pieces).1 ++ List.replicate (longestZeros pieces).2 0 ++
      pieces.drop ((longestZeros pieces).1 + (longestZeros pieces).2) = pieces := by
  induction pieces with
  | nil => exact ⟨le_refl _, rfl⟩
  | cons n rest ih =>
    rw [longestZeros_cons]
    split_ifs
    · -- The run at the start is the longest, or else the one that the rest has, one place on.
      obtain ⟨hlength, htake⟩ := take_leadingZeros (n :: rest)
      refine ⟨by simpa using hlength, ?_⟩
      rw [List.take_zero, List.nil_append, Nat.zero_add, ← htake, List.take_append_drop]
    · obtain ⟨hlength, hrest⟩ := ih
      refine ⟨?_, ?_⟩
      · rw [List.length_cons]
        omega
      · rw [Nat.add_right_comm, List.take_succ_cons, List.drop_succ_cons]
        exact congrArg (n :: ·) hrest

/-- What holds of the colon and of all digits holds of the characters of an address. -/
theorem forall_mem_renderIpv6 {P : Char → Prop} (hcolon : P ':')
    (hdigit : ∀ n < 16, P (hexChar n)) (pieces : List ℕ) : ∀ c ∈ renderIpv6 pieces, P c := by
  have hwritten : ∀ pieces, ∀ c ∈ writePieces pieces, P c := by
    intro pieces c hc
    obtain hsep | ⟨piece, hpiece, hc⟩ := mem_joinWith hc
    · exact List.mem_singleton.1 hsep ▸ hcolon
    · obtain ⟨n, -, rfl⟩ := List.mem_map.1 hpiece
      exact forall_mem_hexadecimal hdigit n c hc
  intro c hc
  rw [renderIpv6_eq] at hc
  -- With a run of zeros there are two colons in its place.
  split_ifs at hc
  · exact hwritten _ c hc
  · simp only [List.append_assoc, List.mem_append, List.mem_cons, List.not_mem_nil, or_false,
      or_self] at hc
    rcases hc with hc | rfl | hc
    · exact hwritten _ c hc
    · exact hcolon
    · exact hwritten _ c hc

theorem ipv6Piece?_hexadecimal {n : ℕ} (h : n < 16 ^ 4) : ipv6Piece? (hexadecimal n) = some n := by
  have hlength := length_hexadecimal_le (by decide) h
  unfold ipv6Piece?
  rw [if_neg (by simp [hexadecimal_ne_nil, hlength]), hexNumber?_hexadecimal]

theorem ipv6Pieces?_map_hexadecimal (embedded : Bool) {pieces : List ℕ}
    (h : ∀ n ∈ pieces, n < 16 ^ 4) :
    ipv6Pieces? embedded (pieces.map hexadecimal) = some pieces := by
  induction pieces with
  | nil => rfl
  | cons n rest ih =>
    have hpiece := ipv6Piece?_hexadecimal (h n List.mem_cons_self)
    cases rest with
    | nil =>
      have hdot : '.' ∉ hexadecimal n := not_mem_hexadecimal (by decide) n
      show (if embedded && (hexadecimal n).contains '.' then _ else _) = _
      rw [if_neg (by simp [hdot]), hpiece]
      rfl
    | cons m rest =>
      have hrest := ih fun k hk => h k (List.mem_cons_of_mem n hk)
      rw [List.map_cons] at hrest ⊢
      rw [List.map_cons, ipv6Pieces?, hpiece, hrest]
      · rfl
      · exact fun heq => nomatch heq

theorem writePieces_cons (n : ℕ) (rest : List ℕ) :
    writePieces (n :: rest) = hexadecimal n ++
      (if rest.isEmpty then [] else ':' :: writePieces rest) := by
  cases rest with
  | nil => exact (List.append_nil _).symm
  | cons m rest => simp [writePieces, joinWith]

/-- Pieces that have been written are read back, whether or not an address of version 4 may stand at
their end. -/
theorem ipv6Side?_writePieces (embedded : Bool) {pieces : List ℕ}
    (h : ∀ n ∈ pieces, n < 16 ^ 4) : ipv6Side? embedded (writePieces pieces) = some pieces := by
  cases pieces with
  | nil => rfl
  | cons n rest =>
    have hne : (n :: rest).map hexadecimal ≠ [] := List.cons_ne_nil _ _
    have hsplit : splitAt ':' (writePieces (n :: rest)) = (n :: rest).map hexadecimal := by
      refine splitAt_joinWith hne fun piece hpiece => ?_
      obtain ⟨m, -, rfl⟩ := List.mem_map.1 hpiece
      exact not_mem_hexadecimal (by decide) m
    have hsome : writePieces (n :: rest) ≠ [] := by
      rw [writePieces_cons]
      exact List.append_ne_nil_of_left_ne_nil (hexadecimal_ne_nil n) _
    unfold ipv6Side?
    rw [if_neg (by simpa using hsome), hsplit, ipv6Pieces?_map_hexadecimal embedded h]

theorem cutDoubleColon?_cons {c : Char} {s : List Char} (h : c ≠ ':' ∨ s.head? ≠ some ':') :
    cutDoubleColon? (c :: s) =
      (cutDoubleColon? s).map fun (before, after) => (c :: before, after) := by
  rw [cutDoubleColon?]
  rintro rest rfl rfl
  rcases h with h | h
  · exact h rfl
  · exact h rfl

/-- A text without a colon goes to the front of what stands before the double colon. -/
theorem cutDoubleColon?_append {l : List Char} (hl : ':' ∉ l) (s : List Char) :
    cutDoubleColon? (l ++ s) =
      (cutDoubleColon? s).map fun (before, after) => (l ++ before, after) := by
  induction l with
  | nil => simp
  | cons c l ih =>
    rw [List.mem_cons, not_or] at hl
    rw [List.cons_append, cutDoubleColon?_cons (Or.inl (Ne.symm hl.1)), ih hl.2, Option.map_map]
    rfl

/-- There is no double colon between pieces. -/
theorem cutDoubleColon?_writePieces (pieces : List ℕ) (s : List Char) :
    cutDoubleColon? (writePieces pieces ++ s) =
      (cutDoubleColon? s).map fun (before, after) => (writePieces pieces ++ before, after) := by
  have hcolon : ∀ n, ':' ∉ hexadecimal n := not_mem_hexadecimal (by decide)
  induction pieces with
  | nil => exact cutDoubleColon?_append List.not_mem_nil s
  | cons n rest ih =>
    cases rest with
    | nil => exact cutDoubleColon?_append (hcolon n) s
    | cons m rest =>
      -- the colon behind the first piece is followed by a digit
      have hhead : (writePieces (m :: rest) ++ s).head? ≠ some ':' := by
        obtain ⟨d, ds, hds⟩ := List.exists_cons_of_ne_nil (hexadecimal_ne_nil m)
        have hd : d ≠ ':' := fun heq => hcolon m (by rw [hds, heq]; exact List.mem_cons_self)
        rw [writePieces_cons, hds]
        simpa using hd
      rw [writePieces_cons n, if_neg (by simp), List.append_assoc,
        cutDoubleColon?_append (hcolon n), List.cons_append,
        cutDoubleColon?_cons (Or.inr hhead), ih, Option.map_map, Option.map_map]
      congr 1
      funext cut
      simp

/-- Eight pieces that have been written are read back. -/
theorem readIpv6?_writePieces {pieces : List ℕ} (h : IsAddress pieces) :
    readIpv6? (writePieces pieces) = some pieces := by
  have hcut := cutDoubleColon?_writePieces pieces []
  rw [List.append_nil] at hcut
  unfold readIpv6?
  rw [hcut]
  show ((ipv6Side? true (writePieces pieces)).bind fun pieces =>
    if pieces.length = 8 then some pieces else none) = some pieces
  rw [ipv6Side?_writePieces true h.piece, Option.bind_some, if_pos h.length]

/-- Pieces that have been written around a double colon are read back with zeros in its place. -/
theorem readIpv6?_writePieces_append (left right : List ℕ) (hleft : ∀ n ∈ left, n < 16 ^ 4)
    (hright : ∀ n ∈ right, n < 16 ^ 4) (hlength : left.length + right.length ≤ 7) :
    readIpv6? (writePieces left ++ ':' :: ':' :: writePieces right) =
      some (left ++ List.replicate (8 - left.length - right.length) 0 ++ right) := by
  have hcut : cutDoubleColon? (writePieces left ++ ':' :: ':' :: writePieces right) =
      some (writePieces left, writePieces right) := by
    rw [cutDoubleColon?_writePieces, cutDoubleColon?, Option.map_some]
    dsimp only
    rw [List.append_nil]
  unfold readIpv6?
  rw [hcut]
  dsimp only
  rw [ipv6Side?_writePieces false hleft, ipv6Side?_writePieces true hright]
  exact if_pos hlength

/-- An address of version 6 that has been written is read back. -/
theorem readIpv6?_renderIpv6 {pieces : List ℕ} (h : IsAddress pieces) :
    readIpv6? (renderIpv6 pieces) = some pieces := by
  rw [renderIpv6_eq]
  split_ifs with hshort
  · exact readIpv6?_writePieces h
  · obtain ⟨hwithin, hrun⟩ := longestZeros_spec pieces
    generalize (longestZeros pieces).1 = start at hwithin hrun ⊢
    generalize (longestZeros pieces).2 = length at hshort hwithin hrun ⊢
    rw [h.length] at hwithin
    have hleft : (pieces.take start).length = start :=
      List.length_take_of_le (by rw [h.length]; omega)
    have hright : (pieces.drop (start + length)).length = 8 - (start + length) := by
      rw [List.length_drop, h.length]
    -- what is left out is as long as the run of zeros
    have hzeros : 8 - start - (8 - (start + length)) = length := by omega
    have hread := readIpv6?_writePieces_append (pieces.take start)
      (pieces.drop (start + length)) (fun n hn => h.piece n (List.mem_of_mem_take hn))
      (fun n hn => h.piece n (List.mem_of_mem_drop hn)) (by omega)
    rw [hleft, hright, hzeros, hrun] at hread
    rw [List.append_assoc]
    exact hread

/-- The pieces of an embedded address have 16 bits each. -/
theorem lt_of_embeddedIpv4? {s : List Char} {pieces : List ℕ}
    (h : embeddedIpv4? s = some pieces) : ∀ n ∈ pieces, n < 16 ^ 4 := by
  have hbyte : ∀ s n, strictByte? s = some n → n ≤ 255 := by
    intro s n hn
    unfold strictByte? at hn
    split_ifs at hn with _ hle
    exact Option.some.inj hn ▸ hle
  unfold embeddedIpv4? at h
  split at h
  · rename_i a b c d hbytes
    have hle := forall_mem_of_mapM (fun part _ => hbyte part) hbytes
    obtain rfl := Option.some.inj h
    simp only [List.mem_cons, List.not_mem_nil, or_false, forall_eq_or_imp, forall_eq] at hle ⊢
    omega
  · exact nomatch h

theorem lt_of_ipv6Pieces? {embedded : Bool} {parts : List (List Char)} {pieces : List ℕ}
    (h : ipv6Pieces? embedded parts = some pieces) : ∀ n ∈ pieces, n < 16 ^ 4 := by
  have hpiece : ∀ {s n}, ipv6Piece? s = some n → n < 16 ^ 4 := by
    intro s n hn
    unfold ipv6Piece? at hn
    split_ifs at hn with hlength
    have hle : s.length ≤ 4 := by simp at hlength; omega
    exact lt_of_lt_of_le (lt_of_hexNumber? hn) (Nat.pow_le_pow_right (by decide) hle)
  induction parts generalizing pieces with
  | nil =>
    obtain rfl := Option.some.inj h
    exact fun n hn => nomatch hn
  | cons s rest ih =>
    cases rest with
    | nil =>
      have h' : (if embedded && s.contains '.' then embeddedIpv4? s
          else (ipv6Piece? s).map ([·])) = some pieces := h
      split_ifs at h'
      · -- The last part may be an address of the older kind, which stands for two pieces.
        exact lt_of_embeddedIpv4? h'
      · obtain ⟨n, hn, rfl⟩ := Option.map_eq_some_iff.1 h'
        exact List.forall_mem_singleton.2 (hpiece hn)
    | cons s' rest =>
      rw [ipv6Pieces?] at h
      · obtain ⟨n, hn, h⟩ := Option.bind_eq_some_iff.1 h
        obtain ⟨pieces', hpieces, h⟩ := Option.bind_eq_some_iff.1 h
        obtain rfl := Option.some.inj h
        exact List.forall_mem_cons.2 ⟨hpiece hn, ih hpieces⟩
      · exact fun heq => nomatch heq

theorem lt_of_ipv6Side? {embedded : Bool} {s : List Char} {pieces : List ℕ}
    (h : ipv6Side? embedded s = some pieces) : ∀ n ∈ pieces, n < 16 ^ 4 := by
  unfold ipv6Side? at h
  split_ifs at h
  · obtain rfl := Option.some.inj h
    exact fun n hn => nomatch hn
  · exact lt_of_ipv6Pieces? h

theorem isAddress_of_readIpv6? {s : List Char} {pieces : List ℕ} (h : readIpv6? s = some pieces) :
    IsAddress pieces := by
  unfold readIpv6? at h
  split at h
  · obtain ⟨pieces', hside, h⟩ := Option.bind_eq_some_iff.1 h
    split_ifs at h with hlength
    obtain rfl := Option.some.inj h
    exact ⟨hlength, lt_of_ipv6Side? hside⟩
  · rename_i before after _
    obtain ⟨left, hleft, h⟩ := Option.bind_eq_some_iff.1 h
    obtain ⟨right, hright, h⟩ := Option.bind_eq_some_iff.1 h
    split_ifs at h with hlength
    obtain rfl := Option.some.inj h
    -- The zeros between the sides fill the address up.
    refine ⟨by simp; omega, fun n hn => ?_⟩
    simp only [List.append_assoc, List.mem_append, List.mem_replicate] at hn
    rcases hn with hn | ⟨-, rfl⟩ | hn
    · exact lt_of_ipv6Side? hleft n hn
    · decide
    · exact lt_of_ipv6Side? hright n hn

end Phrasebook.Url
