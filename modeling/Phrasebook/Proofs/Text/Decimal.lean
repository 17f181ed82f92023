import Phrasebook.Text.Decimal
import Mathlib.Data.List.Induction
import Mathlib.Data.Nat.Digits.Defs

/-!
# Reading numerals back

A number is written with one digit at least and with digits only (`decimal_ne_nil`,
`isDigit_of_mem_decimal`), and the value of its digits is the number (`digitsValue_decimal`).
The value of any run of digits is the library's `Nat.ofDigits` of them, least significant first
(`digitsValue_eq_ofDigits`).  Only zero begins with a zero (`head?_decimal_ne`).

A hexadecimal digit has its value, too (`hexValue?_upperHexChar`), a number that is written with
hexadecimal digits is read back (`hexNumber?_hexadecimal`), and the number of digits bounds the
number (`length_hexadecimal_le`, `lt_of_hexNumber?`).
-/

namespace Phrasebook.Text

theorem isDigit_digitChar : ∀ n < 10, isDigit (digitChar n) = true := by decide

theorem digitValue_digitChar : ∀ n < 10, digitValue (digitChar n) = n := by decide

/-- Each digit is that of its value. -/
theorem exists_digitChar {c : Char} (h : isDigit c = true) : ∃ n < 10, c = digitChar n := by
  have hc := isDigit_iff.1 h
  refine ⟨c.toNat - 0x30, by omega, ?_⟩
  show c = Char.ofNat (0x30 + (c.toNat - 0x30))
  rw [Nat.add_sub_of_le hc.1, Char.ofNat_toNat]

/-- What holds of all digits holds of a digit. -/
theorem forall_isDigit {P : Char → Prop} (h : ∀ n < 10, P (digitChar n)) {c : Char}
    (hc : isDigit c = true) : P c := by
  obtain ⟨n, hn, rfl⟩ := exists_digitChar hc
  exact h n hn

theorem digitsValue_append_singleton (ds : List Char) (d : Char) :
    digitsValue (ds ++ [d]) = 10 * digitsValue ds + digitValue d := by
  unfold digitsValue
  rw [List.foldl_append]
  rfl

theorem digitsValue_eq_ofDigits (ds : List Char) :
    digitsValue ds = Nat.ofDigits 10 (ds.map digitValue).reverse := by
  rw [Nat.ofDigits_eq_foldr, List.foldr_reverse, List.foldl_map, digitsValue]
  simp only [Nat.cast_id, Nat.add_comm]

theorem decimal_ne_nil (n : ℕ) : decimal n ≠ [] := by
  rw [decimal]
  split
  · exact List.cons_ne_nil _ _
  · exact List.append_ne_nil_of_right_ne_nil _ (List.cons_ne_nil _ _)

theorem isDigit_of_mem_decimal {n : ℕ} {c : Char} (h : c ∈ decimal n) : isDigit c = true := by
  induction n using decimal.induct with
  | case1 n hn =>
    rw [decimal, dif_pos hn, List.mem_singleton] at h
    rw [h]
    exact isDigit_digitChar n hn
  | case2 n hn ih =>
    rw [decimal, dif_neg hn, List.mem_append, List.mem_singleton] at h
    rcases h with h | rfl
    · exact ih h
    · exact isDigit_digitChar (n % 10) (Nat.mod_lt n (by decide))

theorem not_mem_decimal {c : Char} (hc : isDigit c = false) (n : ℕ) : c ∉ decimal n :=
  fun hmem => Bool.false_ne_true (hc.symm.trans (isDigit_of_mem_decimal hmem))

/-- A number that has been written in decimal is read back. -/
theorem digitsValue_decimal (n : ℕ) : digitsValue (decimal n) = n := by
  induction n using decimal.induct with
  | case1 n hn =>
    rw [decimal, dif_pos hn]
    show 10 * 0 + digitValue (digitChar n) = n
    rw [digitValue_digitChar n hn]
    omega
  | case2 n hn ih =>
    have hlast : digitValue (digitChar (n % 10)) = n % 10 :=
      digitValue_digitChar _ (Nat.mod_lt n (by decide))
    rw [decimal, dif_neg hn, digitsValue_append_singleton, ih, hlast]
    omega

theorem decimal_injective : Function.Injective decimal :=
  Function.LeftInverse.injective digitsValue_decimal

/-- A number that is not zero does not begin with a zero. -/
theorem head?_decimal_ne {n : ℕ} (h : 0 < n) : (decimal n).head? ≠ some '0' := by
  induction n using decimal.induct with
  | case1 n hn =>
    have hdigit : ∀ n < 10, 0 < n → digitChar n ≠ '0' := by decide
    rw [decimal, dif_pos hn]
    simpa using hdigit n hn h
  | case2 n hn ih =>
    obtain ⟨d, ds, hds⟩ := List.exists_cons_of_ne_nil (decimal_ne_nil (n / 10))
    rw [hds] at ih
    rw [decimal, dif_neg hn, hds]
    exact ih (by omega)

/-! ### Hexadecimal digits -/

theorem hexValue?_upperHexChar : ∀ n < 16, hexValue? (upperHexChar n) = some n := by decide

theorem hexValue?_hexChar : ∀ n < 16, hexValue? (hexChar n) = some n := by decide

theorem hexadecimal_ne_nil (n : ℕ) : hexadecimal n ≠ [] := by
  rw [hexadecimal]
  split
  · exact List.cons_ne_nil _ _
  · exact List.append_ne_nil_of_right_ne_nil _ (List.cons_ne_nil _ _)

/-- What holds of all hexadecimal digits holds of those of a number. -/
theorem forall_mem_hexadecimal {P : Char → Prop} (h : ∀ n < 16, P (hexChar n)) (n : ℕ) :
    ∀ c ∈ hexadecimal n, P c := by
  intro c hc
  induction n using hexadecimal.induct with
  | case1 n hn =>
    rw [hexadecimal, dif_pos hn, List.mem_singleton] at hc
    exact hc ▸ h n hn
  | case2 n hn ih =>
    rw [hexadecimal, dif_neg hn, List.mem_append, List.mem_singleton] at hc
    rcases hc with hc | rfl
    · exact ih hc
    · exact h (n % 16) (Nat.mod_lt n (by decide))

theorem not_mem_hexadecimal {c : Char} (hc : ∀ n < 16, hexChar n ≠ c) (n : ℕ) :
    c ∉ hexadecimal n :=
  fun hmem => forall_mem_hexadecimal (P := (· ≠ c)) hc n c hmem rfl

theorem hexNumber?_append_singleton (ds : List Char) (d : Char) :
    hexNumber? (ds ++ [d]) = do return 16 * (← hexNumber? ds) + (← hexValue? d) := by
  unfold hexNumber?
  rw [List.foldl_append]
  rfl

/-- A number that has been written with hexadecimal digits is read back. -/
theorem hexNumber?_hexadecimal (n : ℕ) : hexNumber? (hexadecimal n) = some n := by
  induction n using hexadecimal.induct with
  | case1 n hn =>
    rw [hexadecimal, dif_pos hn]
    show (hexValue? (hexChar n)).bind (fun d => some (16 * 0 + d)) = some n
    rw [hexValue?_hexChar n hn]
    simp
  | case2 n hn ih =>
    have hlast := hexValue?_hexChar (n % 16) (Nat.mod_lt n (by decide))
    rw [hexadecimal, dif_neg hn, hexNumber?_append_singleton, ih, hlast]
    show some (16 * (n / 16) + n % 16) = some n
    rw [Nat.div_add_mod]

/-- A number below `16 ^ k` has `k` hexadecimal digits at most, and at least one. -/
theorem length_hexadecimal_le {n k : ℕ} (hk : 0 < k) (h : n < 16 ^ k) :
    (hexadecimal n).length ≤ k := by
  induction n using hexadecimal.induct generalizing k with
  | case1 n hn =>
    rw [hexadecimal, dif_pos hn]
    exact hk
  | case2 n hn ih =>
    rw [hexadecimal, dif_neg hn, List.length_append, List.length_singleton]
    obtain ⟨k, rfl⟩ := Nat.exists_eq_add_of_lt hk
    rw [Nat.zero_add, pow_succ] at h
    have hk' : 0 < k := by
      rcases Nat.eq_zero_or_pos k with rfl | hpos
      · omega
      · exact hpos
    have := ih hk' (by omega)
    omega

theorem hexValue?_lt {c : Char} {d : ℕ} (h : hexValue? c = some d) : d < 16 := by
  have hrange : ∀ {low high : Char}, (decide (low ≤ c) && decide (c ≤ high)) = true →
      low.toNat ≤ c.toNat ∧ c.toNat ≤ high.toNat := by
    intro low high hc
    rw [Bool.and_eq_true, decide_eq_true_eq, decide_eq_true_eq] at hc
    exact hc
  unfold hexValue? at h
  split_ifs at h with hdigit hlower hupper
  · obtain ⟨-, hhigh⟩ := hrange hdigit
    obtain rfl := Option.some.inj h
    exact Nat.lt_of_le_of_lt (Nat.sub_le_sub_right hhigh _) (by decide)
  · obtain ⟨-, hhigh⟩ := hrange hlower
    obtain rfl := Option.some.inj h
    exact Nat.lt_of_le_of_lt (Nat.add_le_add_right (Nat.sub_le_sub_right hhigh _) _) (by decide)
  · obtain ⟨-, hhigh⟩ := hrange hupper
    obtain rfl := Option.some.inj h
    exact Nat.lt_of_le_of_lt (Nat.add_le_add_right (Nat.sub_le_sub_right hhigh _) _) (by decide)

/-- The value of `k` hexadecimal digits is below `16 ^ k`. -/
theorem lt_of_hexNumber? {ds : List Char} {n : ℕ} (h : hexNumber? ds = some n) :
    n < 16 ^ ds.length := by
  induction ds using List.reverseRecOn generalizing n with
  | nil =>
    obtain rfl := Option.some.inj h
    decide
  | append_singleton ds d ih =>
    rw [hexNumber?_append_singleton] at h
    obtain ⟨m, hm, hd⟩ := Option.bind_eq_some_iff.1 h
    obtain ⟨v, hv, hn⟩ := Option.bind_eq_some_iff.1 hd
    have hbefore := ih hm
    have hlast := hexValue?_lt hv
    obtain rfl := Option.some.inj hn
    rw [List.length_append, List.length_singleton, pow_succ]
    omega

end Phrasebook.Text
