import Phrasebook.Proofs.Text.Split
import Phrasebook.Proofs.Text.Utf8
import Phrasebook.Url.Domain.Punycode
import Mathlib.Tactic.Ring

/-!
# Reading labels back

A label with characters beyond ASCII that has been written in ASCII is read back, if it has at most
1000 characters (`decode?_encode`).  Longer ones may need numbers that are too large.

Writing goes over the label once for each code point, and reading puts in one character after the
other.  While code point `n` is written and the places `p` have been passed, of those in front of
the places `q`, what has been read are the characters of `p` up to `n` and those of `q` below `n`;
and the distance that has been counted is what is missing to the next place where `n` could be put
in.  `InStep` says so.  Each place that is passed keeps it (`InStep.pass`), and so do passes for one
code point after the other (`InStep.passAll`).

* `Reading.run_writeNumber`: a number is read back with anything behind it.
* `forall_mem_encode`: what a label is written with.
-/

namespace Phrasebook.Url.Domain.Punycode

open Phrasebook.Text

variable {bias k weight : ℕ}

/-! ### Numbers -/

theorem value?_digit : ∀ d < 36, value? (digit d) = some d := by decide

theorem threshold_le (bias k : ℕ) : threshold bias k ≤ 26 := by
  unfold threshold
  omega

/-- A number that is not below its threshold is split into a digit and the number behind it. -/
theorem digit_add_rest {t n : ℕ} (hone : 1 ≤ t) (htop : t ≤ 26) (h : t ≤ n) :
    t + (n - t) % (36 - t) < 36 ∧
      t + (n - t) % (36 - t) + (36 - t) * ((n - t) / (36 - t)) = n ∧ (n - t) / (36 - t) < n := by
  have hmod := Nat.mod_lt (n - t) (show 0 < 36 - t by omega)
  have hsplit := Nat.mod_add_div (n - t) (36 - t)
  have hdiv := Nat.div_le_self (n - t) (36 - t)
  omega

/-- What holds of all digits holds of those of a number. -/
theorem forall_mem_writeNumber {P : Char → Prop} (h : ∀ d < 36, P (digit d)) (bias k n : ℕ) :
    ∀ c ∈ writeNumber bias k n, P c := by
  induction k, n using writeNumber.induct bias with
  | case1 k n t hlt =>
    intro c hc
    rw [writeNumber, if_pos hlt, List.mem_singleton] at hc
    exact hc ▸ h n (hlt.trans (Nat.lt_of_le_of_lt (threshold_le bias k) (by decide)))
  | case2 k n t hlt ih =>
    intro c hc
    rw [writeNumber, if_neg hlt] at hc
    rcases List.mem_cons.1 hc with rfl | hc
    · exact h _ (digit_add_rest (one_le_threshold bias k) (threshold_le bias k)
        (Nat.le_of_not_lt hlt)).1
    · exact ih c hc

/-- The weight of a digit is a power of 35 as long as no digit before it had another threshold than
1, and with another one the threshold is 26 from the next digit on. -/
def Weighted (bias k weight : ℕ) : Prop :=
  threshold bias k = 26 ∨ ∃ j, weight = 35 ^ j

theorem Weighted.next (h : Weighted bias k weight) :
    Weighted bias (k + 36) (weight * (36 - threshold bias k)) := by
  by_cases hone : threshold bias k = 1
  · obtain htop | ⟨j, rfl⟩ := h
    · omega
    · exact Or.inr ⟨j + 1, by rw [hone, pow_succ]⟩
  · refine Or.inl ?_
    unfold threshold at hone ⊢
    omega

/-- If the number is small enough, then so are its weights. -/
theorem Weighted.mul_lt (h : Weighted bias k weight)
    (hbound : threshold bias k * weight < 35 ^ 6) :
    weight * (36 - threshold bias k) < numberBound := by
  have hone := one_le_threshold bias k
  obtain htop | ⟨j, rfl⟩ := h
  · rw [htop] at hbound ⊢
    unfold numberBound
    omega
  · -- The power is less than the sixth, so the next one is not more.
    have hpow : 35 ^ j < 35 ^ 6 :=
      Nat.lt_of_le_of_lt (Nat.le_mul_of_pos_left _ hone) hbound
    have hj : j < 6 := (Nat.pow_lt_pow_iff_right (by decide)).1 hpow
    calc 35 ^ j * (36 - threshold bias k) ≤ 35 ^ j * 35 := Nat.mul_le_mul_left _ (by omega)
      _ = 35 ^ (j + 1) := (pow_succ 35 j).symm
      _ ≤ 35 ^ 6 := Nat.pow_le_pow_right (by decide) hj
      _ < numberBound := by decide

/-- A number that has been written is read back, with anything behind it. -/
theorem Reading.run_writeNumber (first : Bool) (rest : List Char) (n : ℕ) (r : Reading)
    (hweight : Weighted r.bias r.k r.weight)
    (hbound : r.place + r.number + n * r.weight < 35 ^ 6) :
    r.run first (writeNumber r.bias r.k n ++ rest) =
      (({ r with number := r.number + n * r.weight } : Reading).finish? first).bind fun r =>
        r.run false rest := by
  have hfits : (35 : ℕ) ^ 6 < numberBound := by decide
  induction n using Nat.strongRecOn generalizing r with
  | ind n ih =>
    have hone := one_le_threshold r.bias r.k
    have hle := threshold_le r.bias r.k
    rw [writeNumber]
    generalize ht : threshold r.bias r.k = t at hone hle
    by_cases hlt : n < t
    · -- the last digit
      have hnumber : ¬ numberBound ≤ r.place + (r.number + n * r.weight) := by omega
      rw [if_pos hlt, List.singleton_append, Reading.run, value?_digit n (by omega)]
      dsimp only
      rw [ht, if_neg hnumber, if_pos hlt]
      cases ({ r with number := r.number + n * r.weight } : Reading).finish? first <;> rfl
    · obtain ⟨hdigit, hsplit, hless⟩ := digit_add_rest hone hle (Nat.le_of_not_lt hlt)
      have hge : t ≤ t + (n - t) % (36 - t) := Nat.le_add_right _ _
      generalize t + (n - t) % (36 - t) = d at hdigit hsplit hge ⊢
      generalize (n - t) / (36 - t) = n' at hsplit hless ⊢
      have htotal : r.number + d * r.weight + n' * (r.weight * (36 - t)) =
          r.number + n * r.weight := by
        rw [← hsplit]
        ring
      have hnext : r.place + (r.number + d * r.weight) + n' * (r.weight * (36 - t)) < 35 ^ 6 := by
        omega
      have hnumber : ¬ numberBound ≤ r.place + (r.number + d * r.weight) := by omega
      have hweights : ¬ numberBound ≤ r.weight * (36 - t) := by
        have hthreshold : t * r.weight < 35 ^ 6 := by
          have := Nat.mul_le_mul_right r.weight (Nat.le_of_not_lt hlt)
          omega
        have := hweight.mul_lt (by rwa [ht])
        rw [ht] at this
        exact Nat.not_le.2 this
      rw [if_neg hlt, List.cons_append, Reading.run, value?_digit d hdigit]
      dsimp only
      rw [ht, if_neg hnumber, if_neg (Nat.not_lt.2 hge), if_neg hweights]
      have hrest := ih n' hless
        { r with number := r.number + d * r.weight, weight := r.weight * (36 - t), k := r.k + 36 }
        (ht ▸ hweight.next) hnext
      dsimp only at hrest
      rw [hrest, htotal]
      rfl

/-! ### One place after the other -/

theorem putAt_append (c : Char) (p q : List Char) : putAt c p.length (p ++ q) = p ++ c :: q := by
  induction p with
  | nil => cases q <;> rfl
  | cons d p ih => exact congrArg (d :: ·) ih

theorem length_putAt (c : Char) (i : ℕ) (s : List Char) :
    (putAt c i s).length = s.length + 1 := by
  induction s generalizing i with
  | nil => cases i <;> rfl
  | cons d s ih =>
    cases i with
    | zero => rfl
    | succ i => exact congrArg (· + 1) (ih i)

/-- The distance to the place `i` for a character puts it there. -/
theorem Reading.run_distance (bias : ℕ) (first : Bool) (rest : List Char) {chars : List Char}
    {c : Char} {place code n i : ℕ} (hcode : code ≤ c.toNat) (hi : i ≤ chars.length)
    (hplace : place + n = (c.toNat - code) * (chars.length + 1) + i)
    (hbound : place + n < 35 ^ 6) :
    (⟨chars, place, code, bias, 0, 1, 36⟩ : Reading).run first (writeNumber bias 36 n ++ rest) =
      (⟨putAt c i chars, i + 1, c.toNat, adapt n (chars.length + 1) first, 0, 1, 36⟩ :
        Reading).run false rest := by
  have hpos : 0 < chars.length + 1 := Nat.succ_pos _
  have hdiv : (place + n) / (chars.length + 1) = c.toNat - code := by
    rw [hplace, Nat.mul_comm, Nat.mul_add_div hpos, Nat.div_eq_of_lt (Nat.lt_succ_of_le hi),
      Nat.add_zero]
  have hmod : (place + n) % (chars.length + 1) = i := by
    rw [hplace, Nat.mul_comm, Nat.mul_add_mod, Nat.mod_eq_of_lt (Nat.lt_succ_of_le hi)]
  have hvalid : ¬ (decide (0x110000 ≤ c.toNat) ||
      (decide (0xD800 ≤ c.toNat) && decide (c.toNat < 0xE000))) = true := by
    have hchar := Utf8.toNat_valid c
    simp only [Bool.or_eq_true, Bool.and_eq_true, decide_eq_true_eq]
    omega
  -- Quotient and remainder of the distance are the code point and the place.
  have hfinish : (⟨chars, place, code, bias, n, 1, 36⟩ : Reading).finish? first =
      some ⟨putAt c i chars, i + 1, c.toNat, adapt n (chars.length + 1) first, 0, 1, 36⟩ := by
    unfold Reading.finish?
    dsimp only
    rw [hdiv, hmod, Nat.add_sub_of_le hcode, if_neg hvalid, Char.ofNat_toNat]
  have hnumber := Reading.run_writeNumber first rest n ⟨chars, place, code, bias, 0, 1, 36⟩
    (Or.inr ⟨0, rfl⟩) (by simpa using hbound)
  dsimp only at hnumber
  rw [hnumber, Nat.zero_add, Nat.mul_one, hfinish, Option.bind_some]

/-- The characters of a label that have been read when code point `n` is being written: up to `n`
from the places that have been passed, and below `n` from the others. -/
def readSoFar (n : ℕ) (p q : List Char) : List Char :=
  p.filter (fun c => c.toNat ≤ n) ++ q.filter (fun c => c.toNat < n)

theorem length_readSoFar_le (n : ℕ) (p q : List Char) :
    (readSoFar n p q).length ≤ (p ++ q).length := by
  unfold readSoFar
  rw [List.length_append, List.length_append]
  exact Nat.add_le_add (List.length_filter_le _ p) (List.length_filter_le _ q)

/-- The character at the next place is put in behind what has been read of the places in front. -/
theorem readSoFar_append_singleton (c : Char) (p q : List Char) :
    readSoFar c.toNat (p ++ [c]) q = putAt c (p.filter fun d => d.toNat ≤ c.toNat).length
      (readSoFar c.toNat p (c :: q)) := by
  have hnext : (c :: q).filter (fun d => d.toNat < c.toNat) =
      q.filter fun d => d.toNat < c.toNat := by simp
  rw [readSoFar, readSoFar, hnext, putAt_append]
  simp

/-- Reading is in step with writing the code point `n` behind the places `p` and before the places
`q`, if there were `basic` characters at the start; `code` was put in last, in front of `place`. -/
structure InStep (start : Reading) (basic n : ℕ) (p q : List Char) (w : Writing)
    (place code : ℕ) : Prop where
  basic_le : basic ≤ w.count
  code_le : code ≤ n
  count : w.count = (readSoFar n p q).length
  distance : place + w.distance =
    (n - code) * (w.count + 1) + (p.filter fun c => c.toNat ≤ n).length
  digits : ∀ c ∈ w.digits, ∃ d < 36, c = digit d
  run : ∀ rest, start.run true (w.digits ++ rest) =
    (⟨readSoFar n p q, place, code, w.bias, 0, 1, 36⟩ : Reading).run (w.count = basic) rest

namespace InStep

variable {start : Reading} {basic n place code : ℕ} {p q s : List Char} {c : Char} {w : Writing}

/-- The character at the next place is written, and read. -/
theorem write (h : InStep start basic c.toNat p (c :: q) w place code)
    (hlength : (p ++ c :: q).length ≤ 1000) :
    InStep start basic c.toNat (p ++ [c]) q
      ⟨w.digits ++ writeNumber w.bias 36 w.distance, 0,
        adapt w.distance (w.count + 1) (w.count = basic), w.count + 1⟩
      ((p.filter fun d => d.toNat ≤ c.toNat).length + 1) c.toNat := by
  have hread := readSoFar_append_singleton c p q
  have hplace : (p.filter fun d => d.toNat ≤ c.toNat).length ≤ w.count := by
    rw [h.count, readSoFar, List.length_append]
    exact Nat.le_add_right _ _
  have hcount : (readSoFar c.toNat (p ++ [c]) q).length = w.count + 1 := by
    rw [hread, length_putAt, h.count]
  have hsize : w.count + 1 ≤ 1000 := by
    have hle := length_readSoFar_le c.toNat (p ++ [c]) q
    rw [hcount, List.append_assoc, List.singleton_append] at hle
    exact hle.trans hlength
  have hvalid : c.toNat < 0x110000 := by
    have hchar := Utf8.toNat_valid c
    omega
  refine ⟨Nat.le_succ_of_le h.basic_le, le_rfl, hcount.symm, ?_, ?_, fun rest => ?_⟩
  · simp
  · intro d hd
    rcases List.mem_append.1 hd with hd | hd
    · exact h.digits d hd
    · exact forall_mem_writeNumber (P := fun c => ∃ d < 36, c = digit d)
        (fun d hd => ⟨d, hd, rfl⟩) _ _ _ d hd
  · -- The number is the distance to the place behind those that have been passed.
    have hbound : place + w.distance < 35 ^ 6 := by
      have hmul : (c.toNat - code) * (w.count + 1) ≤ 0x110000 * 1000 :=
        Nat.mul_le_mul (by omega) hsize
      have := h.distance
      omega
    have hrun := Reading.run_distance w.bias (decide (w.count = basic)) rest h.code_le
      (hplace.trans_eq h.count) (h.distance.trans (by rw [h.count])) hbound
    have hfirst : decide (w.count + 1 = basic) = false :=
      decide_eq_false (Nat.ne_of_gt (Nat.lt_succ_of_le h.basic_le))
    rw [List.append_assoc, h.run, hrun, hread, hfirst, ← h.count]

/-- A place that is passed keeps reading in step. -/
theorem pass (h : InStep start basic n p (c :: q) w place code)
    (hlength : (p ++ c :: q).length ≤ 1000) :
    ∃ place code, InStep start basic n (p ++ [c]) q (w.pass basic n c) place code := by
  unfold Writing.pass
  split_ifs with hlt heq
  · -- A character below is in the text already, so there is one place more in front of the next.
    have hread : readSoFar n (p ++ [c]) q = readSoFar n p (c :: q) := by
      simp [readSoFar, hlt, hlt.le]
    refine ⟨place, code, h.basic_le, h.code_le, hread ▸ h.count, ?_, h.digits, hread ▸ h.run⟩
    have := h.distance
    simp [List.filter_append, hlt.le]
    omega
  · -- The code point itself is written.
    subst heq
    exact ⟨_, _, h.write hlength⟩
  · -- A character above is not there yet.
    have hread : readSoFar n (p ++ [c]) q = readSoFar n p (c :: q) := by
      have hle : ¬ c.toNat ≤ n := by omega
      simp [readSoFar, hlt, hle]
    refine ⟨place, code, h.basic_le, h.code_le, hread ▸ h.count, ?_, h.digits, hread ▸ h.run⟩
    have hle : ¬ c.toNat ≤ n := by omega
    have := h.distance
    simp [List.filter_append, hle]
    omega

theorem foldl_pass (h : InStep start basic n p q w place code) (hlength : (p ++ q).length ≤ 1000) :
    ∃ place code,
      InStep start basic n (p ++ q) [] (q.foldl (Writing.pass basic n) w) place code := by
  induction q generalizing p w place code with
  | nil => exact ⟨place, code, by rwa [List.append_nil]⟩
  | cons c q ih =>
    obtain ⟨place, code, h⟩ := h.pass hlength
    have := ih h (by simpa using hlength)
    rwa [List.append_assoc, List.singleton_append] at this

/-- Behind the last place, the next code point is one place away. -/
theorem next (h : InStep start basic n s [] w place code) :
    InStep start basic (n + 1) [] s { w with distance := w.distance + 1 } place code := by
  have hread : readSoFar (n + 1) [] s = readSoFar n s [] := by
    simp only [readSoFar, Nat.lt_succ_iff, List.filter_nil, List.nil_append, List.append_nil]
  have hcount : w.count = (s.filter fun c => c.toNat ≤ n).length := by
    simpa [readSoFar] using h.count
  refine ⟨h.basic_le, Nat.le_succ_of_le h.code_le, hread ▸ h.count, ?_, h.digits, hread ▸ h.run⟩
  have hcode : n + 1 - code = n - code + 1 := Nat.succ_sub h.code_le
  have := h.distance
  rw [List.filter_nil, List.length_nil, hcode, Nat.add_mul, Nat.one_mul]
  dsimp only
  omega

/-- Code points that the label does not have are passed over at once. -/
theorem skip {m : ℕ} (h : InStep start basic n [] s w place code) (hle : n ≤ m)
    (hnone : ∀ c ∈ s, c.toNat < m → c.toNat < n) :
    InStep start basic m [] s { w with distance := w.distance + (m - n) * (w.count + 1) }
      place code := by
  have hread : readSoFar m [] s = readSoFar n [] s := by
    have hfilter : s.filter (fun c => c.toNat < m) = s.filter (fun c => c.toNat < n) :=
      List.filter_congr fun c hc =>
        decide_eq_decide.2 ⟨hnone c hc, fun hlt => Nat.lt_of_lt_of_le hlt hle⟩
    simp only [readSoFar, hfilter, List.filter_nil]
  refine ⟨h.basic_le, h.code_le.trans hle, hread ▸ h.count, ?_, h.digits, hread ▸ h.run⟩
  have hcode : m - code = n - code + (m - n) := by
    have := h.code_le
    omega
  have := h.distance
  rw [hcode, Nat.add_mul]
  simp only [List.filter_nil, List.length_nil] at this ⊢
  omega

/-- Passes for all code points of a label from `n` on keep reading in step to the end. -/
theorem passAll {ns : List ℕ} (h : InStep start basic n [] s w place code)
    (hlength : s.length ≤ 1000) (hsorted : ns.Pairwise (· < ·)) (hle : ∀ m ∈ ns, n ≤ m)
    (hall : ∀ c ∈ s, n ≤ c.toNat → c.toNat ∈ ns) :
    ∃ m place code, (∀ c ∈ s, c.toNat < m) ∧
      InStep start basic m [] s (Writing.passAll s basic ns n w) place code := by
  induction ns generalizing n w place code with
  | nil =>
    exact ⟨n, place, code, fun c hc => Nat.lt_of_not_le fun hge =>
      absurd (hall c hc hge) List.not_mem_nil, h⟩
  | cons m ns ih =>
    obtain ⟨hm, hsorted⟩ := List.pairwise_cons.1 hsorted
    -- There is no code point of the label between `n` and the next one.
    have hnone : ∀ c ∈ s, c.toNat < m → c.toNat < n := by
      intro c hc hlt
      by_contra hge
      rcases List.mem_cons.1 (hall c hc (Nat.le_of_not_lt hge)) with heq | hmem
      · exact absurd heq (Nat.ne_of_lt hlt)
      · exact absurd (hm _ hmem) (Nat.not_lt_of_lt hlt)
    obtain ⟨place, code, hpass⟩ :=
      (h.skip (hle m List.mem_cons_self) hnone).foldl_pass (by simpa using hlength)
    refine ih hpass.next hsorted (fun k hk => hm k hk) fun c hc hge => ?_
    rcases List.mem_cons.1 (hall c hc (by have := hle m List.mem_cons_self; omega)) with heq | hmem
    · omega
    · exact hmem

end InStep

/-! ### Whole labels -/

theorem mem_insert {n m : ℕ} {ns : List ℕ} : m ∈ insert n ns ↔ m = n ∨ m ∈ ns := by
  induction ns with
  | nil => simp [insert]
  | cons k ns ih =>
    unfold insert
    split_ifs with hlt heq
    · simp
    · subst heq
      simp
    · simp only [List.mem_cons, ih]
      tauto

theorem pairwise_insert (n : ℕ) {ns : List ℕ} (h : ns.Pairwise (· < ·)) :
    (insert n ns).Pairwise (· < ·) := by
  induction ns with
  | nil => exact List.pairwise_singleton _ _
  | cons k ns ih =>
    obtain ⟨hk, hns⟩ := List.pairwise_cons.1 h
    unfold insert
    split_ifs with hlt heq
    · refine List.pairwise_cons.2 ⟨fun m hm => ?_, h⟩
      rcases List.mem_cons.1 hm with rfl | hm
      · exact hlt
      · exact hlt.trans (hk m hm)
    · exact h
    · refine List.pairwise_cons.2 ⟨fun m hm => ?_, ih hns⟩
      rcases mem_insert.1 hm with rfl | hm
      · omega
      · exact hk m hm

/-- The code points beyond ASCII of a label, in order. -/
def codePoints (s : List Char) : List ℕ :=
  (s.filter fun c => 0x80 ≤ c.toNat).foldl (fun acc c => insert c.toNat acc) []

theorem foldl_insert (s : List Char) {ns : List ℕ} (h : ns.Pairwise (· < ·)) :
    (s.foldl (fun acc c => insert c.toNat acc) ns).Pairwise (· < ·) ∧
      ∀ m, m ∈ s.foldl (fun acc c => insert c.toNat acc) ns ↔ m ∈ ns ∨ ∃ c ∈ s, c.toNat = m := by
  induction s generalizing ns with
  | nil => exact ⟨h, fun m => by simp⟩
  | cons c s ih =>
    obtain ⟨hsorted, hmem⟩ := ih (pairwise_insert c.toNat h)
    refine ⟨hsorted, fun m => (hmem m).trans ?_⟩
    rw [mem_insert]
    simp only [List.mem_cons, exists_eq_or_imp, @eq_comm _ m]
    tauto

theorem pairwise_codePoints (s : List Char) : (codePoints s).Pairwise (· < ·) :=
  (foldl_insert _ List.Pairwise.nil).1

theorem mem_codePoints {s : List Char} {n : ℕ} :
    n ∈ codePoints s ↔ 0x80 ≤ n ∧ ∃ c ∈ s, c.toNat = n := by
  unfold codePoints
  rw [(foldl_insert _ List.Pairwise.nil).2]
  constructor
  · rintro (hmem | ⟨c, hc, rfl⟩)
    · exact absurd hmem List.not_mem_nil
    · exact ⟨by simpa using (List.mem_filter.1 hc).2, c, (List.mem_filter.1 hc).1, rfl⟩
  · rintro ⟨hle, c, hc, rfl⟩
    exact Or.inr ⟨c, List.mem_filter.2 ⟨hc, decide_eq_true hle⟩, rfl⟩

/-- The ASCII characters of a label. -/
def basicPart (s : List Char) : List Char :=
  s.filter fun c => c.toNat < 0x80

/-- The digits of the characters beyond ASCII. -/
def extendedPart (s : List Char) : List Char :=
  (Writing.passAll s (basicPart s).length (codePoints s) 0x80
    ⟨[], 0, firstBias, (basicPart s).length⟩).digits

theorem encode_eq (s : List Char) :
    encode s =
      (if (basicPart s).isEmpty then [] else basicPart s ++ ['-']) ++ extendedPart s :=
  rfl

variable {s : List Char}

/-- The digits of a label are read back. -/
theorem run_extendedPart (hlength : s.length ≤ 1000) :
    (⟨basicPart s, 0, 0x80, firstBias, 0, 1, 36⟩ : Reading).run true (extendedPart s) = some s ∧
      ∀ c ∈ extendedPart s, ∃ d < 36, c = digit d := by
  have hstart : InStep ⟨basicPart s, 0, 0x80, firstBias, 0, 1, 36⟩ (basicPart s).length 0x80 [] s
      ⟨[], 0, firstBias, (basicPart s).length⟩ 0 0x80 := by
    refine ⟨le_rfl, le_rfl, rfl, by simp, fun c hc => absurd hc List.not_mem_nil, fun rest => ?_⟩
    rw [decide_eq_true rfl]
    rfl
  -- At the end no code point is left, so all of the label has been read.
  obtain ⟨n, place, code, hlt, hend⟩ := hstart.passAll hlength (pairwise_codePoints s)
    (fun m hm => (mem_codePoints.1 hm).1) fun c hc hge => mem_codePoints.2 ⟨hge, c, hc, rfl⟩
  refine ⟨?_, hend.digits⟩
  have hread : readSoFar n [] s = s := by
    unfold readSoFar
    rw [List.filter_nil, List.nil_append, List.filter_eq_self]
    exact fun c hc => decide_eq_true (hlt c hc)
  have hrun := hend.run []
  rw [List.append_nil, hread] at hrun
  exact hrun

/-- **A label that has been written in ASCII is read back.** -/
theorem decode?_encode (hlength : s.length ≤ 1000) (hbeyond : ∃ c ∈ s, 0x80 ≤ c.toNat) :
    decode? (encode s) = some s := by
  obtain ⟨hrun, hdigits⟩ := run_extendedPart hlength
  have hhyphen : '-' ∉ extendedPart s := by
    intro hmem
    obtain ⟨d, hd, heq⟩ := hdigits _ hmem
    exact (by decide : ∀ d < 36, '-' ≠ digit d) d hd heq
  have hne : (extendedPart s).isEmpty = false := by
    rw [List.isEmpty_eq_false_iff]
    intro hnil
    obtain ⟨c, hc, hge⟩ := hbeyond
    rw [hnil] at hrun
    -- Without digits the label would be the ASCII characters alone.
    have hbasic : basicPart s = s := Option.some.inj hrun
    rw [← hbasic] at hc
    have hlt : c.toNat < 0x80 := by simpa using (List.mem_filter.1 hc).2
    omega
  rw [encode_eq]
  unfold decode?
  cases hbasic : basicPart s with
  | nil =>
    rw [hbasic] at hrun
    rw [List.isEmpty_nil, if_pos rfl, List.nil_append, cutLast?_eq_none hhyphen]
    dsimp only
    rw [hne]
    exact hrun
  | cons c cs =>
    rw [hbasic] at hrun
    have hcut := cutLast?_append hhyphen (c :: cs)
    rw [List.isEmpty_cons, if_neg Bool.false_ne_true, List.append_assoc, List.singleton_append,
      hcut]
    dsimp only
    rw [hne]
    exact hrun

/-- A label is written with its ASCII characters, a hyphen, and digits. -/
theorem forall_mem_encode {P : Char → Prop} (hlength : s.length ≤ 1000)
    (hascii : ∀ c ∈ s, c.toNat < 0x80 → P c) (hhyphen : P '-') (hdigit : ∀ d < 36, P (digit d)) :
    ∀ c ∈ encode s, P c := by
  have hbasic : ∀ c ∈ basicPart s, P c := fun c hc =>
    hascii c (List.mem_filter.1 hc).1 (by simpa using (List.mem_filter.1 hc).2)
  intro c hc
  rw [encode_eq] at hc
  rcases List.mem_append.1 hc with hc | hc
  · split_ifs at hc
    · exact absurd hc List.not_mem_nil
    · rcases List.mem_append.1 hc with hc | hc
      · exact hbasic c hc
      · exact List.mem_singleton.1 hc ▸ hhyphen
  · obtain ⟨d, hd, rfl⟩ := (run_extendedPart hlength).2 c hc
    exact hdigit d hd

/-! ### What is read -/

theorem mem_putAt {c d : Char} {i : ℕ} {s : List Char} : c ∈ putAt d i s ↔ c = d ∨ c ∈ s := by
  induction s generalizing i with
  | nil => cases i <;> simp [putAt]
  | cons e s ih =>
    cases i with
    | zero => simp [putAt]
    | succ i =>
      rw [putAt, List.mem_cons, ih, List.mem_cons]
      tauto

theorem Reading.exists_of_finish? {first : Bool} {r r' : Reading}
    (h : r.finish? first = some r') (hcode : 0x80 ≤ r.code) :
    ∃ c i, 0x80 ≤ c.toNat ∧ r'.chars = putAt c i r.chars ∧ 0x80 ≤ r'.code := by
  unfold Reading.finish? at h
  dsimp only at h
  set code := r.code + (r.place + r.number) / (r.chars.length + 1)
  have hge : 0x80 ≤ code := hcode.trans (Nat.le_add_right _ _)
  split_ifs at h with hvalid
  obtain rfl := Option.some.inj h
  have hnat : (Char.ofNat code).toNat = code := by
    simp only [Bool.or_eq_true, Bool.and_eq_true, decide_eq_true_eq] at hvalid
    exact Utf8.toNat_ofNat_of_valid (by omega)
  exact ⟨_, _, hge.trans_eq hnat.symm, rfl, hge⟩

/-- Reading puts characters beyond ASCII between those that are there, and one at least. -/
theorem Reading.of_run_eq_some {first : Bool} {r : Reading} {digits t : List Char}
    (h : r.run first digits = some t) (hcode : 0x80 ≤ r.code) :
    (∀ c ∈ r.chars, c ∈ t) ∧ (∀ c ∈ t, c ∈ r.chars ∨ 0x80 ≤ c.toNat) ∧
      (digits ≠ [] ∨ r.weight ≠ 1 → ∃ c ∈ t, 0x80 ≤ c.toNat) := by
  induction digits generalizing first r with
  | nil =>
    rw [Reading.run] at h
    split_ifs at h with hweight
    obtain rfl := Option.some.inj h
    exact ⟨fun c hc => hc, fun c hc => Or.inl hc, fun hne =>
      (hne.elim (fun hne => hne rfl) fun hne => hne hweight).elim⟩
  | cons d digits ih =>
    rw [Reading.run] at h
    split at h
    · exact nomatch h
    · dsimp only at h
      split_ifs at h with hnumber hlast hweight
      · -- the last digit of a number, behind which a character is put in
        split at h
        · rename_i r' hfinish
          obtain ⟨c, i, hc, hchars, hcode'⟩ := Reading.exists_of_finish? hfinish hcode
          obtain ⟨hkept, hfrom, -⟩ := ih h hcode'
          rw [hchars] at hkept hfrom
          refine ⟨fun e he => hkept e (mem_putAt.2 (Or.inr he)), fun e he => ?_, fun _ =>
            ⟨c, hkept c (mem_putAt.2 (Or.inl rfl)), hc⟩⟩
          rcases hfrom e he with hmem | hge
          · rcases mem_putAt.1 hmem with rfl | hmem
            · exact Or.inr hc
            · exact Or.inl hmem
          · exact Or.inr hge
        · exact nomatch h
      · obtain ⟨hkept, hfrom, hexists⟩ := ih h hcode
        refine ⟨hkept, hfrom, fun _ => hexists (Or.inr fun hone => ?_)⟩
        -- A weight that has been multiplied is not one, so that another digit has to follow.
        have hle := threshold_le r.bias r.k
        have hfactor := Nat.eq_one_of_mul_eq_one_left hone
        omega

/-- What is read has the ASCII characters of what is written, and others beyond ASCII. -/
theorem of_decode?_eq_some {s t : List Char} (h : decode? s = some t) :
    (∀ c ∈ t, c ∈ s ∨ 0x80 ≤ c.toNat) ∧ ∃ c ∈ t, 0x80 ≤ c.toNat := by
  have hread : ∀ {basic digits : List Char}, (∀ c ∈ basic, c ∈ s) →
      (if digits.isEmpty then none
        else Reading.run true ⟨basic, 0, 0x80, firstBias, 0, 1, 36⟩ digits) = some t →
      (∀ c ∈ t, c ∈ s ∨ 0x80 ≤ c.toNat) ∧ ∃ c ∈ t, 0x80 ≤ c.toNat := by
    intro basic digits hbasic h
    split_ifs at h with hempty
    obtain ⟨-, hfrom, hexists⟩ := Reading.of_run_eq_some h le_rfl
    exact ⟨fun c hc => (hfrom c hc).imp_left (hbasic c), hexists (Or.inl (by simpa using hempty))⟩
  -- Without a hyphen there are no characters in front, and behind the last one are the digits.
  unfold decode? at h
  dsimp only at h
  split at h
  · exact hread (fun c hc => absurd hc List.not_mem_nil) h
  · exact nomatch h
  · rename_i basic digits _ hcut
    obtain rfl := cutLast?_eq_some hcut
    exact hread (fun c hc => List.mem_append_left _ hc) h

/-! ### How long a label becomes -/

theorem length_writeNumber_pos (bias k n : ℕ) : 0 < (writeNumber bias k n).length := by
  rw [writeNumber]
  split_ifs <;> exact Nat.succ_pos _

theorem length_writeNumber_of_le {n : ℕ} (h : threshold bias k ≤ n) :
    (writeNumber bias k n).length =
      (writeNumber bias (k + 36)
        ((n - threshold bias k) / (36 - threshold bias k))).length + 1 := by
  conv_lhs => rw [writeNumber]
  rw [if_neg (Nat.not_lt.2 h), List.length_cons]

/-- No threshold is above 26, so 26 is more than one digit can stand for, and 936 more than two. -/
theorem three_le_length_writeNumber {n : ℕ} (bias k : ℕ) (h : 936 ≤ n) :
    3 ≤ (writeNumber bias k n).length := by
  have hle := threshold_le bias k
  have hle' := threshold_le bias (k + 36)
  have hone := one_le_threshold bias k
  have hrest : 26 ≤ (n - threshold bias k) / (36 - threshold bias k) :=
    (Nat.le_div_iff_mul_le (by omega)).2 (by omega)
  have hpos := length_writeNumber_pos bias (k + 36 + 36)
    (((n - threshold bias k) / (36 - threshold bias k) - threshold bias (k + 36)) /
      (36 - threshold bias (k + 36)))
  rw [length_writeNumber_of_le (hle.trans ((by decide : 26 ≤ 936).trans h)),
    length_writeNumber_of_le (hle'.trans hrest)]
  omega

/-- If the places in front have characters below, and those behind have characters above, the
number of a character is the distance so far and one for each place in front. -/
theorem foldl_pass_eq (basic : ℕ) {p q : List Char} {c : Char} (hp : ∀ d ∈ p, d.toNat < c.toNat)
    (hq : ∀ d ∈ q, c.toNat < d.toNat) (w : Writing) :
    (p ++ c :: q).foldl (Writing.pass basic c.toNat) w =
      ⟨w.digits ++ writeNumber w.bias 36 (w.distance + p.length), 0,
        adapt (w.distance + p.length) (w.count + 1) (w.count = basic), w.count + 1⟩ := by
  have hbehind : ∀ w : Writing, q.foldl (Writing.pass basic c.toNat) w = w := by
    induction q with
    | nil => exact fun w => rfl
    | cons d q ih =>
      intro w
      obtain ⟨hd, hq⟩ := List.forall_mem_cons.1 hq
      rw [List.foldl_cons, Writing.pass, if_neg (Nat.not_lt_of_lt hd), if_neg (Nat.ne_of_gt hd)]
      exact ih hq w
  -- Each place in front adds one to the distance, and those behind change nothing.
  induction p generalizing w with
  | nil =>
    rw [List.nil_append, List.foldl_cons, Writing.pass, if_neg (Nat.lt_irrefl _), if_pos rfl]
    exact hbehind _
  | cons d p ih =>
    obtain ⟨hd, hp⟩ := List.forall_mem_cons.1 hp
    rw [List.cons_append, List.foldl_cons, Writing.pass, if_pos hd, ih hp]
    simp only [List.length_cons, Nat.add_assoc, Nat.add_comm p.length]

/-- If the code points of a label are in order and far apart, then all but the first 34 take three
digits at least. -/
theorem le_length_passAll (basic : ℕ) {p q : List Char} {m : ℕ} {w : Writing}
    (hsorted : (p ++ q).Pairwise fun c d => c.toNat + 28 ≤ d.toNat)
    (hle : ∀ c ∈ q, m + 28 ≤ c.toNat) (hdigits : 3 * w.count ≤ w.digits.length + 102) :
    3 * (w.count + q.length) ≤
      (Writing.passAll (p ++ q) basic (q.map Char.toNat) (m + 1) w).digits.length + 102 := by
  induction q generalizing p m w with
  | nil => simpa [Writing.passAll] using hdigits
  | cons c q ih =>
    obtain ⟨-, hcons, hfront⟩ := List.pairwise_append.1 hsorted
    obtain ⟨hbehind, -⟩ := List.pairwise_cons.1 hcons
    have hp : ∀ d ∈ p, d.toNat < c.toNat := fun d hd => by
      have := hfront d hd c List.mem_cons_self
      omega
    have hq : ∀ d ∈ q, c.toNat < d.toNat := fun d hd => by
      have := hbehind d hd
      omega
    have hpass := foldl_pass_eq basic hp hq
      { w with distance := w.distance + (c.toNat - (m + 1)) * (w.count + 1) }
    set n := w.distance + (c.toNat - (m + 1)) * (w.count + 1) + p.length
    have hnumber : 3 * (w.count + 1) ≤ (w.digits ++ writeNumber w.bias 36 n).length + 102 := by
      rw [List.length_append]
      -- The first 34 are made up for by the 102 that the bound leaves.
      by_cases hfew : w.count < 34
      · omega
      · have hc := hle c List.mem_cons_self
        have hfar : 27 * 35 ≤ (c.toNat - (m + 1)) * (w.count + 1) :=
          Nat.mul_le_mul (by omega) (by omega)
        have hthree := three_le_length_writeNumber w.bias 36 (n := n) (by omega)
        omega
    have happend : p ++ c :: q = p ++ [c] ++ q := by simp
    have hcount : w.count + (c :: q).length = w.count + 1 + q.length := by
      rw [List.length_cons]
      omega
    rw [List.map_cons, Writing.passAll, hpass, hcount]
    rw [happend] at hsorted ⊢
    exact ih (w := ⟨w.digits ++ writeNumber w.bias 36 n, 0 + 1,
      adapt n (w.count + 1) (w.count = basic), w.count + 1⟩) hsorted hbehind hnumber

/-- The code points of a label are those of its characters, if they are in order. -/
theorem codePoints_of_pairwise (hsorted : s.Pairwise fun c d => c.toNat < d.toNat)
    (hbeyond : ∀ c ∈ s, 0x80 ≤ c.toNat) : codePoints s = s.map Char.toNat := by
  have hmap : (s.map Char.toNat).Pairwise (· < ·) := List.pairwise_map.2 hsorted
  have hmem : ∀ n, n ∈ codePoints s ↔ n ∈ s.map Char.toNat := by
    intro n
    rw [mem_codePoints, List.mem_map]
    exact ⟨And.right, fun h => ⟨by obtain ⟨c, hc, rfl⟩ := h; exact hbeyond c hc, h⟩⟩
  have hperm := (List.perm_ext_iff_of_nodup ((pairwise_codePoints s).imp Nat.ne_of_lt)
    (hmap.imp Nat.ne_of_lt)).2 hmem
  exact hperm.eq_of_pairwise (fun a b _ _ hab hba => absurd hba (Nat.not_lt_of_lt hab))
    (pairwise_codePoints s) hmap

/-- A label whose code points are in order and far apart is nearly three times as long when it is
encoded. -/
theorem le_length_encode (hsorted : s.Pairwise fun c d => c.toNat + 28 ≤ d.toNat)
    (hbeyond : ∀ c ∈ s, 0x80 + 28 ≤ c.toNat) : 3 * s.length ≤ (encode s).length + 102 := by
  have hpoints : codePoints s = s.map Char.toNat :=
    codePoints_of_pairwise (hsorted.imp fun h => by omega) fun c hc => by
      have := hbeyond c hc
      omega
  have hbasic : basicPart s = [] := List.filter_eq_nil_iff.2 fun c hc => by
    have := hbeyond c hc
    simp
    omega
  have hlength := le_length_passAll 0 (p := []) (m := 0x7F)
    (w := ⟨[], 0, firstBias, 0⟩) hsorted (fun c hc => by have := hbeyond c hc; omega) (by simp)
  rw [encode_eq, hbasic]
  unfold extendedPart
  rw [hbasic, hpoints]
  simpa using hlength

end Phrasebook.Url.Domain.Punycode
