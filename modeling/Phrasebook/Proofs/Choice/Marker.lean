import Phrasebook.Choice.Marker
import Phrasebook.Proofs.Text.Split
import Mathlib.Tactic.Common

/-!
# Correctness of the marker search

The markers of a choice string have a grammar of their own, which does not speak of reading:
`ExactToken` and `IntervalToken` relate a marker to the characters that it may be written with, and
`Leftmost` says that a token stands in a text and that no token of its class begins before it.

* `readExact_eq_some_iff`, `readInterval_eq_some_iff`: reading at the start of a text succeeds
  exactly on the tokens of the class, whatever follows them.
* `findFirst_eq_some_iff`, `findFirst_eq_none_iff`: trying every place in turn finds the leftmost
  token, and fails only if there is none.

A numeral ends where its digits end and the white space of an interval ends at a star or a digit, so
a reader that takes the longest runs goes wrong nowhere.
-/

namespace Phrasebook.Choice

open Phrasebook.Text

/-! ### The grammar of markers -/

/-- A run of digits that is not empty. -/
def IsNumeral (ds : List Char) : Prop :=
  ds ≠ [] ∧ ∀ d ∈ ds, isDigit d

/-- `ExactToken m token`: a numeral in braces stands for that one count. -/
inductive ExactToken : Marker → List Char → Prop
  | intro {ds : List Char} (numeral : IsNumeral ds) :
      ExactToken (.exact (min (digitsValue ds) maxCount)) ('{' :: ds ++ ['}'])

/-- `UpperToken high token`: a star stands for no upper end, and a numeral for its value. -/
inductive UpperToken : Bound → List Char → Prop
  | star : UpperToken .unbounded ['*']
  | numeral {ds : List Char} (numeral : IsNumeral ds) :
      UpperToken (.inclusive (min (digitsValue ds) maxCount)) ds

/-- `IntervalToken m token`: the two ends stand in square brackets, with a comma and perhaps white
space between them. -/
inductive IntervalToken : Marker → List Char → Prop
  | intro {ds blanks upper : List Char} {high : Bound} (numeral : IsNumeral ds)
      (blank : ∀ c ∈ blanks, isBlank c) (hupper : UpperToken high upper) :
      IntervalToken (.interval (min (digitsValue ds) maxCount) high)
        ('[' :: ds ++ ',' :: blanks ++ upper ++ [']'])

/-- A token of the class `P` stands in `s` between `before` and `after`, and none begins earlier. -/
structure Leftmost (P : Marker → List Char → Prop) (s : List Char) (m : Marker)
    (before token after : List Char) : Prop where
  /-- Where the token stands. -/
  eq : s = before ++ token ++ after
  /-- It is a token of the class. -/
  isToken : P m token
  /-- No token of the class begins before it. -/
  first : ∀ {m' before' token' after'}, s = before' ++ token' ++ after' → P m' token' →
    before.length ≤ before'.length

/-- Some token of the class `P` stands in `s`. -/
def Occurs (P : Marker → List Char → Prop) (s : List Char) : Prop :=
  ∃ m before token after, s = before ++ token ++ after ∧ P m token

/-! ### One marker at the start of a text -/

variable {s : List Char} {c : Char}

theorem IsNumeral.cons_takeWhile {d : Char} {ds : List Char} (h : s.takeWhile isDigit = d :: ds) :
    IsNumeral (d :: ds) :=
  ⟨List.cons_ne_nil d ds, fun _ he => List.mem_takeWhile_imp (h ▸ he)⟩

theorem readExact_append {ds : List Char} (h : IsNumeral ds) (after : List Char) :
    readExact ('{' :: ds ++ '}' :: after) =
      some ⟨.exact (saturated ds), '{' :: ds ++ ['}'], after⟩ := by
  obtain ⟨d, ds', rfl⟩ := List.exists_cons_of_ne_nil h.1
  have hbrace : ¬ isDigit '}' := by decide
  rw [List.cons_append, readExact, takeWhile_span h.2 hbrace, dropWhile_span h.2 hbrace]
  rfl

/-- An exact marker is read exactly where one of its tokens stands. -/
theorem readExact_eq_some_iff {r : Reading} :
    readExact s = some r ↔ ExactToken r.marker r.token ∧ s = r.token ++ r.after := by
  constructor
  · intro h
    unfold readExact at h
    split at h
    · rename_i t
      split at h
      · rename_i d ds after htake hdrop
        obtain rfl := Option.some.inj h
        rw [saturated_eq]
        -- The digits are the numeral, and what is behind the brace is left.
        refine ⟨.intro (.cons_takeWhile htake), ?_⟩
        rw [← List.takeWhile_append_dropWhile (p := isDigit) (l := t), htake, hdrop]
        simp
      · cases h
    · cases h
  · rintro ⟨htoken, rfl⟩
    obtain ⟨m, token, after⟩ := r
    cases htoken with
    | intro numeral =>
      rw [← saturated_eq]
      simpa using readExact_append numeral after

theorem readUpper_append {upper after : List Char} {high : Bound} (h : UpperToken high upper) :
    readUpper (upper ++ ']' :: after) = some (high, upper, ']' :: after) := by
  have hbracket : ¬ isDigit ']' := by decide
  cases h with
  | star => rfl
  | numeral hds =>
    obtain ⟨d, ds', rfl⟩ := List.exists_cons_of_ne_nil hds.1
    have hstar : d ≠ '*' := by
      rintro rfl
      exact absurd (hds.2 '*' List.mem_cons_self) (by decide)
    unfold readUpper
    split
    · rename_i heq
      exact absurd (List.cons.inj heq).1 hstar
    · rw [takeWhile_span hds.2 hbracket, dropWhile_span hds.2 hbracket, ← saturated_eq]

theorem of_readUpper_eq_some {upper after : List Char} {high : Bound}
    (h : readUpper s = some (high, upper, after)) : UpperToken high upper ∧ s = upper ++ after := by
  unfold readUpper at h
  split at h
  · cases h
    exact ⟨.star, rfl⟩
  · split at h
    · cases h
    · rename_i d ds htake
      cases h
      rw [saturated_eq]
      refine ⟨.numeral (.cons_takeWhile htake), ?_⟩
      rw [← htake, List.takeWhile_append_dropWhile]

/-- Neither a star nor a numeral begins with white space. -/
theorem UpperToken.dropWhile_isBlank {upper blanks : List Char} {high : Bound}
    (h : UpperToken high upper) (hblanks : ∀ c ∈ blanks, isBlank c) (rest : List Char) :
    (blanks ++ upper ++ rest).dropWhile isBlank = upper ++ rest ∧
      (blanks ++ upper ++ rest).takeWhile isBlank = blanks := by
  have hne : ∃ c upper', upper = c :: upper' ∧ ¬ isBlank c := by
    cases h with
    | star => exact ⟨'*', [], rfl, by decide⟩
    | numeral hds =>
      obtain ⟨d, ds', rfl⟩ := List.exists_cons_of_ne_nil hds.1
      exact ⟨d, ds', rfl, not_isBlank_of_isDigit (hds.2 d List.mem_cons_self)⟩
  obtain ⟨c, upper', rfl, hc⟩ := hne
  rw [List.append_assoc, List.cons_append]
  exact ⟨dropWhile_span hblanks hc, takeWhile_span hblanks hc⟩

theorem readInterval_append {ds blanks upper after : List Char} {high : Bound} (h : IsNumeral ds)
    (hblanks : ∀ c ∈ blanks, isBlank c) (hupper : UpperToken high upper) :
    readInterval ('[' :: ds ++ ',' :: blanks ++ upper ++ ']' :: after) =
      some ⟨.interval (saturated ds) high, '[' :: ds ++ ',' :: blanks ++ upper ++ [']'],
        after⟩ := by
  obtain ⟨d, ds', rfl⟩ := List.exists_cons_of_ne_nil h.1
  have hcomma : ¬ isDigit ',' := by decide
  have hsplit : ('[' :: (d :: ds') ++ ',' :: blanks ++ upper ++ ']' :: after) =
      '[' :: ((d :: ds') ++ ',' :: (blanks ++ upper ++ ']' :: after)) := by simp
  obtain ⟨hdrop, htake⟩ := hupper.dropWhile_isBlank hblanks (']' :: after)
  rw [hsplit, readInterval, takeWhile_span h.2 hcomma, dropWhile_span h.2 hcomma]
  simp only [hdrop, htake, readUpper_append hupper]

/-- An interval marker is read exactly where one of its tokens stands. -/
theorem readInterval_eq_some_iff {r : Reading} :
    readInterval s = some r ↔ IntervalToken r.marker r.token ∧ s = r.token ++ r.after := by
  constructor
  · intro h
    unfold readInterval at h
    split at h
    · rename_i t
      split at h
      · rename_i d ds u htake hdrop
        split at h
        · rename_i high upper after hread
          obtain rfl := Option.some.inj h
          obtain ⟨hupper, hu⟩ := of_readUpper_eq_some hread
          rw [saturated_eq]
          refine ⟨.intro (.cons_takeWhile htake) (fun c hc => List.mem_takeWhile_imp hc) hupper, ?_⟩
          -- the text is put together again from the runs that were taken off it
          rw [← List.takeWhile_append_dropWhile (p := isDigit) (l := t), htake, hdrop]
          nth_rewrite 1 [← List.takeWhile_append_dropWhile (p := isBlank) (l := u)]
          rw [hu]
          simp
        · cases h
      · cases h
    · cases h
  · rintro ⟨htoken, rfl⟩
    obtain ⟨m, token, after⟩ := r
    cases htoken with
    | intro numeral blank hupper =>
      rw [← saturated_eq]
      simpa using readInterval_append numeral blank hupper

/-! ### The leftmost marker of a text -/

/-- A reader of markers that succeeds exactly on the tokens of the class `P`, whatever follows
them. -/
structure Recognizes (read : List Char → Option Reading) (P : Marker → List Char → Prop) :
    Prop where
  /-- The reader takes a token off the text. -/
  read_iff : ∀ {s r}, read s = some r ↔ P r.marker r.token ∧ s = r.token ++ r.after
  /-- No token is empty. -/
  ne_nil : ∀ {m token}, P m token → token ≠ []

theorem recognizes_readExact : Recognizes readExact ExactToken where
  read_iff := readExact_eq_some_iff
  ne_nil h := by
    cases h
    exact List.cons_ne_nil _ _

theorem recognizes_readInterval : Recognizes readInterval IntervalToken where
  read_iff := readInterval_eq_some_iff
  ne_nil h := by
    cases h
    exact List.cons_ne_nil _ _

section Search

variable {read : List Char → Option Reading} {P : Marker → List Char → Prop}

theorem not_occurs_nil (hP : Recognizes read P) : ¬ Occurs P [] := by
  rintro ⟨m, before, token, after, heq, htoken⟩
  have hnil := List.append_eq_nil_iff.1 heq.symm
  exact hP.ne_nil htoken (List.append_eq_nil_iff.1 hnil.1).2

/-- A place of a token in `c :: s` is the start, or a place in `s`. -/
theorem occurs_cons_iff (hP : Recognizes read P) :
    Occurs P (c :: s) ↔ (read (c :: s)).isSome ∨ Occurs P s := by
  constructor
  · rintro ⟨m, before, token, after, heq, htoken⟩
    -- A token stands at the start if there is nothing before it, and behind the first character
    -- otherwise.
    cases before with
    | nil =>
      left
      rw [(hP.read_iff (r := ⟨m, token, after⟩)).2 ⟨htoken, heq⟩]
      rfl
    | cons b before =>
      right
      rw [List.cons_append, List.cons_append] at heq
      exact ⟨m, before, token, after, (List.cons.inj heq).2, htoken⟩
  · rintro (hread | ⟨m, before, token, after, rfl, htoken⟩)
    · obtain ⟨r, hr⟩ := Option.isSome_iff_exists.1 hread
      obtain ⟨htoken, heq⟩ := hP.read_iff.1 hr
      exact ⟨r.marker, [], r.token, r.after, heq, htoken⟩
    · exact ⟨m, c :: before, token, after, rfl, htoken⟩

/-- The search fails only if no token stands in the text. -/
theorem findFirst_eq_none_iff (hP : Recognizes read P) :
    findFirst read s = none ↔ ¬ Occurs P s := by
  induction s with
  | nil => exact ⟨fun _ => not_occurs_nil hP, fun _ => rfl⟩
  | cons c s ih =>
    rw [findFirst, occurs_cons_iff hP, not_or, ← ih]
    cases hread : read (c :: s) with
    | none => simp
    | some r => simp

/-- The search finds a token, and none begins before it. -/
theorem leftmost_of_findFirst (hP : Recognizes read P) {x : Sighting}
    (h : findFirst read s = some x) : Leftmost P s x.marker x.before x.token x.after := by
  induction s generalizing x with
  | nil => cases h
  | cons c s ih =>
    rw [findFirst] at h
    split at h
    · rename_i r hread
      obtain rfl := Option.some.inj h
      obtain ⟨htoken, heq⟩ := hP.read_iff.1 hread
      exact ⟨heq, htoken, fun _ _ => Nat.zero_le _⟩
    · rename_i hread
      obtain ⟨y, hy, rfl⟩ := Option.map_eq_some_iff.1 h
      have hleft := ih hy
      refine ⟨congrArg (c :: ·) hleft.eq, hleft.isToken, ?_⟩
      intro m' before' token' after' heq htoken
      cases before' with
      | nil =>
        -- a token at the very start would have been read
        have hsome := (hP.read_iff (r := ⟨m', token', after'⟩)).2 ⟨htoken, heq⟩
        rw [hread] at hsome
        cases hsome
      | cons b before' =>
        rw [List.cons_append, List.cons_append] at heq
        exact Nat.succ_le_succ (hleft.first (List.cons.inj heq).2 htoken)

/-- Two leftmost tokens of a class are the same. -/
theorem Leftmost.unique (hP : Recognizes read P) {m m' : Marker}
    {before before' token token' after after' : List Char} (h : Leftmost P s m before token after)
    (h' : Leftmost P s m' before' token' after') :
    m = m' ∧ before = before' ∧ token = token' ∧ after = after' := by
  have hlength : before.length = before'.length :=
    Nat.le_antisymm (h.first h'.eq h'.isToken) (h'.first h.eq h.isToken)
  have heq : before ++ (token ++ after) = before' ++ (token' ++ after') := by
    rw [← List.append_assoc, ← List.append_assoc, ← h.eq, ← h'.eq]
  obtain ⟨hbefore, hrest⟩ := List.append_inj heq hlength
  -- The two tokens begin at one place, and reading there has one result.
  have hread : read (token ++ after) = some ⟨m, token, after⟩ :=
    hP.read_iff.2 ⟨h.isToken, rfl⟩
  have hread' : read (token ++ after) = some ⟨m', token', after'⟩ :=
    hP.read_iff.2 ⟨h'.isToken, hrest⟩
  rw [hread] at hread'
  cases hread'
  exact ⟨rfl, hbefore, rfl, rfl⟩

/-- **The search finds the leftmost token**, and nothing else. -/
theorem findFirst_eq_some_iff (hP : Recognizes read P) {x : Sighting} :
    findFirst read s = some x ↔ Leftmost P s x.marker x.before x.token x.after := by
  refine ⟨leftmost_of_findFirst hP, fun h => ?_⟩
  cases hfind : findFirst read s with
  | none =>
    exact absurd ⟨x.marker, x.before, x.token, x.after, h.eq, h.isToken⟩
      ((findFirst_eq_none_iff hP).1 hfind)
  | some y =>
    -- Both sightings are leftmost, so they are the same.
    obtain ⟨hm, hbefore, htoken, hafter⟩ := (leftmost_of_findFirst hP hfind).unique hP h
    obtain ⟨m, before, token, after⟩ := x
    cases y
    cases hm
    cases hbefore
    cases htoken
    cases hafter
    rfl

end Search

/-! ### Texts without a token -/

/-- A sighting in a text with `l` in front. -/
def Sighting.prepend (l : List Char) (x : Sighting) : Sighting :=
  { x with before := l ++ x.before }

/-- A reader that needs a certain character passes over a text without it. -/
theorem findFirst_append {read : List Char → Option Reading} {opening : Char}
    (hread : ∀ c s, c ≠ opening → read (c :: s) = none) {l : List Char} (hl : opening ∉ l)
    (s : List Char) :
    findFirst read (l ++ s) = (findFirst read s).map (Sighting.prepend l) := by
  induction l with
  | nil =>
    rw [List.nil_append]
    cases findFirst read s <;> rfl
  | cons c l ih =>
    have hc : c ≠ opening := fun h => hl (h ▸ List.mem_cons_self)
    rw [List.cons_append, findFirst, hread c _ hc, ih fun h => hl (List.mem_cons_of_mem c h),
      Option.map_map]
    rfl

theorem readExact_cons {c : Char} (s : List Char) (hc : c ≠ '{') : readExact (c :: s) = none := by
  unfold readExact
  split
  · rename_i heq
    exact absurd (List.cons.inj heq).1 hc
  · rfl

theorem readInterval_cons {c : Char} (s : List Char) (hc : c ≠ '[') :
    readInterval (c :: s) = none := by
  unfold readInterval
  split
  · rename_i heq
    exact absurd (List.cons.inj heq).1 hc
  · rfl

theorem findExact_append {l : List Char} (hl : '{' ∉ l) (s : List Char) :
    findExact (l ++ s) = (findExact s).map (Sighting.prepend l) :=
  findFirst_append (fun _ s hc => readExact_cons s hc) hl s

theorem findInterval_append {l : List Char} (hl : '[' ∉ l) (s : List Char) :
    findInterval (l ++ s) = (findInterval s).map (Sighting.prepend l) :=
  findFirst_append (fun _ s hc => readInterval_cons s hc) hl s

end Phrasebook.Choice
