/-!
# Results that may be missing

* `except_bind_eq_ok_iff`: two steps succeed if and only if the first does and then the second.
* `exists_first_cons_iff`: what stops a loop is its first part, or what stops the rest behind it.
* `forall_mem_of_mapM`, `mapM_eq_ite`: what is known of parts that are read one by one.
-/

namespace Phrasebook

/-- Two steps succeed if the first does and then the second. -/
theorem except_bind_eq_ok_iff {ε α β : Type} {x : Except ε α} {f : α → Except ε β} {b : β} :
    (x >>= f) = .ok b ↔ ∃ a, x = .ok a ∧ f a = .ok b := by
  cases x with
  | error e =>
    constructor
    · exact fun h => nomatch h
    · exact fun ⟨_, h, _⟩ => nomatch h
  | ok a =>
    constructor
    · exact fun h => ⟨a, rfl, h⟩
    · rintro ⟨a', ha, h⟩
      obtain rfl := Except.ok.inj ha
      exact h

/-- The first part of a list that is not passed is its head, or the head is passed and the part is
the first of the others. -/
theorem exists_first_cons_iff {α : Type} {P Q : α → Prop} {a : α} {l : List α} :
    (∃ before x after, a :: l = before ++ x :: after ∧ (∀ b ∈ before, P b) ∧ Q x) ↔
      Q a ∨ P a ∧ ∃ before x after, l = before ++ x :: after ∧ (∀ b ∈ before, P b) ∧ Q x := by
  constructor
  · rintro ⟨before, x, after, heq, hbefore, hx⟩
    cases before with
    | nil =>
      obtain ⟨rfl, rfl⟩ := List.cons.inj heq
      exact Or.inl hx
    | cons first before =>
      obtain ⟨rfl, rfl⟩ := List.cons.inj heq
      obtain ⟨hfirst, hrest⟩ := List.forall_mem_cons.1 hbefore
      exact Or.inr ⟨hfirst, before, x, after, rfl, hrest, hx⟩
  · rintro (hx | ⟨hfirst, before, x, after, rfl, hrest, hx⟩)
    · exact ⟨[], a, l, rfl, fun b hb => absurd hb List.not_mem_nil, hx⟩
    · exact ⟨a :: before, x, after, rfl, List.forall_mem_cons.2 ⟨hfirst, hrest⟩, hx⟩

variable {α β : Type} {f : α → Option β}

/-- What holds of all that a part can be read as holds of all parts that are read. -/
theorem forall_mem_of_mapM {P : β → Prop} {parts : List α} {values : List β}
    (h : ∀ a ∈ parts, ∀ b, f a = some b → P b) (hvalues : parts.mapM f = some values) :
    ∀ b ∈ values, P b := by
  induction parts generalizing values with
  | nil =>
    obtain rfl := Option.some.inj hvalues
    exact fun b hb => nomatch hb
  | cons a parts ih =>
    rw [List.mapM_cons] at hvalues
    obtain ⟨b, hb, hvalues⟩ := Option.bind_eq_some_iff.1 hvalues
    obtain ⟨rest, hrest, hvalues⟩ := Option.bind_eq_some_iff.1 hvalues
    obtain rfl := Option.some.inj hvalues
    obtain ⟨ha, h⟩ := List.forall_mem_cons.1 h
    exact List.forall_mem_cons.2 ⟨ha b hb, ih h hrest⟩

theorem ne_nil_of_mapM {parts : List α} {values : List β} (hne : parts ≠ [])
    (hvalues : parts.mapM f = some values) : values ≠ [] := by
  obtain ⟨a, parts, rfl⟩ := List.exists_cons_of_ne_nil hne
  rw [List.mapM_cons] at hvalues
  obtain ⟨b, -, hvalues⟩ := Option.bind_eq_some_iff.1 hvalues
  obtain ⟨rest, -, hvalues⟩ := Option.bind_eq_some_iff.1 hvalues
  obtain rfl := Option.some.inj hvalues
  exact List.cons_ne_nil b rest

/-- Parts of which each can be read if it passes a test are read in order if all pass it. -/
theorem mapM_eq_ite {p : α → Bool} {g : α → β} {parts : List α}
    (h : ∀ a ∈ parts, f a = if p a then some (g a) else none) :
    parts.mapM f = if parts.all p then some (parts.map g) else none := by
  induction parts with
  | nil => rfl
  | cons a parts ih =>
    rw [List.mapM_cons, h a List.mem_cons_self, ih fun b hb => h b (List.mem_cons_of_mem a hb),
      List.all_cons]
    cases p a
    · rfl
    · cases parts.all p <;> rfl

/-- Parts that can all be read are read in order. -/
theorem mapM_eq_some_map {g : α → β} {parts : List α} (h : ∀ a ∈ parts, f a = some (g a)) :
    parts.mapM f = some (parts.map g) := by
  rw [mapM_eq_ite (p := fun _ => true) fun a ha => (h a ha).trans (if_pos rfl).symm,
    if_pos (List.all_eq_true.2 fun _ _ => rfl)]

end Phrasebook
