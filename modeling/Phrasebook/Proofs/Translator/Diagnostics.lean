import Phrasebook.Proofs.Translator.Lookup

/-!
# What lookups report

Looking a key up never fails, so that only the journal shows whether a text was there.  There are
three cases, of which one holds in each session: the catalog in effect supplies a text
(`Translator.Supplies`), a phrase has none and is its own text (`Translator.TakesAsText`), or
nothing is found (`Translator.Misses`).  They speak of catalogs and keys, not of what is reported.

* `Translator.diagnosis`: a lookup reports nothing, one event for debugging, or one warning, by the
  case.
* `Session.journal_tells_misses`: so the levels of the events tell the case, in any session, also
  where the text of a key is the key itself.
-/

namespace Phrasebook

/-- The number of events of a level. -/
def Event.countAt (level : Level) (events : List Event) : ℕ :=
  events.countP fun e => e.level = level

@[simp] theorem Event.countAt_nil (level : Level) : countAt level [] = 0 :=
  rfl

@[simp] theorem Event.countAt_outside (level level' : Level) (target message : String) :
    countAt level [.outside level' target message] = if level' = level then 1 else 0 := by
  simp [countAt, outside, List.countP_cons]

/-! ### What a catalog has under a key -/

/-- `t.Gives key text`: the key is a phrase with the leaf `text` under it at the root, or a path
that ends on this leaf. -/
inductive MessageTree.Gives (t : MessageTree) (key text : String) : Prop
  | phrase (kind : KeyKind.of key = .phrase) (leaf : t.child key = some (.text text))
  | path (kind : KeyKind.of key = .path) (leaf : t.walk (pathSegments key) = some (.text text))

theorem MessageTree.gives_iff_resolve {t : MessageTree} {key text : String} :
    t.Gives key text ↔ resolve key t = .found text := by
  rw [resolve_eq_found_iff, MessageTree.lookup_eq_some_iff]
  -- Both sides go by the kind of the key: one step from the root, or the path between the dots.
  cases hkind : KeyKind.of key with
  | phrase =>
    have hwalk : t.walk (address key) = t.child key := by
      simp [address, hkind, walk]
    rw [hwalk]
    constructor
    · intro h
      cases h with
      | phrase _ leaf => exact leaf
      | path kind _ => exact absurd (hkind.symm.trans kind) (by decide)
    · exact .phrase hkind
  | path =>
    have hwalk : t.walk (address key) = t.walk (pathSegments key) := by
      simp [address, hkind]
    rw [hwalk]
    constructor
    · intro h
      cases h with
      | phrase kind _ => exact absurd (hkind.symm.trans kind) (by decide)
      | path _ leaf => exact leaf
    · exact .path hkind

namespace Translator

variable {t : Translator} {key : String}

/-! ### The three cases -/

/-- The catalog in which keys are looked up: that of the active locale if it is loaded, or else that
of the fallback. -/
def catalogInEffect (t : Translator) : Option MessageTree :=
  t.activeCatalog.or t.fallbackCatalog

/-- `t.Supplies key text`: the catalog in effect has `text` under the key. -/
def Supplies (t : Translator) (key text : String) : Prop :=
  ∃ tree, t.catalogInEffect = some tree ∧ tree.Gives key text

/-- The key is a phrase, and the catalog in effect has no leaf under it at the root. -/
def TakesAsText (t : Translator) (key : String) : Prop :=
  ∃ tree, t.catalogInEffect = some tree ∧ KeyKind.of key = .phrase ∧
    ∀ text, tree.child key ≠ some (.text text)

/-- No catalog is in effect, or the key is a path that does not end on a leaf of it. -/
def Misses (t : Translator) (key : String) : Prop :=
  t.catalogInEffect = none ∨
    ∃ tree, t.catalogInEffect = some tree ∧ KeyKind.of key = .path ∧
      ∀ text, tree.walk (pathSegments key) ≠ some (.text text)

theorem Supplies.not_takesAsText {text : String} (h : t.Supplies key text) :
    ¬ t.TakesAsText key := by
  obtain ⟨tree, htree, hgives⟩ := h
  rintro ⟨tree', htree', hkind, hleaf⟩
  obtain rfl := Option.some.inj (htree.symm.trans htree')
  cases hgives with
  | phrase _ leaf => exact hleaf text leaf
  | path kind _ => exact nomatch hkind.symm.trans kind

theorem Supplies.not_misses {text : String} (h : t.Supplies key text) : ¬ t.Misses key := by
  obtain ⟨tree, htree, hgives⟩ := h
  rintro (hnone | ⟨tree', htree', hkind, hleaf⟩)
  · exact nomatch htree.symm.trans hnone
  · obtain rfl := Option.some.inj (htree.symm.trans htree')
    cases hgives with
    | phrase kind _ => exact nomatch hkind.symm.trans kind
    | path _ leaf => exact hleaf text leaf

theorem TakesAsText.not_misses (h : t.TakesAsText key) : ¬ t.Misses key := by
  obtain ⟨tree, htree, hkind, -⟩ := h
  rintro (hnone | ⟨-, -, hkind', -⟩)
  · exact nomatch htree.symm.trans hnone
  · exact nomatch hkind.symm.trans hkind'

/-! ### What is reported and what is said -/

/-- `t.Diagnosis key events`: the events are what is to be reported about the key. -/
inductive Diagnosis (t : Translator) (key : String) : List Event → Prop
  | supplied {text : String} (h : t.Supplies key text) : Diagnosis t key []
  | takenAsText {message : String} (h : t.TakesAsText key) :
      Diagnosis t key [.outside .debug target message]
  | missed {message : String} (h : t.Misses key) :
      Diagnosis t key [.outside .warn target message]

/-- A lookup reports what is to be reported about its key. -/
theorem diagnosis (t : Translator) (key : String) : t.Diagnosis key (t.lookupEvents key) := by
  have heffective := t.map_snd_effective
  unfold lookupEvents
  cases hpair : t.effective with
  | none =>
    rw [hpair] at heffective
    exact .missed (Or.inl heffective.symm)
  | some pair =>
    obtain ⟨locale, tree⟩ := pair
    have htree : t.catalogInEffect = some tree := by
      rw [catalogInEffect, ← heffective, hpair]
      rfl
    by_cases hgives : ∃ text, tree.Gives key text
    · obtain ⟨text, hgives⟩ := hgives
      dsimp only
      rw [MessageTree.gives_iff_resolve.1 hgives]
      exact .supplied ⟨tree, htree, hgives⟩
    · -- without a text the kind of the key decides what is reported
      have hmissing : resolve key tree = .missing key := by
        refine resolve_eq_missing_iff.2 fun text hfound => ?_
        exact hgives ⟨text, MessageTree.gives_iff_resolve.2 hfound⟩
      dsimp only
      rw [hmissing, Resolution.missing]
      cases hkind : KeyKind.of key with
      | phrase =>
        exact .takenAsText ⟨tree, htree, hkind, fun text h => hgives ⟨text, .phrase hkind h⟩⟩
      | path =>
        exact .missed (Or.inr ⟨tree, htree, hkind, fun text h => hgives ⟨text, .path hkind h⟩⟩)

section Diagnosis

variable {events : List Event}

theorem Diagnosis.silent_iff (h : t.Diagnosis key events) :
    Event.countAt .warn events = 0 ∧ Event.countAt .debug events = 0 ↔
      ∃ text, t.Supplies key text := by
  cases h with
  | supplied h => exact iff_of_true (by simp) ⟨_, h⟩
  | takenAsText h => exact iff_of_false (by simp) fun ⟨_, hs⟩ => hs.not_takesAsText h
  | missed h => exact iff_of_false (by simp) fun ⟨_, hs⟩ => hs.not_misses h

theorem Diagnosis.debug_iff (h : t.Diagnosis key events) :
    Event.countAt .debug events = 1 ∧ Event.countAt .warn events = 0 ↔ t.TakesAsText key := by
  cases h with
  | supplied h => exact iff_of_false (by simp) h.not_takesAsText
  | takenAsText h => exact iff_of_true (by simp) h
  | missed h => exact iff_of_false (by simp) fun htaken => htaken.not_misses h

theorem Diagnosis.warn_iff (h : t.Diagnosis key events) :
    Event.countAt .warn events = 1 ∧ Event.countAt .debug events = 0 ↔ t.Misses key := by
  cases h with
  | supplied h => exact iff_of_false (by simp) h.not_misses
  | takenAsText h => exact iff_of_false (by simp) h.not_misses
  | missed h => exact iff_of_true (by simp) h

theorem Diagnosis.countAt_trace (h : t.Diagnosis key events) :
    Event.countAt .trace events = 0 := by
  cases h <;> simp

end Diagnosis

theorem lookup_of_supplies {text : String} (h : t.Supplies key text) : t.lookup key = text := by
  obtain ⟨tree, htree, hgives⟩ := h
  have hlookup : t.lookup key = tree.phrase key := by
    rw [lookup_eq, ← catalogInEffect, htree]
    rfl
  rw [hlookup, ← MessageTree.textOr_resolve, MessageTree.gives_iff_resolve.1 hgives]
  rfl

/-- A key that is not supplied with a text is its own. -/
theorem lookup_of_not_supplies (h : ∀ text, ¬ t.Supplies key text) : t.lookup key = key := by
  rw [lookup_eq, ← catalogInEffect]
  cases htree : t.catalogInEffect with
  | none => rfl
  | some tree =>
    refine MessageTree.phrase_of_missing fun text hfound => ?_
    exact h text ⟨tree, htree, MessageTree.gives_iff_resolve.2 hfound⟩

end Translator

namespace Session

variable {σ : Type}

/-- **The journal tells which keys were missed.**  Translating a key appends some events to the
journal and changes nothing else.  There is neither a warning nor an event for debugging if the
catalog in effect supplies a text, one event for debugging if a phrase is its own text, and one
warning if nothing is found.  Translating for a count appends one event more, which is for tracing.
-/
theorem journal_tells_misses (s : Session σ) (key : String) (args : Args) :
    ∃ reported : List Event,
      (s.translate key args).2 = { s with events := s.events ++ reported } ∧
      (Event.countAt .warn reported = 0 ∧ Event.countAt .debug reported = 0 ↔
        ∃ text, s.translator.Supplies key text) ∧
      (Event.countAt .debug reported = 1 ∧ Event.countAt .warn reported = 0 ↔
        s.translator.TakesAsText key) ∧
      (Event.countAt .warn reported = 1 ∧ Event.countAt .debug reported = 0 ↔
        s.translator.Misses key) ∧
      (∀ text, s.translator.Supplies key text → (s.translate key args).1 = substitute text args) ∧
      (s.translator.TakesAsText key ∨ s.translator.Misses key →
        (s.translate key args).1 = substitute key args) ∧
      Event.countAt .trace reported = 0 ∧
      ∀ count, ∃ e : Event, e.level = .trace ∧
        (s.translateCountable key count args).2 =
          { s with events := s.events ++ (reported ++ [e]) } := by
  have hdiagnosis := s.translator.diagnosis key
  refine ⟨s.translator.lookupEvents key, rfl, hdiagnosis.silent_iff, hdiagnosis.debug_iff,
    hdiagnosis.warn_iff, ?_, ?_, hdiagnosis.countAt_trace, fun count => ⟨_, rfl, rfl⟩⟩
  · intro text hsupplies
    exact congrArg (substitute · args) (Translator.lookup_of_supplies hsupplies)
  · intro hmissing
    -- In neither case is there a text, so that the key stands for itself.
    have hnone : ∀ text, ¬ s.translator.Supplies key text := by
      intro text hsupplies
      rcases hmissing with htaken | hmisses
      · exact hsupplies.not_takesAsText htaken
      · exact hsupplies.not_misses hmisses
    exact congrArg (substitute · args) (Translator.lookup_of_not_supplies hnone)

/-- A session in which a phrase has itself as its text. -/
def echoing : Session Unit :=
  (Builder.sample.messages [("de", .node [("Save changes", .text "Save changes")])]).build ()

/-- Three keys are said as they stand, but only the first of them was found, and only for this one
the journal says nothing. -/
theorem journal_tells_misses_echoing :
    ((echoing.translate "Save changes" ∅).1 = substitute "Save changes" ∅ ∧
      (echoing.translate "Drop changes" ∅).1 = substitute "Drop changes" ∅ ∧
      (echoing.translate "title" ∅).1 = substitute "title" ∅) ∧
    (∃ reported, (echoing.translate "Save changes" ∅).2 =
        { echoing with events := echoing.events ++ reported } ∧
      Event.countAt .warn reported = 0 ∧ Event.countAt .debug reported = 0) ∧
    (∃ reported, (echoing.translate "Drop changes" ∅).2 =
        { echoing with events := echoing.events ++ reported } ∧
      Event.countAt .debug reported = 1 ∧ Event.countAt .warn reported = 0) ∧
    ∃ reported, (echoing.translate "title" ∅).2 =
        { echoing with events := echoing.events ++ reported } ∧
      Event.countAt .warn reported = 1 ∧ Event.countAt .debug reported = 0 := by
  -- The keys are one with its own text under it, a phrase without one, and a path to nowhere.
  have hsupplies : echoing.translator.Supplies "Save changes" "Save changes" :=
    ⟨_, rfl, .phrase (by decide) rfl⟩
  have htaken : echoing.translator.TakesAsText "Drop changes" :=
    ⟨_, rfl, by decide, fun text h => nomatch h⟩
  have hmisses : echoing.translator.Misses "title" :=
    Or.inr ⟨_, rfl, by decide, fun text h => nomatch h⟩
  obtain ⟨found, hfound, hsilent, -, -, hsaid, -⟩ :=
    journal_tells_misses echoing "Save changes" ∅
  obtain ⟨noted, hnoted, -, hdebug, -, -, hown, -⟩ :=
    journal_tells_misses echoing "Drop changes" ∅
  obtain ⟨warned, hwarned, -, -, hwarn, -, hown', -⟩ := journal_tells_misses echoing "title" ∅
  exact ⟨⟨hsaid _ hsupplies, hown (Or.inl htaken), hown' (Or.inr hmisses)⟩,
    ⟨found, hfound, hsilent.2 ⟨_, hsupplies⟩⟩, ⟨noted, hnoted, hdebug.2 htaken⟩,
    ⟨warned, hwarned, hwarn.2 hmisses⟩⟩

end Session

end Phrasebook
