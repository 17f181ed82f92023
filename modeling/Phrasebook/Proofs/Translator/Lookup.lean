import Phrasebook.Proofs.Key
import Phrasebook.Proofs.Translator.ActiveLocale

/-!
# What a lookup depends on

A lookup is made in one catalog: that of the active locale, or that of the fallback while the active
locale has none (`Translator.lookup_eq`).  Nothing else of a session has a part in it, so that two
sessions in which these catalogs have the same texts cannot be told apart by translating.  In
particular a key that the catalog of the active locale does not have is its own text, whatever the
fallback has for it.

* `MessageTree.phrase` is what a catalog says for a key.
* `Session.SaysAs`: translating gives the same in two sessions.
* `Session.translations_of_catalogs` says when it does, and when a key is its own text.  Catalogs
  that are equal up to the order of children have the same texts.
-/

namespace Phrasebook

/-- The text at the address of a key, or the key if there is none. -/
def MessageTree.phrase (t : MessageTree) (key : String) : String :=
  (t.lookup (address key)).getD key

theorem MessageTree.textOr_resolve (t : MessageTree) (key : String) :
    (resolve key t).textOr key = t.phrase key := by
  rw [resolve_eq, MessageTree.phrase]
  cases t.lookup (address key) with
  | none =>
    show (Resolution.missing key).textOr key = key
    unfold Resolution.missing
    split <;> rfl
  | some text => rfl

theorem MessageTree.Agrees.phrase_eq {t u : MessageTree} (h : t.Agrees u) (key : String) :
    t.phrase key = u.phrase key := by
  rw [phrase, phrase, h]

/-- A key that finds no text in a catalog is its own. -/
theorem MessageTree.phrase_of_missing {t : MessageTree} {key : String}
    (h : ∀ text, resolve key t ≠ .found text) : t.phrase key = key := by
  unfold phrase
  cases hlookup : t.lookup (address key) with
  | none => rfl
  | some text => exact absurd (resolve_eq_found_iff.2 hlookup) (h text)

/-! ### The catalog in effect -/

namespace Translator

/-- The catalog of the active locale, if it is loaded. -/
def activeCatalog (t : Translator) : Option MessageTree :=
  t.store.catalog t.locale

/-- The catalog of the fallback, if it is loaded. -/
def fallbackCatalog (t : Translator) : Option MessageTree :=
  t.store.catalog t.fallback

/-- The catalog in effect is that of the active locale, or else that of the fallback. -/
theorem map_snd_effective (t : Translator) :
    t.effective.map Prod.snd = t.activeCatalog.or t.fallbackCatalog := by
  unfold effective activeCatalog fallbackCatalog
  cases t.store.catalog t.locale with
  | some tree => rfl
  | none => cases t.store.catalog t.fallback <;> rfl

/-- A key is looked up in the catalog of the active locale, or else in that of the fallback, and
without either it is its own text. -/
theorem lookup_eq (t : Translator) (key : String) :
    t.lookup key =
      ((t.activeCatalog.or t.fallbackCatalog).map fun tree => tree.phrase key).getD key := by
  unfold lookup
  rw [← map_snd_effective]
  cases t.effective with
  | none => rfl
  | some pair => exact pair.2.textOr_resolve key

end Translator

/-! ### Translations -/

namespace Session

variable {σ τ : Type} {s : Session σ} {t : Session τ}

/-- `s.SaysAs t`: translating gives the same in both sessions. -/
structure SaysAs (s : Session σ) (t : Session τ) : Prop where
  translate : ∀ key args, (s.translate key args).1 = (t.translate key args).1
  countable : ∀ key count args,
    (s.translateCountable key count args).1 = (t.translateCountable key count args).1

/-- `s.SaysKey key`: the key is its own text in the session. -/
structure SaysKey (s : Session σ) (key : String) : Prop where
  translate : ∀ args, (s.translate key args).1 = substitute key args
  countable : ∀ count args,
    (s.translateCountable key count args).1 = Choice.choose (substitute key args) count

/-- What is said in a session is decided by the texts of keys. -/
theorem saysAs_of_lookup (h : ∀ key, s.translator.lookup key = t.translator.lookup key) :
    s.SaysAs t := by
  have htext : ∀ key args, s.translator.translate key args = t.translator.translate key args := by
    intro key args
    rw [Translator.translate, Translator.translate, h]
  refine ⟨htext, fun key count args => ?_⟩
  exact congrArg (Choice.choose · count) (htext key args)

theorem saysKey_of_lookup {key : String} (h : s.translator.lookup key = key) : s.SaysKey key := by
  have htext : ∀ args, s.translator.translate key args = substitute key args := by
    intro args
    rw [Translator.translate, h]
  refine ⟨htext, fun count args => ?_⟩
  exact congrArg (Choice.choose · count) (htext args)

/-- Lookups in catalogs with the same texts give the same, whichever locales they are for. -/
theorem saysAs_of_agrees {tree tree' : MessageTree} (hagrees : tree.Agrees tree')
    (hs : s.translator.activeCatalog.or s.translator.fallbackCatalog = some tree)
    (ht : t.translator.activeCatalog.or t.translator.fallbackCatalog = some tree') :
    s.SaysAs t := by
  refine saysAs_of_lookup fun key => ?_
  rw [Translator.lookup_eq, Translator.lookup_eq, hs, ht]
  exact hagrees.phrase_eq key

/-- **The catalog in effect decides what is said.**  Two sessions say the same for all keys if both
have catalogs of their active locales, or neither has but both have catalogs of their fallbacks, and
these have the same texts.  Without either catalog each key is its own text, and so is a key that
has no text in the catalog of the active locale. -/
theorem translations_of_catalogs {σ τ : Type} (s : Session σ) (t : Session τ) :
    (∀ tree tree' : MessageTree, tree.Keyed → tree.same tree' = true → tree.Agrees tree') ∧
    (∀ tree tree' : MessageTree, tree.Agrees tree' →
      s.translator.activeCatalog = some tree → t.translator.activeCatalog = some tree' →
        s.SaysAs t) ∧
    (∀ tree tree' : MessageTree, tree.Agrees tree' →
      s.translator.activeCatalog = none → t.translator.activeCatalog = none →
      s.translator.fallbackCatalog = some tree → t.translator.fallbackCatalog = some tree' →
        s.SaysAs t) ∧
    (s.translator.activeCatalog = none → s.translator.fallbackCatalog = none →
      ∀ key, s.SaysKey key) ∧
    ∀ (tree : MessageTree) (key : String), s.translator.activeCatalog = some tree →
      (∀ text, resolve key tree ≠ .found text) → s.SaysKey key := by
  -- Each part picks the catalog in effect: the active one, that of the fallback, or none.
  refine ⟨fun tree tree' hkeyed hsame => hkeyed.agrees_of_same hsame, ?_, ?_, ?_, ?_⟩
  · intro tree tree' hagrees hs ht
    apply saysAs_of_agrees hagrees
    · rw [hs, Option.some_or]
    · rw [ht, Option.some_or]
  · intro tree tree' hagrees hs ht hs' ht'
    apply saysAs_of_agrees hagrees
    · rw [hs, hs', Option.none_or]
    · rw [ht, ht', Option.none_or]
  · intro hactive hfallback key
    apply saysKey_of_lookup
    rw [Translator.lookup_eq, hactive, hfallback]
    rfl
  · intro tree key hactive hmissing
    apply saysKey_of_lookup
    rw [Translator.lookup_eq, hactive]
    exact MessageTree.phrase_of_missing hmissing

/-- The catalog of `MessageTree.sample` with its children in another order. -/
def reordered : MessageTree :=
  .node [("user.name", .text "flat"),
    ("user", .node [("full name", .text "Full"), ("name", .text "Name")]),
    ("Save changes", .text "Save")]

/-- A session in which the fallback has a text that the active locale does not have. -/
def germanSample : Session Unit :=
  (Builder.sample.messages
    [("de", MessageTree.sample), ("en", .node [("title", .text "Title")])]).build ()

/-- A session without a source, and without a catalog of its fallback. -/
def frenchSample : Session Bool :=
  let builder := { Builder.empty with preference := some "fr", fallback := "it" }
  (builder.catalog "fr" reordered).build true

/-- The active catalogs differ in the order of children only, so the sessions say the same; and the
first says a key itself although its fallback has a text for it. -/
theorem translations_of_catalogs_reordered :
    germanSample.translator.activeCatalog = some MessageTree.sample ∧
    frenchSample.translator.activeCatalog = some reordered ∧
    germanSample.translator.fallbackCatalog = some (.node [("title", .text "Title")]) ∧
    germanSample.SaysAs frenchSample ∧ germanSample.SaysKey "title" := by
  have hgerman : germanSample.translator.activeCatalog = some MessageTree.sample := rfl
  have hfrench : frenchSample.translator.activeCatalog = some reordered := rfl
  have hsame : MessageTree.sample.same reordered = true := by decide +kernel
  have hmissing : ∀ text, resolve "title" MessageTree.sample ≠ .found text := by
    have hnone : resolve "title" MessageTree.sample = .notFound := by decide +kernel
    intro text hfound
    exact nomatch hnone.symm.trans hfound
  obtain ⟨hagrees, hactive, -, -, hown⟩ := translations_of_catalogs germanSample frenchSample
  refine ⟨hgerman, hfrench, rfl, ?_, hown _ _ hgerman hmissing⟩
  exact hactive _ _ (hagrees _ _ MessageTree.keyed_sample hsame) hgerman hfrench

end Session

end Phrasebook
