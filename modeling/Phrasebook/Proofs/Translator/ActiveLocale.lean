import Phrasebook.Proofs.Translator.Session

/-!
# The active locale over whole runs

A locale becomes active when it has a catalog, and no operation takes a catalog away.  So the active
locale of any session of a run has a catalog, unless it is still the one that was read from the
preference when the translator was built.

* `Session.Transition.has_mono`: a transition keeps the loaded locales.
* `Session.Transition.locale_eq_or_activeLoaded`: it keeps the active locale, or makes a loaded one
  active.
* `Session.pairwise_has`, `Session.pairwise_activeLoaded`: so a loaded locale stays loaded to the
  end of a run, and behind a session with its active locale loaded all have theirs loaded.
* `Builder.activeLoaded_install`: an installation that succeeds leaves the active locale loaded, if
  there is a source of catalogs.
* `Builder.activeLocale_of_starts` follows these through the runs of all sessions that a builder
  starts (`Builder.Starts`).

While the active locale is loaded, lookups are independent of the fallback and of the catalogs of
all other locales (`Translator.independent_of_has`).
-/

namespace Phrasebook

/-! ### Lookups in the catalog of the active locale -/

namespace Translator

/-- `t.SharesActive u`: the same locale is active in both translators, with the same catalog. -/
structure SharesActive (t u : Translator) : Prop where
  locale : u.locale = t.locale
  catalog : u.store.catalog u.locale = t.store.catalog t.locale

/-- `t.Independent`: lookups give and report what the catalog of the active locale says, whatever
the fallback is and whatever other catalogs there are. -/
structure Independent (t : Translator) : Prop where
  /-- The catalog in effect is that of the active locale. -/
  effective : ∃ tree, t.store.catalog t.locale = some tree ∧ t.effective = some (t.locale, tree)
  /-- The text of a key is that in any translator with the same active catalog. -/
  translate : ∀ {u}, t.SharesActive u → ∀ key args, u.translate key args = t.translate key args
  /-- The variant for a count is that in any translator with the same active catalog. -/
  translateCountable : ∀ {u}, t.SharesActive u → ∀ key count args,
    u.translateCountable key count args = t.translateCountable key count args
  /-- A lookup reports what it does in any translator with the same active catalog. -/
  lookupEvents : ∀ {u}, t.SharesActive u → ∀ key, u.lookupEvents key = t.lookupEvents key

theorem effective_of_catalog {t : Translator} {tree : MessageTree}
    (h : t.store.catalog t.locale = some tree) : t.effective = some (t.locale, tree) := by
  unfold effective
  rw [h]

/-- While the active locale has a catalog, no lookup depends on the fallback. -/
theorem independent_of_has {t : Translator} (h : t.store.has t.locale = true) :
    t.Independent := by
  rw [Store.has_eq_isSome_catalog] at h
  obtain ⟨tree, htree⟩ := Option.isSome_iff_exists.1 h
  -- The catalog in effect is the active one, which the two translators share.
  have heffective : ∀ {u}, t.SharesActive u → u.effective = t.effective := by
    intro u hu
    rw [effective_of_catalog htree, effective_of_catalog (hu.catalog.trans htree), hu.locale]
  have htranslate : ∀ {u}, t.SharesActive u → ∀ key args,
      u.translate key args = t.translate key args := by
    intro u hu key args
    unfold Translator.translate lookup
    rw [heffective hu]
  refine ⟨⟨tree, htree, effective_of_catalog htree⟩, htranslate, ?_, ?_⟩
  · intro u hu key count args
    unfold Translator.translateCountable
    rw [htranslate hu]
  · intro u hu key
    unfold Translator.lookupEvents
    rw [heffective hu]

end Translator

/-! ### Transitions -/

namespace Session

variable {σ : Type} {s t : Session σ}

/-- The active locale has a catalog. -/
def ActiveLoaded (s : Session σ) : Prop :=
  s.translator.store.has s.translator.locale = true

/-- A transition takes no catalog away. -/
theorem Transition.has_mono {outcome : Outcome} (h : s.Transition outcome t) {locale : String}
    (hhas : s.translator.store.has locale = true) : t.translator.store.has locale = true := by
  cases h with
  | kept keeps => rw [keeps.translator]; exact hhas
  | stored translator _ => rw [translator]; exact Store.has_set_of_has hhas _ _
  | activated _ translator _ => rw [translator]; exact hhas
  | loaded translator _ => rw [translator]; exact Store.has_set_of_has hhas _ _
  | diverted translator _ => rw [translator]; exact hhas
  | overwritten translator _ => rw [translator]; exact hhas

/-- A transition leaves the active locale, or makes one active that has a catalog behind it. -/
theorem Transition.locale_eq_or_activeLoaded {outcome : Outcome} (h : s.Transition outcome t) :
    t.translator.locale = s.translator.locale ∨ t.ActiveLoaded := by
  unfold ActiveLoaded
  cases h with
  | kept keeps => exact Or.inl (congrArg Translator.locale keeps.translator)
  | stored translator _ =>
    rw [translator]
    exact Or.inl rfl
  | activated has translator _ =>
    rw [translator]
    exact Or.inr has
  | loaded translator _ =>
    rw [translator]
    exact Or.inr (Store.has_set_self _ _ _)
  | diverted translator _ =>
    rw [translator]
    exact Or.inl rfl
  | overwritten translator _ => exact Or.inl (congrArg Translator.locale translator)

/-- Once the active locale is loaded, it stays so. -/
theorem Transition.activeLoaded {outcome : Outcome} (h : s.Transition outcome t)
    (hs : s.ActiveLoaded) : t.ActiveLoaded := by
  rcases h.locale_eq_or_activeLoaded with hlocale | ht
  · have hhas := h.has_mono hs
    unfold ActiveLoaded
    rw [hlocale]
    exact hhas
  · exact ht

/-! ### Runs -/

/-- No session of a run lacks a locale that an earlier one has. -/
theorem pairwise_has (fetcher : Fetcher σ) (ops : List Operation) (s : Session σ) :
    (s.states fetcher ops).Pairwise fun t u =>
      ∀ locale, t.translator.store.has locale → u.translator.store.has locale := by
  apply pairwise_states
  · intro t u v htu huv locale hhas
    exact huv locale (htu locale hhas)
  · intro t u outcome h locale hhas
    exact h.has_mono hhas

/-- Once the active locale is loaded, it is so in all later sessions of a run. -/
theorem pairwise_activeLoaded (fetcher : Fetcher σ) (ops : List Operation) (s : Session σ) :
    (s.states fetcher ops).Pairwise fun t u => t.ActiveLoaded → u.ActiveLoaded := by
  apply pairwise_states
  · intro t u v htu huv ht
    exact huv (htu ht)
  · intro t u outcome h ht
    exact h.activeLoaded ht

/-- The active locale is a given one or loaded in all sessions of a run, if it is in the first. -/
theorem locale_eq_or_activeLoaded_of_mem_states {fetcher : Fetcher σ} {ops : List Operation}
    {locale : String} (h : s.translator.locale = locale ∨ s.ActiveLoaded)
    (ht : t ∈ s.states fetcher ops) : t.translator.locale = locale ∨ t.ActiveLoaded := by
  refine forall_mem_states (P := fun t => t.translator.locale = locale ∨ t.ActiveLoaded)
    ?_ h ops t ht
  intro u v outcome hstep hu
  rcases hu with hlocale | hloaded
  · exact hstep.locale_eq_or_activeLoaded.imp_left fun heq => heq.trans hlocale
  · exact Or.inr (hstep.activeLoaded hloaded)

end Session

/-! ### Sessions that a builder starts -/

namespace Builder

variable {σ : Type} {fetcher : Fetcher σ}

/-- `b.Starts fetcher s`: the session `s` is what the builder gives, with a fetcher in any state, by
building or by an installation that succeeds. -/
inductive Starts (b : Builder) (fetcher : Fetcher σ) : Session σ → Prop
  | build (source : σ) : Starts b fetcher (b.build source)
  | install {mode : Mode} {source : σ} (h : (b.install fetcher mode source).1 = .ok ()) :
      Starts b fetcher (b.install fetcher mode source).2

theorem Starts.has_of_has {b : Builder} {s : Session σ} (h : b.Starts fetcher s) {locale : String}
    (hhas : b.store.has locale = true) : s.translator.store.has locale = true := by
  cases h with
  | build source => exact hhas
  | @install mode source h => exact (b.loading_install fetcher mode source).transition.has_mono hhas

theorem Starts.locale_eq_or_activeLoaded {b : Builder} {s : Session σ} (h : b.Starts fetcher s) :
    s.translator.locale = b.preference.current ∨ s.ActiveLoaded := by
  cases h with
  | build source => exact Or.inl rfl
  | @install mode source h =>
    exact (b.loading_install fetcher mode source).transition.locale_eq_or_activeLoaded

/-- Behind an installation that succeeds the active locale is loaded, if there is a source. -/
theorem activeLoaded_install {b : Builder} {mode : Mode} {source : σ} {url : String}
    (hurl : b.url = some url) (h : (b.install fetcher mode source).1 = .ok ()) :
    (b.install fetcher mode source).2.ActiveLoaded := by
  have hload := b.loading_install fetcher mode source
  rw [h] at hload
  generalize (b.install fetcher mode source).2 = t at hload
  unfold Session.ActiveLoaded
  cases hload with
  | skipped guard keeps _ _ =>
    -- There is a source, so the load was skipped as the catalog is one of the builder's.
    rcases guard with hnone | ⟨hhas, -⟩
    · rw [remote_build, hurl] at hnone
      exact nomatch hnone
    · rw [keeps.translator]
      exact hhas
  | fetched _ _ _ active =>
    rw [active.translator]
    exact Store.has_set_self _ _ _

/-- **The active locale has a catalog.**  In every run a loaded locale stays loaded, and the active
locale is loaded, unless it is still the one that the builder has read from the preference.  Behind
an installation that has succeeded with a source it is loaded in all sessions, and no lookup in any
of them depends on the fallback. -/
theorem activeLocale_of_starts {σ : Type} (b : Builder) (fetcher : Fetcher σ)
    (ops : List Session.Operation) :
    (∀ s : Session σ, b.Starts fetcher s →
      (∀ t ∈ s.states fetcher ops, ∀ locale, b.store.has locale → t.translator.store.has locale) ∧
      ((s.states fetcher ops).Pairwise fun t u =>
        ∀ locale, t.translator.store.has locale → u.translator.store.has locale) ∧
      (∀ t ∈ s.states fetcher ops,
        t.translator.locale = b.preference.current ∨ t.ActiveLoaded) ∧
      (s.states fetcher ops).Pairwise fun t u => t.ActiveLoaded → u.ActiveLoaded) ∧
    ∀ (url : String) (mode : Mode) (source : σ), b.url = some url →
      (b.install fetcher mode source).1 = .ok () →
        ∀ t ∈ (b.install fetcher mode source).2.states fetcher ops,
          t.ActiveLoaded ∧ t.translator.Independent := by
  constructor
  · intro s hs
    refine ⟨?_, Session.pairwise_has fetcher ops s, ?_, Session.pairwise_activeLoaded fetcher ops s⟩
    · intro t ht locale hhas
      -- What the builder has is there at the start, and from then on in all sessions.
      have hsub := Session.rel_of_mem_states (fun _ h => h) (Session.pairwise_has fetcher ops s) ht
      exact hsub locale (hs.has_of_has hhas)
    · intro t ht
      exact Session.locale_eq_or_activeLoaded_of_mem_states hs.locale_eq_or_activeLoaded ht
  · intro url mode source hurl hok t ht
    have hloaded : t.ActiveLoaded :=
      Session.rel_of_mem_states (fun h => h) (Session.pairwise_activeLoaded fetcher ops _) ht
        (activeLoaded_install hurl hok)
    exact ⟨hloaded, Translator.independent_of_has hloaded⟩

/-- A run that starts with a fetch, and in which a fallback without a catalog is set and made active
in vain. -/
theorem activeLocale_of_starts_sample :
    (sample.Starts (Fetcher.constant fun _ => .ok (.text "Ja")) (sample.build ()) ∧
      ∀ t ∈ (sample.build ()).states (Fetcher.constant fun _ => .ok (.text "Ja"))
          [.setLocale .async "fr", .setFallback "en"],
        t.translator.locale = "de" ∨ t.ActiveLoaded) ∧
    (sample.install (Fetcher.constant fun _ => .ok (.text "Ja")) .blocking ()).1 = .ok () ∧
    ∀ t ∈ (sample.install (Fetcher.constant fun _ => .ok (.text "Ja")) .blocking ()).2.states
        (Fetcher.constant fun _ => .ok (.text "Ja")) [.setFallback "en", .activate "en"],
      t.ActiveLoaded ∧ t.translator.Independent := by
  have hstarts : sample.Starts (Fetcher.constant fun _ => .ok (.text "Ja")) (sample.build ()) :=
    .build ()
  have hdone : ∀ result : Except LoadError Unit, result.isOk = true → result = .ok ()
    | .ok (), _ => rfl
  -- The run is evaluated as far as the outcome of the installation.
  have hok := hdone (sample.install (Fetcher.constant fun _ => .ok (.text "Ja")) .blocking ()).1
    (by decide +kernel)
  refine ⟨⟨hstarts, ?_⟩, hok, ?_⟩
  · exact ((activeLocale_of_starts sample _ _).1 _ hstarts).2.2.1
  · exact (activeLocale_of_starts sample _ _).2 "app:catalogs" .blocking () rfl hok

end Builder

end Phrasebook
