import Phrasebook.Proofs.App.CatalogFiles

/-!
# The command line without a source of catalogs

What a command gives depends on the options, the configuration and the catalog files, and is said
here without the steps of the application: which invocations fail, and with what; which catalog
each locale has; and what text a key stands for.

* `Options.select` says what is in effect behind the overrides of the command line, and
  `Selection.text` what a key stands for then.
* `App.prepare_cases` goes through the stages: a catalog file is refused, or a locale has no
  catalog, or the prepared session has what the options select (`Selection.InEffect`).
* `App.prepare_execute_of_url_none` says the same from outside, together with what the commands
  give: each name of an argument is bound once, at the place where it was first given, to the value
  that was given last.
-/

namespace Phrasebook

/-! ### What is in effect -/

/-- The catalogs and locales that are in effect. -/
structure Selection where
  active : String
  fallback : String
  catalog : String → Option MessageTree

/-- The text that a key stands for: what it is resolved to in the catalog of the active locale, or
else of the fallback, and the key itself if there is none. -/
def Selection.text (x : Selection) (key : String) : String :=
  ((x.catalog x.active).or (x.catalog x.fallback)).elim key fun tree =>
    (resolve key tree).textOr key

/-- What is in effect behind the options: they go before the configuration, and of the catalogs
that are given by files the last one for a locale counts. -/
def Options.select (options : Options) (config : Config) (given : List (String × MessageTree)) :
    Selection where
  active := options.locale.getD config.locale.default
  fallback := options.fallback.getD config.locale.fallback
  catalog := fun locale => (Entries.last? locale given).or (config.messages.find? locale)

/-- `x.InEffect t`: the translator has these catalogs and locales. -/
structure Selection.InEffect (x : Selection) (t : Translator) : Prop where
  locale : t.locale = x.active
  fallback : t.fallback = x.fallback
  catalog : ∀ locale, t.store.catalog locale = x.catalog locale

theorem Selection.InEffect.lookup {x : Selection} {t : Translator} (h : x.InEffect t)
    (key : String) : t.lookup key = x.text key := by
  unfold Selection.text Translator.lookup Translator.effective
  rw [← h.catalog, ← h.catalog, ← h.locale, ← h.fallback]
  cases t.store.catalog t.locale with
  | some tree => rfl
  | none => cases t.store.catalog t.fallback <;> rfl

/-- `options.Knows config locale`: the configuration or a catalog file of the options has a catalog
of the locale. -/
def Options.Knows (options : Options) (config : Config) (locale : String) : Prop :=
  locale ∈ config.messages.keys ∨ ∃ file ∈ options.catalogs, file.locale = locale

/-- The locales that have a catalog are those that the options and the configuration know. -/
theorem Options.isSome_catalog_select {options : Options} {config : Config} {files : Files}
    {given : List (String × MessageTree)} (h : List.Forall₂ files.Gives options.catalogs given)
    (locale : String) :
    ((options.select config given).catalog locale).isSome ↔ options.Knows config locale := by
  show ((Entries.last? locale given).or (config.messages.entries.find? locale)).isSome ↔ _
  rw [Option.isSome_or, Bool.or_eq_true, Entries.last?_isSome_iff, Entries.find?_isSome_iff,
    Files.keys_of_gives h, List.mem_map, or_comm]
  rfl

/-- The builder of a configuration has the catalogs of the configuration. -/
theorem Config.catalog_builder (config : Config) (locale : String) :
    config.builder.store.catalog locale = config.messages.find? locale := by
  have hcollects := Builder.collects_messages Builder.empty config.messages.entries
  refine (hcollects.catalog locale).trans ?_
  rw [Entries.last?_eq_find? config.messages.nodup]
  exact Option.or_none

namespace App

variable {σ : Type} {fetcher : Fetcher σ} {source : σ} {s : Session σ} {files : Files}
  {options : Options} {config : Config}

/-! ### The stages of the application -/

/-- Without a source, choosing the locale of the options only sets it, if it has a catalog. -/
theorem chooseLocale_of_has (fetcher : Fetcher σ) (hremote : s.translator.remote = none)
    (h : ∀ locale, options.locale = some locale → s.translator.store.has locale = true) :
    (chooseLocale fetcher options s).1 = .ok () ∧
      (chooseLocale fetcher options s).2.translator =
        { s.translator with locale := options.locale.getD s.translator.locale } := by
  unfold chooseLocale
  cases hlocale : options.locale with
  | none => exact ⟨rfl, rfl⟩
  | some locale =>
    obtain ⟨t, hkeeps, hset⟩ := Session.setLocale_of_remote_none hremote fetcher .async locale
    have hhas : t.translator.store.has locale = true := by
      rw [hkeeps.translator]
      exact h locale hlocale
    obtain ⟨hok, hactive⟩ := Session.activate_of_has hhas
    dsimp only
    rw [hset, hactive.translator, hkeeps.translator]
    exact ⟨hok, rfl⟩

/-- Without a source, a locale that has no catalog cannot be chosen. -/
theorem chooseLocale_of_not_has (hremote : s.translator.remote = none) {locale : String}
    (hlocale : options.locale = some locale) (h : ¬ s.translator.store.has locale = true) :
    (chooseLocale fetcher options s).1 = .error (.localeNotLoaded locale) := by
  obtain ⟨t, hkeeps, hset⟩ := Session.setLocale_of_remote_none hremote fetcher .async locale
  unfold chooseLocale
  rw [hlocale]
  dsimp only
  rw [hset]
  exact (Session.activate_of_not_has (hkeeps.translator ▸ h)).1

/-- Behind the catalog files and an installation that succeeds, preparing is choosing the locale. -/
theorem prepare_of_installed {b : Builder}
    (hadd : addCatalogs files options.catalogs config.builder = (.ok (), b))
    (hinstall : (setFallback options b).install fetcher .async source = (.ok (), s)) :
    (prepare files fetcher source options config).1 =
        (chooseLocale fetcher options s).1.mapError AppError.load ∧
      (prepare files fetcher source options config).2.translator =
        (chooseLocale fetcher options s).2.translator := by
  unfold prepare
  rw [hadd]
  dsimp only
  rw [hinstall]
  dsimp only
  rcases chooseLocale fetcher options s with ⟨_ | _, t⟩ <;> exact ⟨rfl, rfl⟩

/-- Without a source, installing is what building is: the fallback of the options goes before that
of the configuration. -/
theorem exists_installed {given : List (String × MessageTree)} {b : Builder}
    (hcollects : config.builder.Collects given b) (hurl : config.remote.url = none)
    (fetcher : Fetcher σ) (source : σ) (options : Options) :
    ∃ s : Session σ, (setFallback options b).install fetcher .async source = (.ok (), s) ∧
      s.translator = ⟨b.store, config.locale.default,
        options.fallback.getD config.locale.fallback, none⟩ := by
  have hnone : b.url = none := hcollects.url.trans hurl
  have hpreference : b.preference = some config.locale.default := hcollects.preference
  have hfallback : b.fallback = config.locale.fallback := hcollects.fallback
  obtain ⟨hok, hkeeps⟩ := Builder.install_of_url_none (b := setFallback options b) hnone fetcher
    .async source
  refine ⟨_, Prod.ext hok rfl, ?_⟩
  rw [hkeeps.translator]
  unfold Builder.build setFallback
  rw [hnone, hpreference, hfallback]
  rfl

/-- If no catalog file is refused, then preparing fails at a locale that has no catalog, or leaves
what the options select. -/
theorem prepare_of_added {given : List (String × MessageTree)} {b : Builder}
    (hadd : addCatalogs files options.catalogs config.builder = (.ok (), b))
    (hgiven : List.Forall₂ files.Gives options.catalogs given)
    (hcollects : config.builder.Collects given b) (hurl : config.remote.url = none)
    (fetcher : Fetcher σ) (source : σ) :
    (∃ locale, options.locale = some locale ∧ ¬ options.Knows config locale ∧
      (prepare files fetcher source options config).1 = .error (.load (.localeNotLoaded locale))) ∨
    (∀ locale, options.locale = some locale → options.Knows config locale) ∧
      (prepare files fetcher source options config).1 = .ok () ∧
      (options.select config given).InEffect
        (prepare files fetcher source options config).2.translator := by
  obtain ⟨s, hinstall, hs⟩ := exists_installed hcollects hurl fetcher source options
  obtain ⟨hprepare, htranslator⟩ := prepare_of_installed hadd hinstall
  rw [hprepare, htranslator]
  -- What is installed has the selected catalogs, and a locale is known if it is among them.
  have hremote : s.translator.remote = none := congrArg Translator.remote hs
  have hcatalog : ∀ locale,
      s.translator.store.catalog locale = (options.select config given).catalog locale := by
    intro locale
    rw [hs]
    refine (hcollects.catalog locale).trans ?_
    rw [Config.catalog_builder]
    rfl
  have hhas : ∀ locale, s.translator.store.has locale = true ↔ options.Knows config locale := by
    intro locale
    rw [Store.has_eq_isSome_catalog, hcatalog, Options.isSome_catalog_select hgiven]
  by_cases hknows : ∀ locale, options.locale = some locale → options.Knows config locale
  · obtain ⟨hok, hleft⟩ := chooseLocale_of_has fetcher hremote
      fun locale hlocale => (hhas locale).2 (hknows locale hlocale)
    rw [hok, hleft]
    refine Or.inr ⟨hknows, rfl, ?_, ?_, hcatalog⟩
    · show options.locale.getD s.translator.locale = options.locale.getD config.locale.default
      rw [hs]
    · show s.translator.fallback = options.fallback.getD config.locale.fallback
      rw [hs]
  · -- The locale of the options is not known, and there is no source to ask.
    obtain ⟨locale, hunknown⟩ := not_forall.1 hknows
    obtain ⟨hlocale, hunknown⟩ := Classical.not_imp.1 hunknown
    rw [chooseLocale_of_not_has hremote hlocale ((hhas locale).not.2 hunknown)]
    exact Or.inl ⟨locale, hlocale, hunknown, rfl⟩

/-- Preparing a session stops at a catalog file that is refused, or at a locale that has no catalog,
or leaves what the options select. -/
theorem prepare_cases (hurl : config.remote.url = none) (files : Files) (fetcher : Fetcher σ)
    (source : σ) (options : Options) :
    (∃ e, files.FirstRefused options.catalogs e ∧
      (prepare files fetcher source options config).1 = .error e) ∨
    ∃ given, List.Forall₂ files.Gives options.catalogs given ∧
      ((∃ locale, options.locale = some locale ∧ ¬ options.Knows config locale ∧
          (prepare files fetcher source options config).1 =
            .error (.load (.localeNotLoaded locale))) ∨
        (∀ locale, options.locale = some locale → options.Knows config locale) ∧
          (prepare files fetcher source options config).1 = .ok () ∧
          (options.select config given).InEffect
            (prepare files fetcher source options config).2.translator) := by
  have hadd : addCatalogs files options.catalogs config.builder =
    ((addCatalogs files options.catalogs config.builder).1,
      (addCatalogs files options.catalogs config.builder).2) := rfl
  -- The catalog files come first, so that a refused one ends the preparation.
  cases hresult : (addCatalogs files options.catalogs config.builder).1 with
  | error e =>
    refine Or.inl ⟨e, fst_addCatalogs_eq_error_iff.1 hresult, ?_⟩
    rw [hresult] at hadd
    unfold prepare
    rw [hadd]
  | ok _ =>
    obtain ⟨given, hgiven, hcollects⟩ := collects_addCatalogs hresult
    rw [hresult] at hadd
    exact Or.inr ⟨given, hgiven, prepare_of_added hadd hgiven hcollects hurl fetcher source⟩

theorem fst_prepare_eq_ok_iff (hurl : config.remote.url = none) :
    (prepare files fetcher source options config).1 = .ok () ↔
      (∀ file ∈ options.catalogs, ∃ tree, files.Provides file tree) ∧
        ∀ locale, options.locale = some locale → options.Knows config locale := by
  obtain ⟨e, hfirst, hresult⟩ | ⟨given, hgiven, hcases⟩ :=
    prepare_cases hurl files fetcher source options
  · rw [hresult]
    constructor
    · exact fun h => nomatch h
    · exact fun h => absurd h.1 (not_provides_of_firstRefused hfirst)
  obtain ⟨locale, hlocale, hunknown, hresult⟩ | ⟨hknows, hresult, -⟩ := hcases
  · rw [hresult]
    constructor
    · exact fun h => nomatch h
    · exact fun h => absurd (h.2 locale hlocale) hunknown
  · exact ⟨fun _ => ⟨Files.provides_of_gives hgiven, hknows⟩, fun _ => hresult⟩

theorem fst_prepare_eq_error_iff (hurl : config.remote.url = none) (e : AppError) :
    (prepare files fetcher source options config).1 = .error e ↔
      files.FirstRefused options.catalogs e ∨
        (∀ file ∈ options.catalogs, ∃ tree, files.Provides file tree) ∧
          ∃ locale, options.locale = some locale ∧ ¬ options.Knows config locale ∧
            e = .load (.localeNotLoaded locale) := by
  obtain ⟨e', hfirst, hresult⟩ | ⟨given, hgiven, hcases⟩ :=
    prepare_cases hurl files fetcher source options
  · rw [hresult, Except.error.injEq]
    constructor
    · rintro rfl
      exact Or.inl hfirst
    · rintro (hfirst' | ⟨hprovides, -⟩)
      · exact firstRefused_unique hfirst hfirst'
      · exact absurd hprovides (not_provides_of_firstRefused hfirst)
  -- From here on all files provide trees, so no fault is that of a file.
  have hprovides := Files.provides_of_gives hgiven
  have hnone : ¬ files.FirstRefused options.catalogs e :=
    fun hfirst => not_provides_of_firstRefused hfirst hprovides
  obtain ⟨locale, hlocale, hunknown, hresult⟩ | ⟨hknows, hresult, -⟩ := hcases
  · rw [hresult, Except.error.injEq]
    constructor
    · rintro rfl
      exact Or.inr ⟨hprovides, locale, hlocale, hunknown, rfl⟩
    · rintro (hfirst | ⟨-, other, hother, -, rfl⟩)
      · exact absurd hfirst hnone
      · rw [Option.some.inj (hlocale.symm.trans hother)]
  · rw [hresult]
    constructor
    · exact fun h => nomatch h
    · rintro (hfirst | ⟨-, locale, hlocale, hunknown, -⟩)
      · exact absurd hfirst hnone
      · exact absurd (hknows locale hlocale) hunknown

/-- **A command without a source of catalogs.**  A session can be prepared exactly if all catalog
files provide trees and the locale of the options, if they have one, has a catalog; otherwise the
error is that of the first fault.  A prepared session has what the options select.  The command to
translate gives the text that the key stands for with the arguments put in, and the command to
choose gives a variant of it. -/
theorem prepare_execute_of_url_none {σ : Type} {config : Config}
    (hurl : config.remote.url = none) (files : Files) (fetcher : Fetcher σ) (source : σ)
    (options : Options) :
    ((prepare files fetcher source options config).1 = .ok () ↔
      (∀ file ∈ options.catalogs, ∃ tree, files.Provides file tree) ∧
        ∀ locale, options.locale = some locale → options.Knows config locale) ∧
    (∀ e, (prepare files fetcher source options config).1 = .error e ↔
      files.FirstRefused options.catalogs e ∨
        (∀ file ∈ options.catalogs, ∃ tree, files.Provides file tree) ∧
          ∃ locale, options.locale = some locale ∧ ¬ options.Knows config locale ∧
            e = .load (.localeNotLoaded locale)) ∧
    ∀ s, prepare files fetcher source options config = (.ok (), s) →
      ∃ given, List.Forall₂ files.Gives options.catalogs given ∧
        (options.select config given).InEffect s.translator ∧
        ∀ key pairs, ∃ args : Args, args.Binds pairs ∧
          (execute (.translate key pairs) s).1 =
            substitute ((options.select config given).text key) args ∧
          ∀ count, (execute (.choice key count pairs) s).1 =
            Choice.choose (substitute ((options.select config given).text key) args) count := by
  refine ⟨fst_prepare_eq_ok_iff hurl, fst_prepare_eq_error_iff hurl, ?_⟩
  intro s hs
  obtain ⟨e, -, hresult⟩ | ⟨given, hgiven, hcases⟩ :=
    prepare_cases hurl files fetcher source options
  · exact nomatch hresult.symm.trans (congrArg Prod.fst hs)
  obtain ⟨locale, -, -, hresult⟩ | ⟨-, -, heffect⟩ := hcases
  · exact nomatch hresult.symm.trans (congrArg Prod.fst hs)
  -- Only the prepared session is left of the cases, and it has what the options select.
  rw [hs] at heffect
  refine ⟨given, hgiven, heffect, fun key pairs => ?_⟩
  have htranslate : s.translator.translate key (Args.ofTexts pairs) =
      substitute ((options.select config given).text key) (Args.ofTexts pairs) := by
    unfold Translator.translate
    rw [heffect.lookup]
  refine ⟨Args.ofTexts pairs, Args.binds_ofTexts pairs, htranslate, fun count => ?_⟩
  rw [execute, Session.translateCountable, Translator.translateCountable, htranslate]

/-- A catalog with a text that has two placeholders. -/
def sampleText : String :=
  "\x7b\"a\":\"\x7bx\x7d-\x7by\x7d\"\x7d"

/-- A directory with one catalog. -/
def sampleFiles : Files := fun path =>
  if path = "de.json" then .ok sampleText.toUTF8 else .error .missing

/-- Options that give the catalog for two locales, one of them twice. -/
def sampleOptions : Options where
  config := none
  catalogs := [⟨"de", "de.json"⟩, ⟨"fr", "de.json"⟩, ⟨"de", "de.json"⟩]
  locale := some "de"
  fallback := some "it"
  logLevel := none

theorem prepare_execute_of_url_none_sample :
    Config.initial.remote.url = none ∧
    (prepare sampleFiles Fetcher.unreachable false sampleOptions Config.initial).1 = .ok () ∧
    ∃ given, List.Forall₂ sampleFiles.Gives sampleOptions.catalogs given ∧
      ∃ args : Args, args.Binds [("x", "1"), ("y", "2"), ("x", "3")] ∧
        (execute (.translate "a" [("x", "1"), ("y", "2"), ("x", "3")])
          (prepare sampleFiles Fetcher.unreachable false sampleOptions Config.initial).2).1 =
          substitute ((sampleOptions.select Config.initial given).text "a") args := by
  have hparse : (MessageTree.parse sampleText).isOk = true := by decide +kernel
  -- There is one catalog file, and its text is a tree.
  have hprovides : ∀ file ∈ sampleOptions.catalogs, ∃ tree, sampleFiles.Provides file tree := by
    intro file hfile
    have hpath : file.path = "de.json" := by
      have hall : ∀ file ∈ sampleOptions.catalogs, file.path = "de.json" := by decide
      exact hall file hfile
    cases htree : MessageTree.parse sampleText with
    | ok tree => exact ⟨tree, _, if_pos hpath, htree⟩
    | error fault =>
      rw [htree] at hparse
      exact nomatch hparse
  have hurl : Config.initial.remote.url = none := rfl
  obtain ⟨hok, -, hprepared⟩ :=
    prepare_execute_of_url_none hurl sampleFiles Fetcher.unreachable false sampleOptions
  have hresult := hok.2 ⟨hprovides, by
    rintro locale ⟨⟩
    exact Or.inr ⟨⟨"de", "de.json"⟩, List.mem_cons_self, rfl⟩⟩
  obtain ⟨given, hgiven, -, hexecute⟩ := hprepared _ (Prod.ext hresult rfl)
  obtain ⟨args, hbinds, htranslate, -⟩ := hexecute "a" [("x", "1"), ("y", "2"), ("x", "3")]
  exact ⟨hurl, hresult, given, hgiven, args, hbinds, htranslate⟩

end App

end Phrasebook
