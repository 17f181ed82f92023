import Phrasebook.Program
import Phrasebook.Proofs.App
import Phrasebook.Proofs.Config.Validation
import Phrasebook.Proofs.Result
import Phrasebook.Proofs.Translator.Addressed

/-!
# Configurations that a program works with

A program works with a configuration that it has loaded, or with the default one
(`Config.Available`).  Loading ends with validation, so the URL of the source can be read, if there
is one.  It is handed on to the translator without a change, and no request can fail about it.

* `Config.validate_of_load` and `Config.Available.addressed`: what is known of such configurations.
* `Config.no_invalidUrl`: so no operation of the translator fails about a URL, and neither does
  preparing a session.  A fetcher of one's own may still answer with such a failure, which is handed
  on (`Config.no_invalidUrl_fails`); the one that asks servers does not.
-/

namespace Phrasebook

namespace Config

variable {config : Config} {files : Files}

/-! ### Loading -/

/-- `config.Available`: it is the default configuration, or one that can be loaded. -/
def Available (config : Config) : Prop :=
  config = initial ∨ ∃ files path, load files path = .ok config

theorem validate_of_load {path : String} (h : load files path = .ok config) :
    config.validate = .ok () := by
  obtain ⟨format, -, h⟩ := except_bind_eq_ok_iff.1 h
  obtain ⟨text, -, h⟩ := except_bind_eq_ok_iff.1 h
  obtain ⟨config', -, h⟩ := except_bind_eq_ok_iff.1 h
  obtain ⟨_, hvalid, h⟩ := except_bind_eq_ok_iff.1 h
  obtain rfl := Except.ok.inj h
  exact hvalid

theorem available_of_loadConfig {options : Options}
    (h : Program.loadConfig files options = .ok config) : config.Available := by
  unfold Program.loadConfig at h
  split at h
  · exact Or.inl (Except.ok.inj h).symm
  · exact Or.inr ⟨files, _, h⟩

/-! ### The URL of the source -/

theorem addressed_of_validate (h : config.validate = .ok ()) : Addressed config.remote.url := by
  have hkept := config.enforces_validate.eq_ok_iff.1 h
  exact hkept ⟨"remote.translation_url", Addressed config.remote.url⟩ (by simp [rules])

theorem Available.addressed (h : config.Available) : Addressed config.remote.url := by
  rcases h with rfl | ⟨files, path, hload⟩
  · exact fun _ htext => nomatch htext
  · exact addressed_of_validate (validate_of_load hload)

end Config

/-! ### Preparing a session -/

namespace App

variable {σ : Type} {fetcher : Fetcher σ} {source : σ} {files : Files} {options : Options}
  {config : Config} {url : String} {fault : Url.Fault}

theorem ne_invalidUrl_of_firstRefused {catalogs : List CommandLine.CatalogFile} {e : AppError}
    (h : files.FirstRefused catalogs e) : e ≠ .load (.invalidUrl url fault) := by
  obtain ⟨before, file, after, -, -, hrefuses⟩ := h
  cases hrefuses <;> exact fun heq => nomatch heq

theorem refuses_of_chooseLocale {s : Session σ} (hs : s.Addressed)
    (h : (chooseLocale fetcher options s).1 = .error (.invalidUrl url fault)) :
    fetcher.Refuses (.invalidUrl url fault) := by
  unfold chooseLocale at h
  split at h
  · exact nomatch h
  · exact (Session.failsBy_setLocale h).refuses hs

/-- With a good URL, a failure about a URL while a session is prepared is the fetcher's. -/
theorem refuses_of_prepare (haddressed : Addressed config.remote.url)
    (h : (prepare files fetcher source options config).1 = .error (.load (.invalidUrl url fault))) :
    fetcher.Refuses (.invalidUrl url fault) := by
  cases hresult : (addCatalogs files options.catalogs config.builder).1 with
  | error e =>
    -- a catalog file is refused
    have hrefused := fst_addCatalogs_eq_error_iff.1 hresult
    have hadd : addCatalogs files options.catalogs config.builder = (.error e, _) :=
      Prod.ext hresult rfl
    unfold prepare at h
    rw [hadd] at h
    exact absurd (Except.error.inj h) (ne_invalidUrl_of_firstRefused hrefused)
  | ok _ =>
    obtain ⟨given, -, hcollects⟩ := collects_addCatalogs hresult
    obtain ⟨b, hadd⟩ : ∃ b, addCatalogs files options.catalogs config.builder = (.ok (), b) :=
      ⟨_, Prod.ext hresult rfl⟩
    rw [hadd] at hcollects
    have hb : Addressed (setFallback options b).url := by
      show Addressed b.url
      rw [hcollects.url]
      exact haddressed
    cases hfirst : ((setFallback options b).install fetcher .async source).1 with
    | error e =>
      -- the catalog of the first locale cannot be loaded
      have hinstall : (setFallback options b).install fetcher .async source = (.error e, _) :=
        Prod.ext hfirst rfl
      unfold prepare at h
      rw [hadd] at h
      dsimp only at h
      rw [hinstall] at h
      obtain rfl := AppError.load.inj (Except.error.inj h)
      exact Builder.refuses_of_install hb hfirst
    | ok _ =>
      -- the locale of the options cannot be made active
      have hs : ((setFallback options b).install fetcher .async source).2.Addressed :=
        Builder.addressed_install hb .async source
      rw [(prepare_of_installed hadd (Prod.ext hfirst rfl)).1] at h
      cases hchoose : (chooseLocale fetcher options
          ((setFallback options b).install fetcher .async source).2).1 with
      | error e =>
        rw [hchoose] at h
        obtain rfl := AppError.load.inj (Except.error.inj h)
        exact refuses_of_chooseLocale hs hchoose
      | ok _ =>
        rw [hchoose] at h
        exact nomatch h

end App

namespace Config

/-- **No request fails about its URL.**  A configuration that has been loaded is valid.  With such a
configuration or the default one, an installation fails about a URL only if the client or the
fetcher answers so, and an operation of a run only if the fetcher does.  The fetcher that asks
servers never does, whatever the replies are; and so preparing a session, with the configuration of
an invocation and this fetcher, never fails about a URL. -/
theorem no_invalidUrl :
    (∀ (files : Files) (path : String) (config : Config), load files path = .ok config →
      config.validate = .ok ()) ∧
    (∀ config : Config, config.Available → ∀ (σ : Type) (b : Builder) (fetcher : Fetcher σ),
      b.url = config.builder.url → ∀ (url : String) (fault : Url.Fault),
        (∀ (mode : Mode) (client : Except LoadError σ) (idle : σ),
          (b.attempt fetcher mode client idle).1 = .error (.invalidUrl url fault) →
            client = .error (.invalidUrl url fault) ∨ fetcher.Refuses (.invalidUrl url fault)) ∧
        ∀ s : Session σ, b.Starts fetcher s → ∀ (ops : List Session.Operation) (t : Session σ),
          (.failed (.invalidUrl url fault), t) ∈ s.run fetcher ops →
            fetcher.Refuses (.invalidUrl url fault)) ∧
    (∀ config : Config, config.Available → ∀ (σ : Type) (b : Builder) (exchange : Exchange σ),
      b.url = config.builder.url → ∀ (url : String) (fault : Url.Fault),
        (∀ (mode : Mode) (client : Except LoadError σ) (idle : σ),
          client ≠ .error (.invalidUrl url fault) →
            (b.attempt (Fetcher.http exchange) mode client idle).1 ≠
              .error (.invalidUrl url fault)) ∧
        ∀ s : Session σ, b.Starts (Fetcher.http exchange) s →
          ∀ (ops : List Session.Operation) (t : Session σ),
            (.failed (.invalidUrl url fault), t) ∉ s.run (Fetcher.http exchange) ops) ∧
    ∀ (files : Files) (options : Options) (config : Config),
      Program.loadConfig files options = .ok config →
        ∀ (σ : Type) (exchange : Exchange σ) (source : σ) (url : String) (fault : Url.Fault),
          (App.prepare files (Fetcher.http exchange) source options config).1 ≠
            .error (.load (.invalidUrl url fault)) := by
  have hgood : ∀ {config : Config} {b : Builder}, config.Available → b.url = config.builder.url →
      Addressed b.url := fun havailable hurl => hurl ▸ havailable.addressed
  refine ⟨fun _ _ _ => validate_of_load, ?_, ?_, ?_⟩
  · intro config havailable σ b fetcher hurl url fault
    -- The URL of the builder can be read, so a request is never refused for it on the way.
    have hb := hgood havailable hurl
    constructor
    · exact fun _ _ _ => Builder.refuses_of_attempt hb
    · exact fun s hs ops t => Session.refuses_of_mem_run (hs.addressed hb)
  · -- A fetcher that asks servers does not refuse for the URL, which leaves the client.
    intro config havailable σ b exchange hurl url fault
    have hb := hgood havailable hurl
    have hnot := Fetcher.not_refuses_http exchange url fault
    constructor
    · exact fun mode client idle hclient h =>
        (Builder.refuses_of_attempt hb h).elim hclient hnot
    · exact fun s hs ops t h => hnot (Session.refuses_of_mem_run (hs.addressed hb) h)
  · intro files options config hconfig σ exchange source url fault h
    have haddressed := (available_of_loadConfig hconfig).addressed
    exact Fetcher.not_refuses_http exchange url fault (App.refuses_of_prepare haddressed h)

/-- A file with a configuration that has a source. -/
def sampleFiles : Files := fun path =>
  if path = "p.json" then
    .ok "\x7b\"remote\":\x7b\"translation_url\":\"app:catalogs\"\x7d\x7d".toUTF8
  else .error .missing

/-- Options that name the file. -/
def sampleOptions : Options where
  config := some "p.json"
  catalogs := []
  locale := some "de"
  fallback := none
  logLevel := none

/-- A fetcher that blames the URL of each request, although it is one. -/
def blamer : Fetcher Unit :=
  Fetcher.constant fun _ => .error (.invalidUrl "" .relative)

/-- With the configuration of the file, the blame is what an operation fails with. -/
theorem exists_failed_of_blamer :
    ∃ config, load sampleFiles "p.json" = .ok config ∧
      ∃ t, (.failed (.invalidUrl "" .relative), t) ∈
        (config.builder.build ()).run blamer [.setLocale .async "de"] := by
  -- Loading and running are evaluated together, as the configuration is known by its file only.
  have hfails : ((load sampleFiles "p.json").toOption.any fun config =>
      ((config.builder.build ()).run blamer [.setLocale .async "de"]).any fun r =>
        r.1 matches .failed (.invalidUrl "" .relative)) = true := by decide +kernel
  obtain ⟨config, hconfig, hany⟩ := (Option.any_eq_true _ _).1 hfails
  have hload : load sampleFiles "p.json" = .ok config := by
    cases hresult : load sampleFiles "p.json" with
    | ok config' =>
      rw [hresult] at hconfig
      exact congrArg Except.ok (Option.some.inj hconfig)
    | error f => exact nomatch hresult ▸ hconfig
  obtain ⟨⟨outcome, t⟩, ht, houtcome⟩ := List.any_eq_true.1 hany
  dsimp only at houtcome
  split at houtcome
  · exact ⟨config, hload, t, ht⟩
  · exact nomatch houtcome

/-- With a fetcher of one's own, an operation can fail about a URL although the configuration has
been loaded. -/
theorem no_invalidUrl_fails :
    ¬ ∀ (files : Files) (path : String) (config : Config), load files path = .ok config →
      ∀ (σ : Type) (b : Builder) (fetcher : Fetcher σ), b.url = config.builder.url →
        ∀ s : Session σ, b.Starts fetcher s → ∀ (ops : List Session.Operation) (t : Session σ)
          (url : String) (fault : Url.Fault),
          (.failed (.invalidUrl url fault), t) ∉ s.run fetcher ops := by
  intro h
  obtain ⟨config, hload, t, ht⟩ := exists_failed_of_blamer
  exact h _ _ config hload Unit config.builder blamer rfl _ (.build ()) _ t _ _ ht

/-- The configuration of a file is valid.  What the fetcher answers is what its translator fails
with, and a server that is asked instead cannot have it fail so. -/
theorem no_invalidUrl_blamer :
    ∃ config, load sampleFiles "p.json" = .ok config ∧ config.validate = .ok () ∧
      (∃ t, (.failed (.invalidUrl "" .relative), t) ∈
        (config.builder.build ()).run blamer [.setLocale .async "de"]) ∧
      blamer.Refuses (.invalidUrl "" .relative) ∧
      ∀ exchange : Exchange Unit,
        (∀ t, (.failed (.invalidUrl "" .relative), t) ∉
          (config.builder.build ()).run (Fetcher.http exchange) [.setLocale .async "de"]) ∧
        (App.prepare sampleFiles (Fetcher.http exchange) () sampleOptions config).1 ≠
          .error (.load (.invalidUrl "" .relative)) := by
  obtain ⟨config, hload, t, ht⟩ := exists_failed_of_blamer
  obtain ⟨hvalid, hruns, hserver, hprepare⟩ := no_invalidUrl
  have havailable : config.Available := Or.inr ⟨sampleFiles, "p.json", hload⟩
  -- The theorem tells from the failed run that the fetcher has answered so.
  have hrefuses := (hruns config havailable Unit config.builder blamer rfl "" .relative).2 _
    (.build ()) _ t ht
  refine ⟨config, hload, hvalid _ _ _ hload, ⟨t, ht⟩, hrefuses, fun exchange => ⟨fun t => ?_, ?_⟩⟩
  · exact (hserver config havailable Unit config.builder exchange rfl "" .relative).2 _
      (.build ()) _ t
  · exact hprepare sampleFiles sampleOptions config hload Unit exchange () "" .relative

end Config

end Phrasebook
