import Phrasebook.Proofs.Request
import Phrasebook.Proofs.Translator.Builder

/-!
# What a change of locale does

A change of locale asks for the catalog if it is not there, stores what it gets, and makes the
locale active.  Whether it succeeds is a matter of the catalogs, the source and the fetcher alone,
and so is each of its effects.

* `Session.Answers` says what the fetcher answers when it is asked for the catalog of a locale, and
  `Session.Unavailable` why there is no catalog to be had.
* `Session.load_of_answers` and `Session.Loading.unavailable`: a load that asks stores the tree that
  it gets, and fails for these reasons only.
* `Session.Switching` lists how a change of locale can go, and `Session.switching_setLocale` says
  that there is no other way.
* `Session.setLocale_effect` reads the conditions and the effects off the list.

A catalog that has been stored can be made active, so a load says that a locale has no catalog only
if the fetcher does.
-/

namespace Phrasebook

namespace Session

variable {σ : Type} {fetcher : Fetcher σ} {mode : Mode} {s t u : Session σ} {locale : String}
  {tree : MessageTree}

/-! ### What can be had -/

/-- There is a source with a URL that can be read, and this is what the fetcher answers when it is
asked there for the catalog of the locale. -/
def Answers (fetcher : Fetcher σ) (mode : Mode) (s : Session σ) (locale : String)
    (answer : Except LoadError MessageTree) : Prop :=
  ∃ remote url, s.translator.remote = some remote ∧ Url.parse remote.url = .ok url ∧
    (fetcher mode ⟨locale, Request.withParam url remote.param locale⟩ s.source).1.result = answer

/-- The catalog of the locale cannot be had, for this reason. -/
inductive Unavailable (fetcher : Fetcher σ) (mode : Mode) (s : Session σ) (locale : String) :
    LoadError → Prop
  /-- There is no source. -/
  | sourceless (source : s.translator.remote = none) :
      Unavailable fetcher mode s locale (.localeNotLoaded locale)
  /-- The URL of the source is none. -/
  | unaddressed {remote : Remote} {fault : Url.Fault}
      (source : s.translator.remote = some remote) (url : Url.parse remote.url = .error fault) :
      Unavailable fetcher mode s locale (.invalidUrl remote.url fault)
  /-- The fetcher has an error of its own. -/
  | refused {e : LoadError} (answer : s.Answers fetcher mode locale (.error e)) :
      Unavailable fetcher mode s locale e

/-- The session `t` is `s` after a switch to the locale, which has the catalog `tree` then. -/
structure SwitchedTo (s : Session σ) (locale : String) (tree : MessageTree) (t : Session σ) :
    Prop where
  active : t.translator.locale = locale
  preference : t.preference = some locale
  catalog : t.translator.store.catalog locale = some tree
  others : ∀ other, other ≠ locale →
    t.translator.store.catalog other = s.translator.store.catalog other
  fallback : t.translator.fallback = s.translator.fallback
  remote : t.translator.remote = s.translator.remote

theorem Answers.unique {answer answer' : Except LoadError MessageTree}
    (h : s.Answers fetcher mode locale answer) (h' : s.Answers fetcher mode locale answer') :
    answer = answer' := by
  obtain ⟨remote, url, hremote, hurl, hanswer⟩ := h
  obtain ⟨remote', url', hremote', hurl', hanswer'⟩ := h'
  obtain rfl := Option.some.inj (hremote.symm.trans hremote')
  obtain rfl := Except.ok.inj (hurl.symm.trans hurl')
  exact hanswer.symm.trans hanswer'

/-- What a request that can be made is answered is an answer in this sense. -/
theorem answers_of_ask {remote : Remote} {r : Request} {answer : Except LoadError MessageTree}
    (hremote : s.translator.remote = some remote)
    (hrequest : Request.make remote.url remote.param locale = .ok r)
    (hanswer : (s.ask fetcher mode r).1 = answer) : s.Answers fetcher mode locale answer := by
  obtain ⟨url, hurl, rfl⟩ := Request.make_eq_ok_iff.1 hrequest
  exact ⟨remote, url, hremote, hurl, hanswer⟩

theorem Unavailable.not_answers {e : LoadError} (h : s.Unavailable fetcher mode locale e) :
    ¬ s.Answers fetcher mode locale (.ok tree) := by
  intro hanswers
  cases h with
  | sourceless hnone =>
    obtain ⟨remote, url, hremote, -, -⟩ := hanswers
    exact nomatch hnone.symm.trans hremote
  | unaddressed hsome herror =>
    obtain ⟨remote, url, hremote, hurl, -⟩ := hanswers
    obtain rfl := Option.some.inj (hsome.symm.trans hremote)
    exact nomatch herror.symm.trans hurl
  | refused hrefused => exact nomatch hrefused.unique hanswers

/-! ### Activations -/

/-- An activation writes the locale and the preference; all catalogs stay. -/
theorem Active.switchedTo (h : s.Active locale t)
    (hcatalog : s.translator.store.catalog locale = some tree) : s.SwitchedTo locale tree t where
  active := by rw [h.translator]
  preference := h.preference
  catalog := by rw [h.translator]; exact hcatalog
  others := by
    intro other _
    rw [h.translator]
  fallback := by rw [h.translator]
  remote := by rw [h.translator]

/-- A second switch to the same locale finds the catalog that the first one has left. -/
theorem SwitchedTo.trans (h : s.SwitchedTo locale tree t) (h' : t.SwitchedTo locale tree u) :
    s.SwitchedTo locale tree u where
  active := h'.active
  preference := h'.preference
  catalog := h'.catalog
  others := by
    intro other hne
    rw [h'.others other hne, h.others other hne]
  fallback := h'.fallback.trans h.fallback
  remote := h'.remote.trans h.remote

theorem Keeps.switchedTo (h : s.Keeps t) (h' : t.SwitchedTo locale tree u) :
    s.SwitchedTo locale tree u := by
  refine ⟨h'.active, h'.preference, h'.catalog, ?_, ?_, ?_⟩
  · intro other hne
    rw [h'.others other hne, h.translator]
  · rw [h'.fallback, h.translator]
  · rw [h'.remote, h.translator]

/-- Storing a catalog and making its locale active is a switch to it. -/
theorem switchedTo_of_active_setCatalog (h : (s.setCatalog locale tree).Active locale t) :
    s.SwitchedTo locale tree t := by
  have hcatalog := Store.catalog_set s.translator.store locale
  have hself : (s.setCatalog locale tree).translator.store.catalog locale = some tree :=
    (hcatalog locale tree).trans (if_pos rfl)
  have hswitched := h.switchedTo hself
  refine ⟨hswitched.active, hswitched.preference, hswitched.catalog, ?_, hswitched.fallback,
    hswitched.remote⟩
  intro other hne
  rw [hswitched.others other hne]
  exact (hcatalog other tree).trans (if_neg hne.symm)

theorem activate_of_catalog (h : s.translator.store.catalog locale = some tree) :
    (s.activate locale).1 = .ok () ∧ s.SwitchedTo locale tree (s.activate locale).2 := by
  obtain ⟨hok, hactive⟩ := activate_of_has (has_of_catalog h)
  exact ⟨hok, hactive.switchedTo h⟩

/-! ### Loads -/

/-- A load that asks for the catalog stores the tree that it gets, and switches to the locale. -/
theorem load_of_answers {force : Bool} (h : s.Answers fetcher mode locale (.ok tree))
    (hneeded : s.translator.store.has locale = false ∨ force = true) :
    (s.load fetcher mode locale force).1 = .ok () ∧
      s.SwitchedTo locale tree (s.load fetcher mode locale force).2 := by
  have hload := loading_load fetcher mode locale force s
  generalize (s.load fetcher mode locale force).1 = result at hload ⊢
  generalize (s.load fetcher mode locale force).2 = t at hload ⊢
  cases hload with
  | skipped guard _ _ _ =>
    -- neither guard can be: there is a source, and the catalog is missing or the load is forced
    rcases guard with hnone | ⟨hhas, hforce⟩
    · exact absurd h (Unavailable.sourceless hnone).not_answers
    · rcases hneeded with hmissing | hforced
      · exact nomatch hmissing.symm.trans hhas
      · exact nomatch hforced.symm.trans hforce
  | unaddressed wants request =>
    obtain ⟨fault, hurl, -⟩ := Request.make_eq_error_iff.1 request
    exact absurd h (Unavailable.unaddressed wants.remote hurl).not_answers
  | refused wants request answer =>
    have hanswers := answers_of_ask wants.remote request answer
    exact absurd h (Unavailable.refused hanswers).not_answers
  | fetched wants request answer active =>
    have hanswers := answers_of_ask wants.remote request answer
    obtain rfl := Except.ok.inj (hanswers.unique h)
    exact ⟨rfl, (keeps_ask s _ _ _).switchedTo (switchedTo_of_active_setCatalog active)⟩

/-- A load fails because the catalog cannot be had.  That there is no source is no failure of a
load. -/
theorem Loading.unavailable {force : Bool} {e : LoadError}
    (h : Loading fetcher mode locale force s (.error e) t) :
    s.translator.remote ≠ none ∧ (s.translator.store.has locale = false ∨ force = true) ∧
      s.Unavailable fetcher mode locale e ∧ s.Keeps t := by
  cases h with
  | unaddressed wants request =>
    obtain ⟨fault, hurl, rfl⟩ := Request.make_eq_error_iff.1 request
    exact ⟨by simp [wants.remote], wants.needed, .unaddressed wants.remote hurl, rfl, rfl⟩
  | refused wants request answer =>
    have hanswers := answers_of_ask wants.remote request answer
    exact ⟨by simp [wants.remote], wants.needed, .refused hanswers, keeps_ask s _ _ _⟩

/-- What is stored is there when its locale is made active, so only a fetcher can make a load say
that a locale has no catalog. -/
theorem Loading.answers_of_localeNotLoaded {force : Bool} {other : String}
    (h : Loading fetcher mode locale force s (.error (.localeNotLoaded other)) t) :
    s.Answers fetcher mode locale (.error (.localeNotLoaded other)) := by
  obtain ⟨hsource, -, hunavailable, -⟩ := h.unavailable
  generalize he : LoadError.localeNotLoaded other = e at hunavailable ⊢
  cases hunavailable with
  | sourceless hnone => exact absurd hnone hsource
  | unaddressed => exact nomatch he
  | refused answer => exact answer

/-! ### Changes of locale -/

/-- How a change of locale can go. -/
inductive Switching (fetcher : Fetcher σ) (mode : Mode) (locale : String) (s : Session σ) :
    Except LoadError Unit → Session σ → Prop
  /-- The catalog is there. -/
  | present {tree : MessageTree} {t : Session σ}
      (catalog : s.translator.store.catalog locale = some tree)
      (switched : s.SwitchedTo locale tree t) : Switching fetcher mode locale s (.ok ()) t
  /-- It is fetched. -/
  | fetched {tree : MessageTree} {t : Session σ} (missing : s.translator.store.has locale = false)
      (answer : s.Answers fetcher mode locale (.ok tree)) (switched : s.SwitchedTo locale tree t) :
      Switching fetcher mode locale s (.ok ()) t
  /-- It cannot be had. -/
  | failed {e : LoadError} {t : Session σ} (missing : s.translator.store.has locale = false)
      (reason : s.Unavailable fetcher mode locale e) (keeps : s.Keeps t) :
      Switching fetcher mode locale s (.error e) t

theorem switching_setLocale (fetcher : Fetcher σ) (mode : Mode) (locale : String)
    (s : Session σ) :
    Switching fetcher mode locale s (s.setLocale fetcher mode locale).1
      (s.setLocale fetcher mode locale).2 := by
  rw [setLocale_eq]
  have hload := loading_load fetcher mode locale false s
  generalize (s.load fetcher mode locale false).1 = result at hload ⊢
  generalize (s.load fetcher mode locale false).2 = t at hload ⊢
  cases result with
  | error e =>
    obtain ⟨-, hneeded, hunavailable, hkeeps⟩ := hload.unavailable
    exact .failed (hneeded.resolve_right Bool.false_ne_true) hunavailable hkeeps
  | ok _ =>
    cases hload with
    | skipped guard keeps _ _ =>
      cases hcatalog : s.translator.store.catalog locale with
      | some tree =>
        obtain ⟨hok, hswitched⟩ := activate_of_catalog (keeps.translator ▸ hcatalog)
        dsimp only
        rw [hok]
        exact .present hcatalog (keeps.switchedTo hswitched)
      | none =>
        -- nothing was asked for although the catalog is missing, so there is no source
        have hmissing : s.translator.store.has locale = false := by
          rw [Store.has_eq_isSome_catalog, hcatalog]
          rfl
        have hnone : s.translator.remote = none :=
          guard.resolve_right fun h => nomatch hmissing.symm.trans h.1
        have hnot : ¬ t.translator.store.has locale = true := by
          rw [keeps.translator, hmissing]
          exact Bool.false_ne_true
        obtain ⟨herror, hkeeps⟩ := activate_of_not_has hnot
        dsimp only
        rw [herror]
        exact .failed hmissing (.sourceless hnone)
          ⟨hkeeps.translator.trans keeps.translator, hkeeps.preference.trans keeps.preference⟩
    | fetched wants request answer active =>
      have hanswers := answers_of_ask wants.remote request answer
      have hloaded := (keeps_ask s fetcher mode _).switchedTo
        (switchedTo_of_active_setCatalog active)
      -- the locale is made active once more, with the catalog that has just been stored
      obtain ⟨hok, hswitched⟩ := activate_of_catalog hloaded.catalog
      dsimp only
      rw [hok]
      exact .fetched (wants.needed.resolve_right Bool.false_ne_true) hanswers
        (hloaded.trans hswitched)

theorem setLocale_eq_ok_iff :
    (s.setLocale fetcher mode locale).1 = .ok () ↔
      s.translator.store.has locale = true ∨ ∃ tree, s.Answers fetcher mode locale (.ok tree) := by
  have hswitching := switching_setLocale fetcher mode locale s
  generalize (s.setLocale fetcher mode locale).1 = result at hswitching ⊢
  cases hswitching with
  | present catalog _ => exact ⟨fun _ => Or.inl (has_of_catalog catalog), fun _ => rfl⟩
  | @fetched tree _ _ answer _ => exact ⟨fun _ => Or.inr ⟨tree, answer⟩, fun _ => rfl⟩
  | failed missing reason _ =>
    constructor
    · exact fun h => nomatch h
    · rintro (hhas | ⟨tree, hanswers⟩)
      · exact nomatch missing.symm.trans hhas
      · exact absurd hanswers reason.not_answers

theorem switchedTo_of_setLocale_eq_ok (h : (s.setLocale fetcher mode locale).1 = .ok ()) :
    ∃ tree, (s.translator.store.catalog locale = some tree ∨
        s.translator.store.has locale = false ∧ s.Answers fetcher mode locale (.ok tree)) ∧
      s.SwitchedTo locale tree (s.setLocale fetcher mode locale).2 := by
  have hswitching := switching_setLocale fetcher mode locale s
  rw [h] at hswitching
  cases hswitching with
  | @present tree _ catalog switched => exact ⟨tree, Or.inl catalog, switched⟩
  | @fetched tree _ missing answer switched => exact ⟨tree, Or.inr ⟨missing, answer⟩, switched⟩

theorem unavailable_of_setLocale_eq_error {e : LoadError}
    (h : (s.setLocale fetcher mode locale).1 = .error e) :
    s.translator.store.has locale = false ∧ s.Unavailable fetcher mode locale e ∧
      s.Keeps (s.setLocale fetcher mode locale).2 := by
  have hswitching := switching_setLocale fetcher mode locale s
  rw [h] at hswitching
  cases hswitching with
  | failed missing reason keeps => exact ⟨missing, reason, keeps⟩

/-- **What a change of locale does.**  It succeeds if and only if the catalog is there or can be
fetched, and then the locale is active and stands in the preference, with that catalog, and all else
is as before.  If it fails, then nothing has changed, and the error says why there is no catalog.  A
load that is forced replaces the catalog as a whole, and one for which nothing is asked changes
nothing. -/
theorem setLocale_effect {σ : Type} (fetcher : Fetcher σ) (mode : Mode) (locale : String)
    (s : Session σ) :
    ((s.setLocale fetcher mode locale).1 = .ok () ↔
      s.translator.store.has locale = true ∨
        ∃ tree, s.Answers fetcher mode locale (.ok tree)) ∧
    ((s.setLocale fetcher mode locale).1 = .ok () →
      ∃ tree, (s.translator.store.catalog locale = some tree ∨
          s.translator.store.has locale = false ∧ s.Answers fetcher mode locale (.ok tree)) ∧
        s.SwitchedTo locale tree (s.setLocale fetcher mode locale).2) ∧
    (∀ e, (s.setLocale fetcher mode locale).1 = .error e →
      s.translator.store.has locale = false ∧ s.Unavailable fetcher mode locale e ∧
        s.Keeps (s.setLocale fetcher mode locale).2) ∧
    (∀ tree, ((s.setCatalog locale tree).activate locale).1 = .ok ()) ∧
    (∀ force other, (s.load fetcher mode locale force).1 = .error (.localeNotLoaded other) →
      s.Answers fetcher mode locale (.error (.localeNotLoaded other))) ∧
    (∀ tree, s.Answers fetcher mode locale (.ok tree) →
      (s.load fetcher mode locale true).1 = .ok () ∧
        s.SwitchedTo locale tree (s.load fetcher mode locale true).2) ∧
    ∀ force, s.translator.remote = none ∨ s.translator.store.has locale = true ∧ force = false →
      (s.load fetcher mode locale force).1 = .ok () ∧
        s.Keeps (s.load fetcher mode locale force).2 := by
  -- The first three parts are read off the ways in which a change of locale can go.
  refine ⟨setLocale_eq_ok_iff, switchedTo_of_setLocale_eq_ok,
    fun e herror => unavailable_of_setLocale_eq_error herror, ?_, ?_,
    fun tree hanswers => load_of_answers hanswers (Or.inr rfl), ?_⟩
  · intro tree
    exact (activate_of_has (Store.has_set_self s.translator.store locale tree)).1
  · intro force other herror
    have hload := loading_load fetcher mode locale force s
    rw [herror] at hload
    exact hload.answers_of_localeNotLoaded
  · rintro force (hnone | ⟨hhas, rfl⟩)
    · exact load_of_remote_none hnone fetcher mode locale force
    · exact load_of_has hhas fetcher mode

/-- A fetcher that answers each request with the name of its locale. -/
def echo : Fetcher Unit :=
  Fetcher.constant fun locale => .ok (.text locale)

/-- A catalog that is fetched, one that is fetched in place of an old one, and one for which there
is no source. -/
theorem setLocale_effect_sample :
    (Builder.sample.build ()).Answers echo .async "fr" (.ok (.text "fr")) ∧
    ((Builder.sample.build ()).setLocale echo .async "fr").1 = .ok () ∧
    (Builder.sample.build ()).SwitchedTo "fr" (.text "fr")
      ((Builder.sample.build ()).setLocale echo .async "fr").2 ∧
    ((Builder.sample.build ()).setCatalog "fr" (.text "Oui")).SwitchedTo "fr" (.text "fr")
      (((Builder.sample.build ()).setCatalog "fr" (.text "Oui")).load echo .blocking "fr" true).2 ∧
    ∃ e, ((Builder.empty.build ()).setLocale echo .async "fr").1 = .error e ∧
      (Builder.empty.build ()).Unavailable echo .async "fr" e ∧
      (Builder.empty.build ()).Keeps ((Builder.empty.build ()).setLocale echo .async "fr").2 := by
  have hparse : (Url.parse "app:catalogs").isOk = true := by decide +kernel
  obtain ⟨url, hurl⟩ : ∃ url, Url.parse "app:catalogs" = .ok url := by
    cases h : Url.parse "app:catalogs" with
    | ok url => exact ⟨url, rfl⟩
    | error fault =>
      rw [h] at hparse
      exact nomatch hparse
  have hanswers : (Builder.sample.build ()).Answers echo .async "fr" (.ok (.text "fr")) :=
    ⟨_, url, rfl, hurl, rfl⟩
  have hagain : ((Builder.sample.build ()).setCatalog "fr" (.text "Oui")).Answers echo .blocking
      "fr" (.ok (.text "fr")) := ⟨_, url, rfl, hurl, rfl⟩
  obtain ⟨hiff, hswitched, -⟩ := setLocale_effect echo .async "fr" (Builder.sample.build ())
  have hok := hiff.2 (Or.inr ⟨_, hanswers⟩)
  obtain ⟨tree, hcase, hfresh⟩ := hswitched hok
  -- There was no catalog, so the tree is the one that has been fetched.
  have htree : tree = .text "fr" := by
    rcases hcase with hold | ⟨-, hnew⟩
    · exact nomatch hold
    · exact Except.ok.inj (hnew.unique hanswers)
  obtain ⟨-, -, -, -, -, hforced, -⟩ := setLocale_effect echo .blocking "fr"
    ((Builder.sample.build ()).setCatalog "fr" (.text "Oui"))
  obtain ⟨hiff', -, hfailed, -⟩ := setLocale_effect echo .async "fr" (Builder.empty.build ())
  refine ⟨hanswers, hok, htree ▸ hfresh, (hforced _ hagain).2, ?_⟩
  cases hresult : ((Builder.empty.build ()).setLocale echo .async "fr").1 with
  | error e => exact ⟨e, rfl, (hfailed e hresult).2⟩
  | ok _ =>
    -- Without a source there is neither a catalog nor an answer.
    rcases hiff'.1 hresult with hhas | ⟨tree, remote, url, hremote, -⟩
    · exact nomatch hhas
    · exact nomatch hremote

end Session

end Phrasebook
