import Phrasebook.Proofs.Store
import Phrasebook.Translator.Builder

/-!
# What operations do to sessions

The operations on a session are compositions of a few writes.  Here each is opened once, and what it
can do is listed by cases, so that what holds of all runs is proved from the lists.

* `Loading` lists what loading a catalog can do, with the guard of each case, and `loading_load`
  says that there is nothing else.
* `Transition` lists what an operation can do to the catalogs, the locales and the preference, and
  `transition_perform` says that there is nothing else.
* `Session.states` are the sessions of a run.  Each comes from the one before it by a transition
  (`exists_transition_of_run`); `forall_mem_states` and `pairwise_states` are the two inductions
  over a run.
-/

namespace Phrasebook

namespace Session

variable {σ : Type} {fetcher : Fetcher σ} {mode : Mode} {s t : Session σ}

/-! ### Writes -/

/-- `s.Keeps t`: the session `t` has all that `s` has but for the journal and the state of the
fetcher, that is, each catalog, both locales, the source of catalogs and the preference. -/
structure Keeps (s t : Session σ) : Prop where
  translator : t.translator = s.translator
  preference : t.preference = s.preference

theorem keeps_note (s : Session σ) (level : Level) (target message : String) :
    s.Keeps (s.note level target message) :=
  ⟨rfl, rfl⟩

theorem keeps_ask (s : Session σ) (fetcher : Fetcher σ) (mode : Mode) (request : Request) :
    s.Keeps (s.ask fetcher mode request).2 :=
  ⟨rfl, rfl⟩

/-- A session in which `locale` has been made active: it is what the preference holds, too. -/
structure Active (s : Session σ) (locale : String) (t : Session σ) : Prop where
  translator : t.translator = { s.translator with locale := locale }
  preference : t.preference = some locale
  source : t.source = s.source
  fetches : t.fetches = s.fetches

theorem has_of_catalog {locale : String} {tree : MessageTree}
    (h : s.translator.store.catalog locale = some tree) :
    s.translator.store.has locale = true := by
  rw [Store.has_eq_isSome_catalog, h]
  rfl

theorem activate_of_has {locale : String} (h : s.translator.store.has locale = true) :
    (s.activate locale).1 = .ok () ∧ s.Active locale (s.activate locale).2 := by
  unfold activate
  rw [if_pos h]
  exact ⟨rfl, rfl, rfl, rfl, rfl⟩

theorem activate_of_not_has {locale : String} (h : ¬ s.translator.store.has locale = true) :
    (s.activate locale).1 = .error (.localeNotLoaded locale) ∧
      s.Keeps (s.activate locale).2 := by
  unfold activate
  rw [if_neg h]
  exact ⟨rfl, rfl, rfl⟩

/-! ### Loading -/

/-- `s.Wants locale force remote`: the catalog of `locale` is to be fetched from `remote`. -/
structure Wants (s : Session σ) (locale : String) (force : Bool) (remote : Remote) : Prop where
  remote : s.translator.remote = some remote
  needed : s.translator.store.has locale = false ∨ force = true

/-- What loading the catalog of `locale` can do to a session. -/
inductive Loading (fetcher : Fetcher σ) (mode : Mode) (locale : String) (force : Bool)
    (s : Session σ) : Except LoadError Unit → Session σ → Prop
  /-- Nothing is fetched: there is no source, or the catalog is there. -/
  | skipped {t : Session σ}
      (guard : s.translator.remote = none ∨ s.translator.store.has locale = true ∧ force = false)
      (keeps : s.Keeps t) (source : t.source = s.source) (fetches : t.fetches = s.fetches) :
      Loading fetcher mode locale force s (.ok ()) t
  /-- Nothing can be asked for: the URL of the source is none. -/
  | unaddressed {remote : Remote} {e : LoadError} (wants : s.Wants locale force remote)
      (request : Request.make remote.url remote.param locale = .error e) :
      Loading fetcher mode locale force s (.error e) s
  /-- The fetcher answers with an error. -/
  | refused {remote : Remote} {r : Request} {e : LoadError} (wants : s.Wants locale force remote)
      (request : Request.make remote.url remote.param locale = .ok r)
      (answer : (s.ask fetcher mode r).1 = .error e) :
      Loading fetcher mode locale force s (.error e) (s.ask fetcher mode r).2
  /-- The fetcher answers with a tree, which becomes the catalog of the active locale. -/
  | fetched {remote : Remote} {r : Request} {tree : MessageTree} {t : Session σ}
      (wants : s.Wants locale force remote)
      (request : Request.make remote.url remote.param locale = .ok r)
      (answer : (s.ask fetcher mode r).1 = .ok tree)
      (active : ((s.ask fetcher mode r).2.setCatalog locale tree).Active locale t) :
      Loading fetcher mode locale force s (.ok ()) t

/-- Either nothing needs to be fetched, and this is noted, or there is a source to ask. -/
theorem needsFetch_cases (s : Session σ) (locale : String) (force : Bool) :
    (∃ message,
      (s.translator.remote = none ∨ s.translator.store.has locale = true ∧ force = false) ∧
      s.needsFetch locale force = (none, s.note .debug Translator.target message)) ∨
    ∃ remote, s.Wants locale force remote ∧ s.needsFetch locale force = (some remote, s) := by
  unfold needsFetch
  cases hremote : s.translator.remote with
  | none => exact Or.inl ⟨_, Or.inl rfl, rfl⟩
  | some remote =>
    by_cases hskip : s.translator.store.has locale = true ∧ force = false
    · have hif : (s.translator.store.has locale && !force) = true := by
        rw [hskip.1, hskip.2]
        rfl
      exact Or.inl ⟨_, Or.inr hskip, if_pos hif⟩
    · have hif : ¬ (s.translator.store.has locale && !force) = true := by
        simpa using hskip
      refine Or.inr ⟨remote, ⟨hremote, ?_⟩, if_neg hif⟩
      -- It is not skipped, so it is forced or there is no catalog.
      rcases Bool.eq_false_or_eq_true force with hforce | hforce
      · exact Or.inr hforce
      · exact Or.inl (Bool.eq_false_iff.2 fun hhas => hskip ⟨hhas, hforce⟩)

/-- Loading does what one of the cases says, with the guard of that case. -/
theorem loading_load (fetcher : Fetcher σ) (mode : Mode) (locale : String) (force : Bool)
    (s : Session σ) :
    Loading fetcher mode locale force s (s.load fetcher mode locale force).1
      (s.load fetcher mode locale force).2 := by
  unfold load
  obtain ⟨message, hguard, hneeds⟩ | ⟨remote, hwants, hneeds⟩ := needsFetch_cases s locale force
  · rw [hneeds]
    exact .skipped hguard (keeps_note s _ _ _) rfl rfl
  rw [hneeds]
  dsimp only
  cases hrequest : Request.make remote.url remote.param locale with
  | error e => exact .unaddressed hwants hrequest
  | ok r =>
    dsimp only
    cases hanswer : (s.ask fetcher mode r).1 with
    | error e =>
      have hask : s.ask fetcher mode r = (.error e, (s.ask fetcher mode r).2) :=
        Prod.ext hanswer rfl
      rw [hask]
      exact .refused hwants hrequest hanswer
    | ok tree =>
      have hask : s.ask fetcher mode r = (.ok tree, (s.ask fetcher mode r).2) :=
        Prod.ext hanswer rfl
      -- The activation cannot fail, as the catalog has just been stored.
      obtain ⟨hok, hactive⟩ := activate_of_has
        (s := (s.ask fetcher mode r).2.setCatalog locale tree) (Store.has_set_self _ locale tree)
      rw [hask]
      dsimp only
      rw [hok]
      exact .fetched hwants hrequest hanswer hactive

/-- If nothing is to be fetched, then loading succeeds and changes nothing. -/
theorem load_of_not_wants {locale : String} {force : Bool}
    (h : ∀ remote, ¬ s.Wants locale force remote) (fetcher : Fetcher σ) (mode : Mode) :
    (s.load fetcher mode locale force).1 = .ok () ∧
      s.Keeps (s.load fetcher mode locale force).2 := by
  have hload := loading_load fetcher mode locale force s
  generalize (s.load fetcher mode locale force).1 = result at hload ⊢
  generalize (s.load fetcher mode locale force).2 = t at hload ⊢
  cases hload with
  | skipped _ keeps _ _ => exact ⟨rfl, keeps⟩
  | unaddressed wants _ => exact absurd wants (h _)
  | refused wants _ _ => exact absurd wants (h _)
  | fetched wants _ _ _ => exact absurd wants (h _)

/-- A catalog that is there is not loaded again. -/
theorem load_of_has {locale : String} (h : s.translator.store.has locale = true)
    (fetcher : Fetcher σ) (mode : Mode) :
    (s.load fetcher mode locale false).1 = .ok () ∧
      s.Keeps (s.load fetcher mode locale false).2 := by
  refine load_of_not_wants (fun remote hwants => ?_) fetcher mode
  rcases hwants.needed with hmissing | hforce
  · exact absurd h (Bool.eq_false_iff.1 hmissing)
  · exact nomatch hforce

/-! ### Operations -/

/-- What an operation can do to the catalogs, the locales and the preference, by its outcome. -/
inductive Transition (s : Session σ) : Outcome → Session σ → Prop
  /-- Nothing is written: a lookup, a load that is not needed, or a failure. -/
  | kept {outcome : Outcome} {t : Session σ} (keeps : s.Keeps t) : Transition s outcome t
  /-- A catalog is set. -/
  | stored {locale : String} {tree : MessageTree} {old : Option MessageTree} {t : Session σ}
      (translator : t.translator =
        { s.translator with store := s.translator.store.set locale tree })
      (preference : t.preference = s.preference) : Transition s (.replaced old) t
  /-- A loaded locale becomes the active one. -/
  | activated {locale : String} {t : Session σ} (has : s.translator.store.has locale = true)
      (translator : t.translator = { s.translator with locale := locale })
      (preference : t.preference = some locale) : Transition s .done t
  /-- A catalog is fetched, and its locale becomes the active one. -/
  | loaded {locale : String} {tree : MessageTree} {t : Session σ}
      (translator : t.translator =
        { s.translator with store := s.translator.store.set locale tree, locale := locale })
      (preference : t.preference = some locale) : Transition s .done t
  /-- The fallback is set. -/
  | diverted {locale : String} {t : Session σ}
      (translator : t.translator = { s.translator with fallback := locale })
      (preference : t.preference = s.preference) : Transition s .done t
  /-- Someone else writes to the preference. -/
  | overwritten {locale : String} {t : Session σ} (translator : t.translator = s.translator)
      (preference : t.preference = some locale) : Transition s .done t

theorem transition_activate (s : Session σ) (locale : String) :
    s.Transition (.ofResult (s.activate locale).1) (s.activate locale).2 := by
  by_cases hhas : s.translator.store.has locale = true
  · obtain ⟨hok, hactive⟩ := activate_of_has hhas
    rw [hok]
    exact .activated hhas hactive.translator hactive.preference
  · exact .kept (activate_of_not_has hhas).2

theorem Loading.transition {locale : String} {force : Bool} {result : Except LoadError Unit}
    (h : Loading fetcher mode locale force s result t) : s.Transition (.ofResult result) t := by
  cases h with
  | skipped _ keeps _ _ => exact .kept keeps
  | unaddressed => exact .kept ⟨rfl, rfl⟩
  | refused => exact .kept (keeps_ask s _ _ _)
  | fetched _ _ _ active => exact .loaded active.translator active.preference

/-- Setting the locale is a load, and an activation if that succeeds. -/
theorem setLocale_eq (fetcher : Fetcher σ) (mode : Mode) (locale : String) (s : Session σ) :
    s.setLocale fetcher mode locale =
      match (s.load fetcher mode locale false).1 with
      | .error e => (.error e, (s.load fetcher mode locale false).2)
      | .ok () => (s.load fetcher mode locale false).2.activate locale := by
  unfold setLocale
  rcases s.load fetcher mode locale false with ⟨_ | _, t⟩ <;> rfl

theorem transition_setLocale (fetcher : Fetcher σ) (mode : Mode) (locale : String)
    (s : Session σ) :
    s.Transition (.ofResult (s.setLocale fetcher mode locale).1)
      (s.setLocale fetcher mode locale).2 := by
  rw [setLocale_eq]
  have hload := loading_load fetcher mode locale false s
  generalize (s.load fetcher mode locale false).1 = result at hload ⊢
  generalize (s.load fetcher mode locale false).2 = t at hload ⊢
  cases hload with
  | skipped _ keeps _ _ =>
    by_cases hhas : t.translator.store.has locale = true
    · obtain ⟨hok, hactive⟩ := activate_of_has hhas
      dsimp only
      rw [hok]
      refine .activated (keeps.translator ▸ hhas) ?_ hactive.preference
      rw [hactive.translator, keeps.translator]
    · have hkeeps := (activate_of_not_has hhas).2
      exact .kept ⟨hkeeps.translator.trans keeps.translator,
        hkeeps.preference.trans keeps.preference⟩
  | unaddressed => exact .kept ⟨rfl, rfl⟩
  | refused => exact .kept (keeps_ask s _ _ _)
  | @fetched _ _ tree _ _ _ _ active =>
    -- The second activation finds the catalog that the load has stored, and repeats the first one.
    have hhas : t.translator.store.has locale = true := by
      rw [active.translator]
      exact Store.has_set_self s.translator.store locale tree
    obtain ⟨hok, hactive⟩ := activate_of_has hhas
    dsimp only
    rw [hok]
    have ht := hactive.translator
    rw [active.translator] at ht
    exact .loaded ht hactive.preference

/-- An operation makes a transition of the listed kinds. -/
theorem transition_perform (fetcher : Fetcher σ) (op : Operation) (s : Session σ) :
    s.Transition (s.perform fetcher op).1 (s.perform fetcher op).2 := by
  cases op with
  | translate key args => exact .kept ⟨rfl, rfl⟩
  | countable key count args => exact .kept ⟨rfl, rfl⟩
  | setCatalog locale tree => exact .stored rfl rfl
  | activate locale => exact transition_activate s locale
  | setFallback locale => exact .diverted rfl rfl
  | load mode locale force => exact (loading_load fetcher mode locale force s).transition
  | setLocale mode locale => exact transition_setLocale fetcher mode locale s
  | writePreference locale => exact .overwritten rfl rfl

/-! ### Runs -/

/-- The sessions of a run, the one that it starts from and the one behind each operation. -/
def states (fetcher : Fetcher σ) (ops : List Operation) (s : Session σ) : List (Session σ) :=
  s :: (s.run fetcher ops).map Prod.snd

@[simp] theorem states_nil (fetcher : Fetcher σ) (s : Session σ) : s.states fetcher [] = [s] :=
  rfl

theorem states_cons (fetcher : Fetcher σ) (op : Operation) (ops : List Operation) (s : Session σ) :
    s.states fetcher (op :: ops) = s :: (s.perform fetcher op).2.states fetcher ops :=
  rfl

/-- The outcome of an operation of a run belongs to a transition from one session of the run to the
next. -/
theorem exists_transition_of_run {ops : List Operation} {n : ℕ} {outcome : Outcome}
    (h : (s.run fetcher ops)[n]? = some (outcome, t)) :
    ∃ before, (s.states fetcher ops)[n]? = some before ∧
      (s.states fetcher ops)[n + 1]? = some t ∧ before.Transition outcome t := by
  induction ops generalizing s n with
  | nil => simp [run] at h
  | cons op ops ih =>
    rw [states_cons]
    cases n with
    | zero =>
      have hstep : s.perform fetcher op = (outcome, t) := Option.some.inj h
      have htransition := transition_perform fetcher op s
      rw [hstep] at htransition
      exact ⟨s, rfl, congrArg (some ∘ Prod.snd) hstep, htransition⟩
    | succ n => exact ih h

/-- What holds of the first session of a run, and behind each transition from a session of which it
holds, holds of all sessions of the run. -/
theorem forall_mem_states {P : Session σ → Prop}
    (hstep : ∀ {s t : Session σ} {outcome : Outcome}, s.Transition outcome t → P s → P t)
    {s : Session σ} (h : P s) (ops : List Operation) : ∀ t ∈ s.states fetcher ops, P t := by
  induction ops generalizing s with
  | nil =>
    intro t ht
    rw [states_nil, List.mem_singleton] at ht
    exact ht ▸ h
  | cons op ops ih =>
    intro t ht
    rw [states_cons, List.mem_cons] at ht
    rcases ht with rfl | ht
    · exact h
    · exact ih (hstep (transition_perform fetcher op s) h) t ht

/-- A transitive relation between the two ends of each transition relates each session of a run to
all later ones. -/
theorem pairwise_states {R : Session σ → Session σ → Prop}
    (htrans : ∀ {s t u}, R s t → R t u → R s u)
    (hstep : ∀ {s t : Session σ} {outcome : Outcome}, s.Transition outcome t → R s t)
    (s : Session σ) (ops : List Operation) : (s.states fetcher ops).Pairwise R := by
  induction ops generalizing s with
  | nil => exact List.pairwise_singleton R s
  | cons op ops ih =>
    rw [states_cons]
    have hfirst : R s (s.perform fetcher op).2 := hstep (transition_perform fetcher op s)
    refine List.pairwise_cons.2 ⟨fun t ht => ?_, ih _⟩
    exact forall_mem_states (fun h hr => htrans hr (hstep h)) hfirst ops t ht

/-- A relation of the first session of a run to itself, and of each to all later ones, is one of the
first to all. -/
theorem rel_of_mem_states {R : Session σ → Session σ → Prop} {ops : List Operation}
    (hrefl : R s s) (h : (s.states fetcher ops).Pairwise R) (ht : t ∈ s.states fetcher ops) :
    R s t := by
  rcases List.mem_cons.1 ht with rfl | ht
  · exact hrefl
  · exact List.rel_of_pairwise_cons h ht

end Session

/-! ### Installations -/

namespace Builder

/-- A translator has a source exactly if its builder has a URL. -/
theorem remote_build {σ : Type} (b : Builder) (source : σ) :
    (b.build source).translator.remote = b.url.map fun url => ⟨url, b.param⟩ :=
  rfl

/-- An installation is a load in the session that building gives. -/
theorem loading_install {σ : Type} (b : Builder) (fetcher : Fetcher σ) (mode : Mode) (source : σ) :
    Session.Loading fetcher mode b.preference.current false (b.build source)
      (b.install fetcher mode source).1 (b.install fetcher mode source).2 :=
  Session.loading_load fetcher mode b.preference.current false (b.build source)

/-- A builder to try runs with: it has no catalogs, and its first locale is not the default one.
The URL of its source is quickly read. -/
def sample : Builder :=
  { empty with url := some "app:catalogs", preference := some "de" }

end Builder

end Phrasebook
