import Phrasebook.Proofs.Fetch
import Phrasebook.Proofs.Request
import Phrasebook.Proofs.Translator.ActiveLocale

/-!
# Where failures come from

An operation fails because a locale has no catalog, because the URL of the source is none, or
because the fetcher refuses a request (`Session.FailsBy`).  The URL is the same in all sessions of a
run.  So if it is a URL at the start, then no failure of the run is about it, unless the fetcher
makes such a failure of its own.

* `Session.failsBy_perform`: there is no other source of failures.
* `Session.refuses_of_mem_run`: in a run from a session with a good URL, a failure about a URL is
  the fetcher's.
* `Builder.refuses_of_attempt`: so it is in an installation.
-/

namespace Phrasebook

/-- The URL, if there is one, can be read. -/
def Addressed (url : Option String) : Prop :=
  ∀ text, url = some text → ∃ u, Url.parse text = .ok u

namespace Session

variable {σ : Type} {fetcher : Fetcher σ} {s t : Session σ} {e : LoadError}

/-- `s.FailsBy fetcher e`: in the session there is a reason for the failure `e`. -/
inductive FailsBy (fetcher : Fetcher σ) (s : Session σ) : LoadError → Prop
  | missing {locale : String} (h : ¬ s.translator.store.has locale = true) :
      FailsBy fetcher s (.localeNotLoaded locale)
  | unaddressed {remote : Remote} {locale : String} {e : LoadError}
      (hremote : s.translator.remote = some remote)
      (h : Request.make remote.url remote.param locale = .error e) : FailsBy fetcher s e
  | refused {e : LoadError} (h : fetcher.Refuses e) : FailsBy fetcher s e

/-! ### One operation -/

theorem failsBy_activate {locale : String} (h : (s.activate locale).1 = .error e) :
    s.FailsBy fetcher e := by
  by_cases hhas : s.translator.store.has locale = true
  · exact nomatch (activate_of_has hhas).1.symm.trans h
  · have hfails := (activate_of_not_has hhas).1
    obtain rfl := Except.error.inj (hfails.symm.trans h)
    exact .missing hhas

theorem Loading.failsBy {mode : Mode} {locale : String} {force : Bool}
    (h : Loading fetcher mode locale force s (.error e) t) : s.FailsBy fetcher e := by
  cases h with
  | unaddressed wants request => exact .unaddressed wants.remote request
  | refused _ _ answer => exact .refused ⟨_, _, _, answer⟩

theorem failsBy_load {mode : Mode} {locale : String} {force : Bool}
    (h : (s.load fetcher mode locale force).1 = .error e) : s.FailsBy fetcher e := by
  have hload := loading_load fetcher mode locale force s
  rw [h] at hload
  exact hload.failsBy

theorem failsBy_setLocale {mode : Mode} {locale : String}
    (h : (s.setLocale fetcher mode locale).1 = .error e) : s.FailsBy fetcher e := by
  rw [setLocale_eq] at h
  have hload := loading_load fetcher mode locale false s
  generalize (s.load fetcher mode locale false).1 = result at hload h
  generalize (s.load fetcher mode locale false).2 = t at hload h
  cases hload with
  | skipped _ keeps _ _ =>
    -- the activation fails in a session with the catalogs and the source of the first one
    have hactivation : t.FailsBy fetcher e := failsBy_activate h
    cases hactivation with
    | missing hmissing => exact .missing (keeps.translator ▸ hmissing)
    | unaddressed hremote hrequest => exact .unaddressed (keeps.translator ▸ hremote) hrequest
    | refused hrefused => exact .refused hrefused
  | unaddressed wants request =>
    obtain rfl := Except.error.inj h
    exact .unaddressed wants.remote request
  | refused _ _ answer =>
    obtain rfl := Except.error.inj h
    exact .refused ⟨_, _, _, answer⟩
  | @fetched _ _ tree _ _ _ _ active =>
    -- the catalog has been stored, so the activation behind the load succeeds
    have hhas : t.translator.store.has locale = true := by
      rw [active.translator]
      exact Store.has_set_self s.translator.store locale tree
    exact nomatch (activate_of_has hhas).1.symm.trans h

theorem eq_error_of_ofResult {result : Except LoadError Unit}
    (h : Outcome.ofResult result = .failed e) : result = .error e := by
  cases result with
  | ok _ => exact nomatch h
  | error e' => rw [Outcome.failed.inj h]

/-- An operation that fails has one of the three reasons. -/
theorem failsBy_perform {op : Operation} (h : (s.perform fetcher op).1 = .failed e) :
    s.FailsBy fetcher e := by
  cases op with
  | translate | countable | setCatalog | setFallback | writePreference => exact nomatch h
  | activate locale => exact failsBy_activate (eq_error_of_ofResult h)
  | load mode locale force => exact failsBy_load (eq_error_of_ofResult h)
  | setLocale mode locale => exact failsBy_setLocale (eq_error_of_ofResult h)

/-! ### Runs -/

/-- The source of catalogs in the session, if there is one, has a URL that can be read. -/
def Addressed (s : Session σ) : Prop :=
  Phrasebook.Addressed (s.translator.remote.map Remote.url)

/-- No operation writes to the source of catalogs. -/
theorem Transition.remote {outcome : Outcome} (h : s.Transition outcome t) :
    t.translator.remote = s.translator.remote := by
  cases h with
  | kept keeps => rw [keeps.translator]
  | stored translator _ | activated _ translator _ | loaded translator _ | diverted translator _
  | overwritten translator _ => rw [translator]

theorem Addressed.of_transition {outcome : Outcome} (h : s.Transition outcome t)
    (hs : s.Addressed) : t.Addressed := by
  unfold Addressed at hs ⊢
  rw [h.remote]
  exact hs

/-- What is in a run is what an operation gives in one of its sessions. -/
theorem exists_perform_of_mem_run {ops : List Operation} {r : Outcome × Session σ}
    (h : r ∈ s.run fetcher ops) :
    ∃ before ∈ s.states fetcher ops, ∃ op ∈ ops, r = before.perform fetcher op := by
  induction ops generalizing s with
  | nil => exact absurd h List.not_mem_nil
  | cons op ops ih =>
    rw [states_cons]
    rcases List.mem_cons.1 h with rfl | h
    · exact ⟨s, List.mem_cons_self, op, List.mem_cons_self, rfl⟩
    · obtain ⟨before, hbefore, op', hop', hr⟩ := ih h
      exact ⟨before, List.mem_cons_of_mem s hbefore, op', List.mem_cons_of_mem op hop', hr⟩

/-- With a URL that can be read, a failure about a URL is one that the fetcher makes. -/
theorem FailsBy.refuses {url : String} {fault : Url.Fault}
    (h : s.FailsBy fetcher (.invalidUrl url fault)) (hs : s.Addressed) :
    fetcher.Refuses (.invalidUrl url fault) := by
  cases h with
  | refused h => exact h
  | @unaddressed remote locale _ hremote hrequest =>
    -- there is a request, whatever the parameter and the locale are
    obtain ⟨u, hu⟩ := hs remote.url (congrArg (Option.map Remote.url) hremote)
    obtain ⟨r, hmake⟩ : ∃ r, Request.make remote.url remote.param locale = .ok r :=
      ⟨_, Request.make_eq_ok_iff.2 ⟨u, hu, rfl⟩⟩
    exact nomatch hmake.symm.trans hrequest

theorem refuses_of_mem_run (hs : s.Addressed) {ops : List Operation} {url : String}
    {fault : Url.Fault} (h : (.failed (.invalidUrl url fault), t) ∈ s.run fetcher ops) :
    fetcher.Refuses (.invalidUrl url fault) := by
  obtain ⟨before, hbefore, op, -, hperform⟩ := exists_perform_of_mem_run h
  have hfails := failsBy_perform (congrArg Prod.fst hperform).symm
  exact hfails.refuses (forall_mem_states Addressed.of_transition hs ops before hbefore)

end Session

namespace Builder

variable {σ : Type} {b : Builder} {fetcher : Fetcher σ}

theorem addressed_build (h : Addressed b.url) (source : σ) : (b.build source).Addressed := by
  have hurl : (b.build source).translator.remote.map Remote.url = b.url := by
    rw [remote_build]
    cases b.url <;> rfl
  unfold Session.Addressed
  rw [hurl]
  exact h

theorem addressed_install (h : Addressed b.url) (mode : Mode) (source : σ) :
    (b.install fetcher mode source).2.Addressed :=
  .of_transition (b.loading_install fetcher mode source).transition (addressed_build h source)

theorem Starts.addressed {s : Session σ} (hs : b.Starts fetcher s) (h : Addressed b.url) :
    s.Addressed := by
  cases hs with
  | build source => exact addressed_build h source
  | @install mode source _ => exact addressed_install h mode source

theorem refuses_of_install (h : Addressed b.url) {mode : Mode} {source : σ} {url : String}
    {fault : Url.Fault}
    (hresult : (b.install fetcher mode source).1 = .error (.invalidUrl url fault)) :
    fetcher.Refuses (.invalidUrl url fault) :=
  (Session.failsBy_load hresult).refuses (addressed_build h source)

/-- An installation fails about a URL only if the client or the fetcher does. -/
theorem refuses_of_attempt (h : Addressed b.url) {mode : Mode} {client : Except LoadError σ}
    {idle : σ} {url : String} {fault : Url.Fault}
    (hresult : (b.attempt fetcher mode client idle).1 = .error (.invalidUrl url fault)) :
    client = .error (.invalidUrl url fault) ∨ fetcher.Refuses (.invalidUrl url fault) := by
  unfold attempt at hresult
  -- The attempt fails where the client is made, or where the catalog is loaded.
  cases hconnect : b.connect client idle with
  | error e =>
    rw [hconnect] at hresult
    obtain rfl := Except.error.inj hresult
    unfold connect at hconnect
    split at hconnect
    · exact nomatch hconnect
    · exact Or.inl hconnect
  | ok source =>
    rw [hconnect] at hresult
    cases hinstall : (b.install fetcher mode source).1 with
    | ok _ =>
      dsimp only at hresult
      rw [hinstall] at hresult
      exact nomatch hresult
    | error e =>
      dsimp only at hresult
      rw [hinstall] at hresult
      obtain rfl := Except.error.inj hresult
      exact Or.inr (refuses_of_install h hinstall)

end Builder

end Phrasebook
