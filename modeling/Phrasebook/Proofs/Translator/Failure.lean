import Phrasebook.Proofs.Translator.Session

/-!
# Failures change nothing

No operation writes before it can fail: a catalog is stored after the fetch that can be refused, and
a locale becomes active only when it has a catalog, which it does when that has just been stored.
So the only transition with a failure as its outcome is the one that writes nothing
(`Session.Transition.keeps_of_failed`).

* `Session.failed_keeps`: an operation that fails at any point of any run leaves the catalogs, the
  locales and the preference as they were, and an installation that fails leaves the preference.
-/

namespace Phrasebook

namespace Session

variable {σ : Type}

/-- A transition to a failure writes nothing. -/
theorem Transition.keeps_of_failed {s t : Session σ} {e : LoadError}
    (h : s.Transition (.failed e) t) : s.Keeps t := by
  cases h with
  | kept keeps => exact keeps

end Session

namespace Builder

variable {σ : Type}

/-- An installation that fails leaves the preference of the builder. -/
theorem preference_install_of_error {b : Builder} {fetcher : Fetcher σ} {mode : Mode} {source : σ}
    {e : LoadError} (h : (b.install fetcher mode source).1 = .error e) :
    (b.install fetcher mode source).2.preference = b.preference := by
  have htransition := (b.loading_install fetcher mode source).transition
  rw [h] at htransition
  exact htransition.keeps_of_failed.preference

theorem snd_attempt_of_error {b : Builder} {fetcher : Fetcher σ} {mode : Mode}
    {client : Except LoadError σ} {idle : σ} {e : LoadError}
    (h : (b.attempt fetcher mode client idle).1 = .error e) :
    (b.attempt fetcher mode client idle).2 = b.preference := by
  unfold attempt at h ⊢
  cases hconnect : b.connect client idle with
  | error e' => rfl
  | ok source =>
    rw [hconnect] at h
    cases hresult : (b.install fetcher mode source).1 with
    | error e' => exact preference_install_of_error hresult
    | ok _ =>
      dsimp only at h
      rw [hresult] at h
      exact nomatch h

end Builder

namespace Session

/-- An operation that fails leaves each catalog, the set of loaded locales, the active locale, the
fallback and the preference as they were before it.  This holds at every point of every run, from
any session, so from those that builders give, with any writes of others to the preference in
between, and for a fetcher whose answers depend on all that it has been asked.  If an installation
fails, be it that the client cannot be made, the preference is that of the builder. -/
theorem failed_keeps {σ : Type} (fetcher : Fetcher σ) :
    (∀ (s : Session σ) (ops : List Operation) (n : ℕ) (e : LoadError) (t : Session σ),
      (s.run fetcher ops)[n]? = some (.failed e, t) →
        ∃ before, (s.states fetcher ops)[n]? = some before ∧ before.Keeps t) ∧
    ∀ (b : Builder) (mode : Mode) (client : Except LoadError σ) (idle : σ) (e : LoadError),
      (b.attempt fetcher mode client idle).1 = .error e →
        (b.attempt fetcher mode client idle).2 = b.preference := by
  constructor
  · intro s ops n e t h
    obtain ⟨before, hbefore, -, htransition⟩ := exists_transition_of_run h
    exact ⟨before, hbefore, htransition.keeps_of_failed⟩
  · intro b mode client idle e h
    exact Builder.snd_attempt_of_error h

/-- A catalog that is loaded again from a server that cannot be reached stays what it was, and an
installation that cannot reach it leaves the preference. -/
theorem failed_keeps_unreachable :
    (∃ (e : LoadError) (t : Session Bool),
      ((Builder.sample.build true).run Fetcher.unreachable
        [.setCatalog "fr" (.text "Oui"), .load .async "fr" true])[1]? = some (.failed e, t) ∧
      t.translator.store.catalog "fr" = some (.text "Oui") ∧ t.translator.locale = "de" ∧
      t.preference = some "de") ∧
    ∃ e : LoadError,
      (Builder.sample.attempt Fetcher.unreachable .blocking (.ok false) false).1 = .error e ∧
      (Builder.sample.attempt Fetcher.unreachable .blocking (.ok false) false).2 = some "de" := by
  constructor
  · have hfails : ((Builder.sample.build true).run Fetcher.unreachable
        [.setCatalog "fr" (.text "Oui"), .load .async "fr" true])[1]?.any
          (fun r => r.1 matches .failed _) = true := by decide +kernel
    obtain ⟨⟨outcome, t⟩, hrun, hfailed⟩ := (Option.any_eq_true _ _).1 hfails
    cases outcome with
    | failed e =>
      -- The load fails at the second place of the run, so the session behind the first is kept.
      obtain ⟨before, hbefore, hkeeps⟩ := (failed_keeps Fetcher.unreachable).1 _ _ 1 e t hrun
      obtain rfl := Option.some.inj hbefore
      refine ⟨e, t, hrun, ?_, ?_, hkeeps.preference⟩
      · rw [hkeeps.translator]
        rfl
      · rw [hkeeps.translator]
        rfl
    | text | replaced | done => exact nomatch hfailed
  · have hfails : (Builder.sample.attempt Fetcher.unreachable .blocking (.ok false) false).1.isOk =
        false := by decide +kernel
    cases hresult : (Builder.sample.attempt Fetcher.unreachable .blocking (.ok false) false).1 with
    | error e =>
      exact ⟨e, rfl, (failed_keeps Fetcher.unreachable).2 Builder.sample .blocking _ _ e hresult⟩
    | ok t =>
      rw [hresult] at hfails
      exact nomatch hfails

end Session

end Phrasebook
