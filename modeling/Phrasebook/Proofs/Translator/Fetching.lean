import Phrasebook.Proofs.Request
import Phrasebook.Proofs.Translator.ActiveLocale
import Phrasebook.Proofs.Translator.Preference
import Mathlib.Data.List.Nodup

/-!
# Which catalogs are fetched

A catalog is fetched when an operation wants it and it is not there, and what has been fetched is
stored.  Since no operation takes a catalog away, none is fetched a second time, unless a fetch
fails or is forced.

* `Session.Fetching` lists what an operation that wants a catalog can do to the journal of fetches.
  Loading does one of these (`Session.Loading.fetching`), and the activation behind it keeps to it.
* `Session.Step.Economical` is what this comes to for one step of a run in which nothing is forced
  (`Session.economical_step`).
* `Session.has_of_mem_steps` and `Session.pairwise_steps` carry the catalogs from one step to later
  ones.
* `Builder.fetches_economical` puts these together: over a whole run each catalog is fetched with
  success at most once, and not at all if it is there for another reason.
-/

namespace Phrasebook

namespace Session

variable {σ : Type} {fetcher : Fetcher σ} {s t : Session σ} {locale : String}

/-! ### Operations that want a catalog -/

/-- The locale whose catalog an operation wants. -/
def Operation.wanted? : Operation → Option String
  | .load _ locale _ => some locale
  | .setLocale _ locale => some locale
  | _ => none

/-- Whether an operation has its catalog fetched even if it is there. -/
def Operation.forced : Operation → Bool
  | .load _ _ force => force
  | _ => false

/-- What is fetched for a catalog that an operation wants. -/
inductive Fetching (fetcher : Fetcher σ) (locale : String) (force : Bool) (s t : Session σ) : Prop
  /-- Nothing is fetched. -/
  | none (fetches : t.fetches = s.fetches) (source : t.source = s.source) :
      Fetching fetcher locale force s t
  /-- The catalog is fetched, and stored if the answer has one. -/
  | one {f : Fetch} (named : f.request.locale = locale)
      (needed : s.translator.store.has locale = false ∨ force = true)
      (fetches : t.fetches = s.fetches ++ [f])
      (source : t.source = (fetcher f.mode f.request s.source).2)
      (stored : ∀ tree, (fetcher f.mode f.request s.source).1.result = .ok tree →
        t.translator.store.has locale = true) :
      Fetching fetcher locale force s t

/-- Loading makes the fetch that it needs. -/
theorem Loading.fetching {mode : Mode} {force : Bool} {result : Except LoadError Unit}
    (h : Loading fetcher mode locale force s result t) : Fetching fetcher locale force s t := by
  cases h with
  | skipped _ _ source fetches => exact .none fetches source
  | unaddressed => exact .none rfl rfl
  | @refused remote r e wants request answer =>
    refine .one (f := ⟨mode, r⟩) (Request.locale_of_make request) wants.needed rfl rfl ?_
    intro tree htree
    exact nomatch answer.symm.trans htree
  | @fetched remote r tree _ wants request answer active =>
    refine .one (f := ⟨mode, r⟩) (Request.locale_of_make request) wants.needed active.fetches
      active.source ?_
    intro _ _
    rw [active.translator]
    exact Store.has_set_self _ _ _

theorem activate_frame (s : Session σ) (locale : String) :
    (s.activate locale).2.fetches = s.fetches ∧ (s.activate locale).2.source = s.source ∧
      (s.activate locale).2.translator.store = s.translator.store := by
  unfold activate
  split <;> exact ⟨rfl, rfl, rfl⟩

/-- An activation fetches nothing and takes no catalog away. -/
theorem Fetching.activate {force : Bool} (h : Fetching fetcher locale force s t) (other : String) :
    Fetching fetcher locale force s (t.activate other).2 := by
  obtain ⟨hfetches, hsource, hstore⟩ := activate_frame t other
  cases h with
  | none fetches source => exact .none (hfetches.trans fetches) (hsource.trans source)
  | one named needed fetches source stored =>
    exact .one named needed (hfetches.trans fetches) (hsource.trans source) (hstore ▸ stored)

/-- An operation that wants a catalog makes the fetch that it needs. -/
theorem fetching_perform {op : Operation} (h : op.wanted? = some locale) (fetcher : Fetcher σ)
    (s : Session σ) : Fetching fetcher locale op.forced s (s.perform fetcher op).2 := by
  cases op with
  | load mode other force =>
    obtain rfl := Option.some.inj h
    exact (loading_load fetcher mode other force s).fetching
  | setLocale mode other =>
    obtain rfl := Option.some.inj h
    have hload := (loading_load fetcher mode other false s).fetching
    change Fetching fetcher other false s (s.setLocale fetcher mode other).2
    rw [setLocale_eq]
    split
    · exact hload
    · exact hload.activate other
  | translate | countable | setCatalog | activate | setFallback | writePreference => exact nomatch h

/-- An operation that wants no catalog fetches none. -/
theorem fetches_perform_of_wanted?_eq_none {op : Operation} (h : op.wanted? = none)
    (fetcher : Fetcher σ) (s : Session σ) : (s.perform fetcher op).2.fetches = s.fetches := by
  cases op with
  | load | setLocale => exact nomatch h
  | activate locale => exact (activate_frame s locale).1
  | translate | countable | setCatalog | setFallback | writePreference => rfl

/-- A catalog that is wanted and there is had at once. -/
theorem perform_of_has {op : Operation} (h : op.wanted? = some locale) (hforced : op.forced = false)
    (hhas : s.translator.store.has locale = true) : (s.perform fetcher op).1 = .done := by
  cases op with
  | load mode other force =>
    obtain rfl := Option.some.inj h
    obtain rfl : force = false := hforced
    exact congrArg Outcome.ofResult (load_of_has hhas fetcher mode).1
  | setLocale mode other =>
    obtain rfl := Option.some.inj h
    obtain ⟨hok, hkeeps⟩ := load_of_has hhas fetcher mode
    rw [← hkeeps.translator] at hhas
    have hset : (s.setLocale fetcher mode other).1 = .ok () := by
      rw [setLocale_eq, hok]
      exact (activate_of_has hhas).1
    exact congrArg Outcome.ofResult hset
  | translate | countable | setCatalog | activate | setFallback | writePreference => exact nomatch h

/-! ### Steps -/

/-- The fetches that are made in a step. -/
def Step.fetched (x : Step σ) : List Fetch :=
  x.after.fetches.drop x.before.fetches.length

/-- The locales for which a step fetches a catalog with success: the fetcher is asked in the state
in which the step finds it, and answers with a tree. -/
def Step.obtained (fetcher : Fetcher σ) (x : Step σ) : List String :=
  (x.fetched.filter fun f => (fetcher f.mode f.request x.before.source).1.result.isOk).map
    fun f => f.request.locale

/-- What a step in which nothing is forced does about catalogs. -/
structure Step.Economical (fetcher : Fetcher σ) (x : Step σ) : Prop where
  /-- The journal is that from before, and the fetches of the step behind it. -/
  journal : x.after.fetches = x.before.fetches ++ x.fetched
  /-- There is one of them at most. -/
  single : x.fetched.length ≤ 1
  /-- It is for the locale that the operation names. -/
  named : ∀ f ∈ x.fetched, x.operation.wanted? = some f.request.locale
  /-- The catalog was not there. -/
  missing : ∀ f ∈ x.fetched, x.before.translator.store.has f.request.locale = false
  /-- The fetcher has been asked in the state from before the step. -/
  asked : ∀ f ∈ x.fetched, x.after.source = (fetcher f.mode f.request x.before.source).2
  /-- A catalog that has been fetched with success is there. -/
  stored : ∀ locale ∈ x.obtained fetcher, x.after.translator.store.has locale = true
  /-- A catalog that was there is had without a fetch. -/
  spared : ∀ locale, x.before.translator.store.has locale = true →
    x.operation.wanted? = some locale → x.outcome = .done ∧ x.fetched = []

theorem Step.fetched_of_append {x : Step σ} {new : List Fetch}
    (h : x.after.fetches = x.before.fetches ++ new) : x.fetched = new := by
  rw [Step.fetched, h, List.drop_left]

/-- A step without a fetch is economical if it succeeds wherever the catalog is there. -/
theorem Step.economical_of_none {x : Step σ} (h : x.after.fetches = x.before.fetches)
    (hdone : ∀ locale, x.before.translator.store.has locale = true →
      x.operation.wanted? = some locale → x.outcome = .done) : x.Economical fetcher := by
  have hnil : x.fetched = [] := Step.fetched_of_append (h.trans (List.append_nil _).symm)
  have hempty : ∀ f, f ∉ x.fetched := fun f hf => absurd (hnil ▸ hf) List.not_mem_nil
  refine ⟨by rw [hnil, h, List.append_nil], by rw [hnil]; exact Nat.zero_le 1, ?_, ?_, ?_, ?_, ?_⟩
  · exact fun f hf => absurd hf (hempty f)
  · exact fun f hf => absurd hf (hempty f)
  · exact fun f hf => absurd hf (hempty f)
  · intro locale hlocale
    rw [Step.obtained, hnil] at hlocale
    exact absurd hlocale List.not_mem_nil
  · exact fun locale hhas hwanted => ⟨hdone locale hhas hwanted, hnil⟩

/-- So is a step that fetches the catalog it wants, which is not there. -/
theorem Step.economical_of_one {x : Step σ} {f : Fetch}
    (hfetches : x.after.fetches = x.before.fetches ++ [f])
    (hwanted : x.operation.wanted? = some f.request.locale)
    (hmissing : x.before.translator.store.has f.request.locale = false)
    (hsource : x.after.source = (fetcher f.mode f.request x.before.source).2)
    (hstored : ∀ tree, (fetcher f.mode f.request x.before.source).1.result = .ok tree →
      x.after.translator.store.has f.request.locale = true) : x.Economical fetcher := by
  have hone : x.fetched = [f] := Step.fetched_of_append hfetches
  have hself : ∀ g ∈ x.fetched, g = f := fun g hg => List.mem_singleton.1 (hone ▸ hg)
  -- All that is said of the fetches of the step is said of this one.
  refine ⟨by rw [hone, hfetches], by rw [hone]; exact Nat.le_refl 1, ?_, ?_, ?_, ?_, ?_⟩
  · exact fun g hg => hself g hg ▸ hwanted
  · exact fun g hg => hself g hg ▸ hmissing
  · exact fun g hg => hself g hg ▸ hsource
  · intro locale hlocale
    obtain ⟨g, hg, rfl⟩ := List.mem_map.1 hlocale
    obtain ⟨hg, hanswer⟩ := List.mem_filter.1 hg
    obtain rfl := hself g hg
    cases hresult : (fetcher g.mode g.request x.before.source).1.result with
    | ok tree => exact hstored tree hresult
    | error e =>
      rw [hresult] at hanswer
      exact nomatch hanswer
  · intro locale hhas hlocale
    obtain rfl := Option.some.inj (hwanted.symm.trans hlocale)
    exact absurd hhas (Bool.eq_false_iff.1 hmissing)

theorem economical_step {op : Operation} (hforced : op.forced = false) (fetcher : Fetcher σ)
    (s : Session σ) : (s.step fetcher op).Economical fetcher := by
  have hdone : ∀ locale, s.translator.store.has locale = true → op.wanted? = some locale →
      (s.perform fetcher op).1 = .done := fun _ hhas hwanted => perform_of_has hwanted hforced hhas
  cases hwanted : op.wanted? with
  | none =>
    exact Step.economical_of_none (fetches_perform_of_wanted?_eq_none hwanted fetcher s) hdone
  | some locale =>
    cases fetching_perform hwanted fetcher s with
    | none fetches _ => exact Step.economical_of_none fetches hdone
    | one named needed fetches source stored =>
      subst named
      -- Nothing is forced, so the fetch was needed because the catalog was not there.
      have hmissing := needed.resolve_right (Bool.eq_false_iff.1 hforced)
      exact Step.economical_of_one fetches hwanted hmissing source stored

/-! ### Runs -/

theorem economical_of_mem_steps {ops : List Operation} (hops : ∀ op ∈ ops, op.forced = false)
    {x : Step σ} (h : x ∈ s.steps fetcher ops) : x.Economical fetcher := by
  obtain ⟨hop, -, hx⟩ := eq_step_of_mem_steps h
  rw [hx]
  exact economical_step (hops _ hop) fetcher x.before

/-- Each step of a run finds the catalogs that were there before the run. -/
theorem has_of_mem_steps {ops : List Operation} {x : Step σ} (h : x ∈ s.steps fetcher ops)
    (hhas : s.translator.store.has locale = true) :
    x.before.translator.store.has locale = true := by
  obtain ⟨-, hbefore, -⟩ := eq_step_of_mem_steps h
  exact rel_of_mem_states (fun _ h => h) (pairwise_has fetcher ops s) hbefore locale hhas

/-- A catalog that is there behind a step of a run is found by all later steps. -/
theorem pairwise_steps (fetcher : Fetcher σ) (ops : List Operation) (s : Session σ) :
    (s.steps fetcher ops).Pairwise fun x y =>
      ∀ locale, x.after.translator.store.has locale → y.before.translator.store.has locale := by
  induction ops generalizing s with
  | nil => exact .nil
  | cons op ops ih => exact List.pairwise_cons.2 ⟨fun y hy locale => has_of_mem_steps hy, ih _⟩

/-- A step that finds a catalog neither fetches it nor has to. -/
theorem Step.Economical.of_has {x : Step σ} (h : x.Economical fetcher)
    (hhas : x.before.translator.store.has locale = true) :
    (∀ f ∈ x.fetched, f.request.locale ≠ locale) ∧
      (x.operation.wanted? = some locale → x.outcome = .done ∧ x.fetched = []) := by
  refine ⟨fun f hf heq => ?_, h.spared locale hhas⟩
  exact absurd (heq ▸ hhas) (Bool.eq_false_iff.1 (h.missing f hf))

theorem Step.Economical.nodup_obtained {x : Step σ} (h : x.Economical fetcher) :
    (x.obtained fetcher).Nodup := by
  -- A list with one element at most has none twice.
  have hlength : (x.obtained fetcher).length ≤ x.fetched.length := by
    rw [Step.obtained, List.length_map]
    exact List.length_filter_le _ _
  have hsingle := h.single
  cases hobtained : x.obtained fetcher with
  | nil => exact List.nodup_nil
  | cons locale rest =>
    have hrest : rest = [] := by
      rw [hobtained, List.length_cons] at hlength
      exact List.length_eq_zero_iff.1 (by omega)
    rw [hrest]
    exact List.nodup_singleton locale

/-- What a step has fetched is for locales of which it has fetched. -/
theorem Step.exists_fetched_of_obtained {x : Step σ} (h : locale ∈ x.obtained fetcher) :
    ∃ f ∈ x.fetched, f.request.locale = locale := by
  obtain ⟨f, hf, hlocale⟩ := List.mem_map.1 h
  exact ⟨f, List.mem_of_mem_filter hf, hlocale⟩

/-- In a run in which nothing is forced, a catalog that is there behind a step is neither fetched by
later steps nor has to be. -/
theorem pairwise_spared {ops : List Operation} (hops : ∀ op ∈ ops, op.forced = false)
    (fetcher : Fetcher σ) (s : Session σ) :
    (s.steps fetcher ops).Pairwise fun x y =>
      ∀ locale, x.after.translator.store.has locale →
        (∀ f ∈ y.fetched, f.request.locale ≠ locale) ∧
          (y.operation.wanted? = some locale → y.outcome = .done ∧ y.fetched = []) := by
  refine (pairwise_steps fetcher ops s).imp_of_mem fun _ hy hxy locale hhas => ?_
  exact (economical_of_mem_steps hops hy).of_has (hxy locale hhas)

/-- In a run in which nothing is forced, no catalog is fetched twice with success. -/
theorem nodup_obtained_steps {ops : List Operation} (hops : ∀ op ∈ ops, op.forced = false)
    (fetcher : Fetcher σ) (s : Session σ) :
    ((s.steps fetcher ops).flatMap (Step.obtained fetcher)).Nodup := by
  refine List.nodup_flatMap.2 ⟨fun x hx => (economical_of_mem_steps hops hx).nodup_obtained, ?_⟩
  -- What an earlier step has obtained is stored behind it, and so a later one does not fetch it.
  refine (pairwise_spared hops fetcher s).imp_of_mem fun hx _ hspared locale hfirst hsecond => ?_
  have hstored := (economical_of_mem_steps hops hx).stored locale hfirst
  obtain ⟨f, hf, hlocale⟩ := Step.exists_fetched_of_obtained hsecond
  exact (hspared locale hstored).1 f hf hlocale

/-- A catalog that is set in a step is there behind it. -/
theorem has_of_setCatalog {ops : List Operation} {x : Step σ} (h : x ∈ s.steps fetcher ops)
    {tree : MessageTree} (hset : x.operation = .setCatalog locale tree) :
    x.after.translator.store.has locale = true := by
  obtain ⟨-, -, hx⟩ := eq_step_of_mem_steps h
  rw [hx, hset]
  exact Store.has_set_self _ _ _

end Session

namespace Builder

open Session

/-- **Catalogs are fetched sparingly.**  In a run in which no load is forced each step makes one
fetch at most, and that for a locale which is not loaded.  Once a catalog has been fetched or set,
no later step fetches it, so that no locale is fetched with success twice.  An installation is the
first step of such a run. -/
theorem fetches_economical {σ : Type} (b : Builder) (fetcher : Fetcher σ) (source : σ)
    (ops : List Operation) (hops : ∀ op ∈ ops, op.forced = false) :
    (∀ x ∈ (b.build source).steps fetcher ops, x.Economical fetcher ∧
      ∀ f ∈ x.fetched, b.store.has f.request.locale = false) ∧
    (((b.build source).steps fetcher ops).flatMap (Step.obtained fetcher)).Nodup ∧
    (((b.build source).steps fetcher ops).Pairwise fun x y => ∀ locale,
      (locale ∈ x.obtained fetcher ∨ ∃ tree, x.operation = .setCatalog locale tree) →
        (∀ f ∈ y.fetched, f.request.locale ≠ locale) ∧
          (y.operation.wanted? = some locale → y.outcome = .done ∧ y.fetched = [])) ∧
    ∀ (mode : Mode) (rest : List Operation),
      (b.build source).steps fetcher (.load mode b.preference.current false :: rest) =
        ⟨b.build source, .load mode b.preference.current false,
          .ofResult (b.install fetcher mode source).1, (b.install fetcher mode source).2⟩ ::
          (b.install fetcher mode source).2.steps fetcher rest := by
  refine ⟨?_, nodup_obtained_steps hops fetcher _, ?_, fun mode rest => rfl⟩
  · intro x hx
    have hx' := economical_of_mem_steps hops hx
    refine ⟨hx', fun f hf => Bool.eq_false_iff.2 fun hhas => ?_⟩
    -- What the builder has is there in each step, and nothing that is there is fetched.
    exact absurd (has_of_mem_steps hx hhas) (Bool.eq_false_iff.1 (hx'.missing f hf))
  · -- A catalog that has been fetched or set is there behind its step, and so in all later ones.
    refine (pairwise_spared hops fetcher _).imp_of_mem fun hx _ hspared locale hthere => ?_
    apply hspared
    rcases hthere with hobtained | ⟨tree, hset⟩
    · exact (economical_of_mem_steps hops hx).stored locale hobtained
    · exact has_of_setCatalog hx hset

/-- A fetcher that refuses every other request, the first one among them. -/
def flaky : Fetcher ℕ := fun _ request n =>
  let result := if n % 2 = 0 then .error (.fetchFailed 503 "Service Unavailable")
    else .ok (.text request.locale)
  (⟨result, []⟩, n + 1)

/-- Operations of which the second tries again what the first has failed to do. -/
def flakyRun : List Operation :=
  [.setLocale .async "fr", .setLocale .blocking "fr", .setCatalog "it" (.text "Sì"),
    .load .blocking "it" false, .load .async "fr" false]

/-- Two fetches for one locale, of which the second succeeds, and none for what is there then. -/
theorem fetches_economical_flaky :
    (∀ op ∈ flakyRun, op.forced = false) ∧
    ((sample.build 0).steps flaky flakyRun).map (fun x => x.fetched.length) = [1, 1, 0, 0, 0] ∧
    ((sample.build 0).steps flaky flakyRun).flatMap (Step.obtained flaky) = ["fr"] ∧
    (((sample.build 0).steps flaky flakyRun).flatMap (Step.obtained flaky)).Nodup ∧
    ∀ x ∈ (sample.build 0).steps flaky flakyRun, x.Economical flaky := by
  have hunforced : ∀ op ∈ flakyRun, op.forced = false := by decide
  obtain ⟨hsteps, hnodup, -, -⟩ := fetches_economical sample flaky 0 flakyRun hunforced
  exact ⟨hunforced, by decide +kernel, by decide +kernel, hnodup, fun x hx => (hsteps x hx).1⟩

end Builder

end Phrasebook
