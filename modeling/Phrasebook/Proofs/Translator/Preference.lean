import Phrasebook.Proofs.Translator.Failure
import Mathlib.Data.List.Basic

/-!
# The preference under two writers

The preference is written by the translator, when it makes a locale active, and by others at any
time.  The translator keeps its active locale for itself and reads the preference only when it is
built.  So the preference holds what was written last by either side, and the active locale is what
the translator itself has last made active.

* `Session.Step` is one operation of a run with the sessions around it.  `Step.activated?` is the
  locale that it has made active, and `Step.written?` the one that has been written to the
  preference in it, by either side.
* `Session.writesSaid_step`: a step writes what these say and nothing else.
* `Session.writes_run`: so the last of them in a run up to any point are what is there.
* `Builder.preference_and_locale` follows this from the building of a translator on.  One that has
  been installed is one that has been built and has performed a load.
-/

namespace Phrasebook

namespace Session

variable {σ : Type} {fetcher : Fetcher σ} {s t : Session σ}

/-! ### Steps -/

/-- An operation in a run, with its outcome and the sessions before it and behind it. -/
structure Step (σ : Type) where
  before : Session σ
  operation : Operation
  outcome : Outcome
  after : Session σ

/-- The step that an operation makes. -/
def step (fetcher : Fetcher σ) (op : Operation) (s : Session σ) : Step σ where
  before := s
  operation := op
  outcome := (s.perform fetcher op).1
  after := (s.perform fetcher op).2

/-- The steps of a run. -/
def steps (fetcher : Fetcher σ) : List Operation → Session σ → List (Step σ)
  | [], _ => []
  | op :: ops, s => s.step fetcher op :: steps fetcher ops (s.step fetcher op).after

/-- The locale that a step has made active: by an activation or a change of locale that has
succeeded, or by a load that has succeeded and for which something was fetched. -/
def Step.activated? (x : Step σ) : Option String :=
  match x.operation, x.outcome with
  | .activate locale, .done => some locale
  | .setLocale _ locale, .done => some locale
  | .load _ locale _, .done =>
    if x.after.fetches.length = x.before.fetches.length then none else some locale
  | _, _ => none

/-- The locale that someone else has written to the preference in a step. -/
def Step.foreign? (x : Step σ) : Option String :=
  match x.operation with
  | .writePreference locale => some locale
  | _ => none

/-- The locale that has been written to the preference in a step, by someone else or as it was made
active. -/
def Step.written? (x : Step σ) : Option String :=
  x.foreign?.or x.activated?

/-- What has come last of all that is found in the steps. -/
def latest (f : Step σ → Option String) (xs : List (Step σ)) : Option String :=
  (xs.filterMap f).getLast?

/-- `s.Writes own written t`: the active locale of `t` is `own`, and its preference `written`, each
of them as it is in `s` if there is none. -/
structure Writes (s : Session σ) (own written : Option String) (t : Session σ) : Prop where
  locale : t.translator.locale = own.getD s.translator.locale
  preference : t.preference = written.or s.preference

theorem Keeps.writes (h : s.Keeps t) : s.Writes none none t where
  locale := congrArg Translator.locale h.translator
  preference := h.preference

/-- What an activation leaves does not depend on what was there. -/
theorem Active.writes {u : Session σ} {locale : String} (h : u.Active locale t) (s : Session σ) :
    s.Writes (some locale) (some locale) t where
  locale := congrArg Translator.locale h.translator
  preference := h.preference

theorem Writes.trans {u : Session σ} {own written own' written' : Option String}
    (h : s.Writes own written t) (h' : t.Writes own' written' u) :
    s.Writes (own'.or own) (written'.or written) u where
  locale := by
    rw [h'.locale, h.locale]
    cases own' <;> rfl
  preference := by rw [h'.preference, h.preference, Option.or_assoc]

/-! ### What a step writes -/

/-- A step writes what is said of it: a locale that it makes active to the translator and to the
preference, a write by someone else to the preference alone, and nothing besides. -/
def Step.WritesSaid (x : Step σ) : Prop :=
  x.before.Writes x.activated? x.written? x.after

theorem Step.writesSaid_of_writes {x : Step σ} {own : Option String}
    (h : x.before.Writes own own x.after) (hforeign : x.foreign? = none)
    (hown : x.activated? = own) : x.WritesSaid := by
  unfold WritesSaid written?
  rw [hforeign, hown, Option.none_or]
  exact h

theorem writesSaid_activate (s : Session σ) (locale : String) :
    (⟨s, .activate locale, .ofResult (s.activate locale).1, (s.activate locale).2⟩ :
      Step σ).WritesSaid := by
  by_cases hhas : s.translator.store.has locale = true
  · obtain ⟨hok, hactive⟩ := activate_of_has hhas
    rw [hok]
    exact Step.writesSaid_of_writes (hactive.writes s) rfl rfl
  · obtain ⟨hfails, hkeeps⟩ := activate_of_not_has hhas
    rw [hfails]
    exact Step.writesSaid_of_writes hkeeps.writes rfl rfl

/-- A load writes if something is fetched for it and stored, and only then. -/
theorem Loading.writesSaid {mode : Mode} {locale : String} {force : Bool}
    {result : Except LoadError Unit} (h : Loading fetcher mode locale force s result t) :
    (⟨s, .load mode locale force, .ofResult result, t⟩ : Step σ).WritesSaid := by
  cases h with
  | skipped _ keeps _ fetches =>
    exact Step.writesSaid_of_writes keeps.writes rfl (if_pos (congrArg List.length fetches))
  | unaddressed => exact Step.writesSaid_of_writes (Keeps.writes ⟨rfl, rfl⟩) rfl rfl
  | refused => exact Step.writesSaid_of_writes (keeps_ask s _ _ _).writes rfl rfl
  | fetched _ _ _ active =>
    -- the journal has one fetch more than before
    have hfetches : t.fetches.length ≠ s.fetches.length := by
      rw [active.fetches]
      change (s.fetches ++ [_]).length ≠ s.fetches.length
      simp
    exact Step.writesSaid_of_writes (active.writes s) rfl (if_neg hfetches)

/-- A change of locale that succeeds ends with an activation. -/
theorem exists_active_setLocale {mode : Mode} {locale : String}
    (h : (s.setLocale fetcher mode locale).1 = .ok ()) :
    ∃ u : Session σ, u.Active locale (s.setLocale fetcher mode locale).2 := by
  rw [setLocale_eq] at h ⊢
  cases hload : (s.load fetcher mode locale false).1 with
  | error e =>
    rw [hload] at h
    exact nomatch h
  | ok _ =>
    rw [hload] at h
    refine ⟨(s.load fetcher mode locale false).2, ?_⟩
    by_cases hhas : (s.load fetcher mode locale false).2.translator.store.has locale = true
    · exact (activate_of_has hhas).2
    · exact nomatch (activate_of_not_has hhas).1.symm.trans h

theorem writesSaid_setLocale (fetcher : Fetcher σ) (mode : Mode) (locale : String)
    (s : Session σ) :
    (⟨s, .setLocale mode locale, .ofResult (s.setLocale fetcher mode locale).1,
      (s.setLocale fetcher mode locale).2⟩ : Step σ).WritesSaid := by
  have htransition := transition_setLocale fetcher mode locale s
  cases hresult : (s.setLocale fetcher mode locale).1 with
  | error e =>
    rw [hresult] at htransition
    exact Step.writesSaid_of_writes htransition.keeps_of_failed.writes rfl rfl
  | ok _ =>
    obtain ⟨u, hactive⟩ := exists_active_setLocale hresult
    exact Step.writesSaid_of_writes (hactive.writes s) rfl rfl

theorem writesSaid_step (fetcher : Fetcher σ) (op : Operation) (s : Session σ) :
    (s.step fetcher op).WritesSaid := by
  cases op with
  | translate | countable | setCatalog | setFallback | writePreference => exact ⟨rfl, rfl⟩
  | activate locale => exact writesSaid_activate s locale
  | load mode locale force => exact (loading_load fetcher mode locale force s).writesSaid
  | setLocale mode locale => exact writesSaid_setLocale fetcher mode locale s

/-! ### Runs -/

theorem latest_cons (f : Step σ → Option String) (x : Step σ) (xs : List (Step σ)) :
    latest f (x :: xs) = (latest f xs).or (f x) := by
  unfold latest
  cases hx : f x with
  | none => rw [List.filterMap_cons_none hx, Option.or_none]
  | some locale =>
    rw [List.filterMap_cons_some hx, List.getLast?_cons]
    cases (xs.filterMap f).getLast? <;> rfl

/-- The session behind the first steps of a run has the active locale and the preference that were
written last in them. -/
theorem writes_run {ops : List Operation} {n : ℕ} (h : (s.states fetcher ops)[n]? = some t) :
    s.Writes (latest Step.activated? ((s.steps fetcher ops).take n))
      (latest Step.written? ((s.steps fetcher ops).take n)) t := by
  induction ops generalizing s n with
  | nil =>
    cases n with
    | zero =>
      obtain rfl := Option.some.inj h
      exact ⟨rfl, rfl⟩
    | succ n => exact nomatch h
  | cons op ops ih =>
    cases n with
    | zero =>
      obtain rfl := Option.some.inj h
      exact ⟨rfl, rfl⟩
    | succ n =>
      -- The step comes first, so what the rest has written counts before it.
      have hrest := ih (s := (s.step fetcher op).after) (n := n) h
      rw [steps, List.take_succ_cons, latest_cons, latest_cons]
      exact Writes.trans (writesSaid_step fetcher op s) hrest

/-- A step of a run is one of its operations in one of its sessions. -/
theorem eq_step_of_mem_steps {ops : List Operation} {x : Step σ} (h : x ∈ s.steps fetcher ops) :
    x.operation ∈ ops ∧ x.before ∈ s.states fetcher ops ∧
      x = x.before.step fetcher x.operation := by
  induction ops generalizing s with
  | nil => exact absurd h List.not_mem_nil
  | cons op ops ih =>
    rw [states_cons]
    rcases List.mem_cons.1 h with rfl | h
    · exact ⟨List.mem_cons_self, List.mem_cons_self, rfl⟩
    · obtain ⟨hop, hbefore, hx⟩ := ih h
      exact ⟨List.mem_cons_of_mem op hop, List.mem_cons_of_mem s hbefore, hx⟩

theorem writesSaid_of_mem_steps {ops : List Operation} {x : Step σ}
    (h : x ∈ s.steps fetcher ops) : x.WritesSaid := by
  obtain ⟨-, -, hx⟩ := eq_step_of_mem_steps h
  rw [hx]
  exact writesSaid_step fetcher x.operation x.before

/-- As long as nobody else writes, what is written is what is made active. -/
theorem latest_written?_eq {ops : List Operation}
    (h : ∀ locale, .writePreference locale ∉ ops) (n : ℕ) :
    latest Step.written? ((s.steps fetcher ops).take n) =
      latest Step.activated? ((s.steps fetcher ops).take n) := by
  refine congrArg List.getLast? (List.filterMap_congr fun x hx => ?_)
  obtain ⟨hop, -, -⟩ := eq_step_of_mem_steps (List.mem_of_mem_take hx)
  have hforeign : x.foreign? = none := by
    unfold Step.foreign?
    split
    · rename_i locale heq
      exact absurd (heq ▸ hop) (h locale)
    · rfl
  rw [Step.written?, hforeign, Option.none_or]

/-- A locale that has been made active is active, and the preference holds it. -/
theorem Step.WritesSaid.of_activated? {x : Step σ} (h : x.WritesSaid) {locale : String}
    (hlocale : x.activated? = some locale) (hforeign : x.foreign? = none) :
    x.after.translator.locale = locale ∧ x.after.preference = some locale := by
  unfold WritesSaid written? at h
  rw [hforeign, hlocale] at h
  exact ⟨h.locale, h.preference⟩

end Session

namespace Builder

open Session

/-- **Two writers of one preference.**  Behind each operation of a run the preference holds what
either side has written to it last, and the active locale is the one that the translator has made
active last.  Without such writes both are what the preference was when the translator was built.
As long as nobody else writes the two are the same, and they are again behind each activation that
succeeds. -/
theorem preference_and_locale {σ : Type} (b : Builder) (fetcher : Fetcher σ) (source : σ) :
    (∀ (ops : List Operation) (n : ℕ) (t : Session σ),
      ((b.build source).states fetcher ops)[n]? = some t →
        t.preference =
          (latest Step.written? (((b.build source).steps fetcher ops).take n)).or b.preference ∧
        t.translator.locale =
          (latest Step.activated? (((b.build source).steps fetcher ops).take n)).getD
            b.preference.current) ∧
    (∀ (mode : Mode) (ops : List Operation),
      (b.build source).states fetcher (.load mode b.preference.current false :: ops) =
        b.build source :: (b.install fetcher mode source).2.states fetcher ops) ∧
    (∀ ops : List Operation, (∀ locale, .writePreference locale ∉ ops) →
      ∀ t ∈ (b.build source).states fetcher ops, t.preference.current = t.translator.locale) ∧
    ∀ ops : List Operation, ∀ x ∈ (b.build source).steps fetcher ops, x.outcome = .done →
      ∀ locale, (x.operation = .activate locale ∨ ∃ mode, x.operation = .setLocale mode locale) →
        x.after.translator.locale = locale ∧ x.after.preference.current = locale := by
  refine ⟨?_, fun mode ops => rfl, ?_, ?_⟩
  · intro ops n t h
    have hwrites := writes_run h
    exact ⟨hwrites.preference, hwrites.locale⟩
  · intro ops hops t ht
    obtain ⟨n, hn⟩ := List.getElem?_of_mem ht
    have hwrites := writes_run hn
    -- Nobody else has written, so both were written together, or neither has been.
    rw [latest_written?_eq hops] at hwrites
    rw [hwrites.preference, hwrites.locale]
    cases latest Step.activated? (((b.build source).steps fetcher ops).take n) <;> rfl
  · intro ops x hx hdone locale hop
    have hsaid := writesSaid_of_mem_steps hx
    obtain ⟨hactivated, hforeign⟩ : x.activated? = some locale ∧ x.foreign? = none := by
      -- Both operations are those of the translator, and make the locale active when they are done.
      unfold Step.activated? Step.foreign?
      rcases hop with hop | ⟨mode, hop⟩ <;> rw [hop, hdone] <;> exact ⟨rfl, rfl⟩
    obtain ⟨hlocale, hpreference⟩ := hsaid.of_activated? hactivated hforeign
    exact ⟨hlocale, congrArg Preference.current hpreference⟩

/-- Someone else writes between two changes of locale, and a load that is not needed leaves what was
written; the translator keeps its own locale meanwhile. -/
theorem preference_and_locale_interleaved :
    ∃ t : Session Unit,
      ((sample.build ()).states (Fetcher.constant fun _ => .ok (.text "Ja"))
        [.setLocale .async "fr", .writePreference "it", .load .blocking "fr" false,
          .setLocale .blocking "de"])[3]? = some t ∧
      t.preference = some "it" ∧ t.translator.locale = "fr" := by
  refine ⟨_, rfl, ?_⟩
  obtain ⟨hpreference, hlocale⟩ := (preference_and_locale sample
    (Fetcher.constant fun _ => .ok (.text "Ja")) ()).1
      [.setLocale .async "fr", .writePreference "it", .load .blocking "fr" false,
        .setLocale .blocking "de"] 3 _ rfl
  exact ⟨hpreference.trans (by decide +kernel), hlocale.trans (by decide +kernel)⟩

end Builder

end Phrasebook
