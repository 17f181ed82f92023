import Phrasebook.Proofs.Translator.ActiveLocale
import Phrasebook.Proofs.Translator.Switching

/-!
# Loading on demand

A translator with a source of catalogs fetches the catalog of a locale when the locale is first
switched to.  If the source says the same whenever it is asked, then this cannot be told from a
translator that has had all its catalogs from the start.

Both are compared with a machine that has no catalogs at all but knows the function which they are
the values of.  Its states are what can be seen of a session (`View`).

* `View.perform` and `View.run` are that machine.
* `Session.Supplies` says that a session has the catalog of a locale or can load it.  What a change
  of locale does in general is known, so it succeeds then with the catalog that the function says
  (`Session.Supplies.setLocale`).
* `Session.Ready` is the invariant: it is kept by a call, which gives what the machine gives
  (`Session.Ready.perform`), and so by a run (`Session.Ready.run`).
* `Builder.onDemand_eq_preloaded` compares a translator that loads on demand with one that has its
  catalogs from the start.
-/

namespace Phrasebook

/-- `fetcher.Serves f`: in whatever state the fetcher is, it answers a request for a locale with
what `f` says. -/
def Fetcher.Serves {σ : Type} (fetcher : Fetcher σ) (f : String → MessageTree) : Prop :=
  ∀ mode request source, (fetcher mode request source).1.result = .ok (f request.locale)

theorem Translator.translate_of_catalog {t : Translator} {tree : MessageTree}
    (h : t.store.catalog t.locale = some tree) (key : String) (args : Args) :
    t.translate key args = substitute ((resolve key tree).textOr key) args := by
  unfold translate lookup
  rw [effective_of_catalog h]

namespace Session

variable {σ : Type}

/-! ### Calls and what is seen of them -/

/-- What is asked of a translator by those who leave its catalogs to itself. -/
inductive Call where
  | translate (key : String) (args : Args)
  | countable (key : String) (count : Int64) (args : Args)
  | setFallback (locale : String)
  | setLocale (mode : Mode) (locale : String)

/-- The operation that a call is. -/
def Call.operation : Call → Operation
  | .translate key args => .translate key args
  | .countable key count args => .countable key count args
  | .setFallback locale => .setFallback locale
  | .setLocale mode locale => .setLocale mode locale

/-- The locale that a call switches to. -/
def Call.target? : Call → Option String
  | .setLocale _ locale => some locale
  | _ => none

/-- What can be seen of a session but for its catalogs. -/
structure View where
  /-- The active locale. -/
  locale : String
  /-- The fallback. -/
  fallback : String
  /-- The locale that the preference stands for. -/
  preferred : String

/-- What is seen of a session. -/
def view (s : Session σ) : View where
  locale := s.translator.locale
  fallback := s.translator.fallback
  preferred := s.preference.current

theorem Keeps.view {s t : Session σ} (h : s.Keeps t) : t.view = s.view := by
  unfold Session.view
  rw [h.translator, h.preference]

/-- What is seen of an operation: its outcome, and the session behind it. -/
def observed (r : Outcome × Session σ) : Outcome × View :=
  (r.1, r.2.view)

/-- What a call gives, and what is seen behind it, if the catalog of each locale is what `f` says.
No switch fails, and the fallback is never used. -/
def View.perform (f : String → MessageTree) (call : Call) (v : View) : Outcome × View :=
  match call with
  | .translate key args => (.text (substitute ((resolve key (f v.locale)).textOr key) args), v)
  | .countable key count args =>
    (.text (Choice.choose (substitute ((resolve key (f v.locale)).textOr key) args) count), v)
  | .setFallback locale => (.done, { v with fallback := locale })
  | .setLocale _ locale => (.done, { v with locale := locale, preferred := locale })

/-- What is seen of calls that are made in order. -/
def View.run (f : String → MessageTree) : List Call → View → List (Outcome × View)
  | [], _ => []
  | call :: calls, v => v.perform f call :: View.run f calls (v.perform f call).2

/-! ### Switching to a locale that can be had -/

variable {fetcher : Fetcher σ} {f : String → MessageTree} {s t u : Session σ}
  {locale : String}

/-- `s.Supplies fetcher f locale`: the session has `f locale` as the catalog of the locale, or has
none for it and a source that will give that. -/
inductive Supplies (fetcher : Fetcher σ) (f : String → MessageTree) (s : Session σ)
    (locale : String) : Prop
  | loaded (catalog : s.translator.store.catalog locale = some (f locale))
  | fetchable {remote : Remote} {r : Request} (missing : s.translator.store.has locale = false)
      (source : s.translator.remote = some remote)
      (request : Request.make remote.url remote.param locale = .ok r)
      (serves : fetcher.Serves f)

/-- `s.Switched f locale t`: the session `t` is `s` after a switch to the locale, and has
`f locale` as its catalog. -/
structure Switched (f : String → MessageTree) (s : Session σ) (locale : String)
    (t : Session σ) : Prop where
  view : t.view = { s.view with locale := locale, preferred := locale }
  source : t.translator.remote = s.translator.remote
  catalog : ∀ other, t.translator.store.catalog other =
    if locale = other then some (f locale) else s.translator.store.catalog other

theorem Switched.catalog_self (h : s.Switched f locale t) :
    t.translator.store.catalog locale = some (f locale) := by
  rw [h.catalog, if_pos rfl]

/-- A switch in general is one of these, if the catalog is what `f` says. -/
theorem SwitchedTo.switched (h : s.SwitchedTo locale (f locale) t) : s.Switched f locale t where
  view := by
    unfold Session.view
    rw [h.active, h.preference, h.fallback]
    rfl
  source := h.remote
  catalog := by
    intro other
    split
    next heq => exact heq ▸ h.catalog
    next hne => exact h.others other (Ne.symm hne)

/-- The catalog is there, or the fetcher answers with it. -/
theorem Supplies.catalog_or_answers (h : s.Supplies fetcher f locale) (mode : Mode) :
    s.translator.store.catalog locale = some (f locale) ∨
      s.translator.store.has locale = false ∧
        s.Answers fetcher mode locale (.ok (f locale)) := by
  cases h with
  | loaded hcatalog => exact Or.inl hcatalog
  | @fetchable remote r hmissing hsource hrequest hserves =>
    have hanswer : (s.ask fetcher mode r).1 = .ok (f r.locale) := hserves mode r s.source
    rw [Request.locale_of_make hrequest] at hanswer
    exact Or.inr ⟨hmissing, answers_of_ask hsource hrequest hanswer⟩

/-- Loading a catalog that can be had succeeds: either it is there and nothing changes, or it is
fetched, which switches to its locale. -/
theorem Supplies.load (h : s.Supplies fetcher f locale) (mode : Mode) :
    (s.load fetcher mode locale false).1 = .ok () ∧
      (s.Keeps (s.load fetcher mode locale false).2 ∧
          s.translator.store.catalog locale = some (f locale) ∨
        s.Switched f locale (s.load fetcher mode locale false).2) := by
  rcases h.catalog_or_answers mode with hcatalog | ⟨hmissing, hanswers⟩
  · obtain ⟨hok, hkeeps⟩ := load_of_has (has_of_catalog hcatalog) fetcher mode
    exact ⟨hok, Or.inl ⟨hkeeps, hcatalog⟩⟩
  · obtain ⟨hok, hswitched⟩ := load_of_answers hanswers (Or.inl hmissing)
    exact ⟨hok, Or.inr hswitched.switched⟩

/-- A switch to a locale whose catalog can be had succeeds. -/
theorem Supplies.setLocale (h : s.Supplies fetcher f locale) (mode : Mode) :
    (s.setLocale fetcher mode locale).1 = .ok () ∧
      s.Switched f locale (s.setLocale fetcher mode locale).2 := by
  have hhad := h.catalog_or_answers mode
  have hok : (s.setLocale fetcher mode locale).1 = .ok () := by
    refine setLocale_eq_ok_iff.2 ?_
    rcases hhad with hcatalog | ⟨-, hanswers⟩
    · exact Or.inl (has_of_catalog hcatalog)
    · exact Or.inr ⟨_, hanswers⟩
  obtain ⟨tree, hcase, hswitched⟩ := switchedTo_of_setLocale_eq_ok hok
  -- a catalog that was there is not the one that is fetched, so the cases go together
  have htree : tree = f locale := by
    rcases hhad with hcatalog | ⟨hmissing, hanswers⟩
    · rcases hcase with hold | ⟨hmissing, -⟩
      · exact Option.some.inj (hold.symm.trans hcatalog)
      · exact nomatch hmissing.symm.trans (has_of_catalog hcatalog)
    · rcases hcase with hold | ⟨-, hnew⟩
      · exact nomatch hmissing.symm.trans (has_of_catalog hold)
      · exact Except.ok.inj (hnew.unique hanswers)
  subst htree
  exact ⟨hok, hswitched.switched⟩

/-- A catalog that could be had can be had after any switch: it may be the one that has been loaded
for that. -/
theorem Supplies.of_switched {other : String} (h : s.Supplies fetcher f other)
    (hswitched : s.Switched f locale t) : t.Supplies fetcher f other := by
  by_cases heq : locale = other
  · exact .loaded (heq ▸ hswitched.catalog_self)
  have hcatalog := hswitched.catalog other
  rw [if_neg heq] at hcatalog
  cases h with
  | loaded hloaded => exact .loaded (hcatalog.trans hloaded)
  | fetchable hmissing hsource hrequest hserves =>
    refine .fetchable ?_ (hswitched.source.trans hsource) hrequest hserves
    rw [Store.has_eq_isSome_catalog, hcatalog]
    exact hmissing

/-! ### Runs -/

/-- `s.Ready fetcher f calls`: the active locale has the catalog that `f` says, and so can all the
locales be had that the calls switch to. -/
structure Ready (fetcher : Fetcher σ) (f : String → MessageTree) (calls : List Call)
    (s : Session σ) : Prop where
  active : s.translator.store.catalog s.view.locale = some (f s.view.locale)
  supplies : ∀ call ∈ calls, ∀ locale, call.target? = some locale → s.Supplies fetcher f locale

variable {calls : List Call}

/-- Whether a session is ready does not depend on its fallback. -/
theorem Ready.congr (h : s.Ready fetcher f calls)
    (hstore : t.translator.store = s.translator.store) (hlocale : t.view.locale = s.view.locale)
    (hremote : t.translator.remote = s.translator.remote) : t.Ready fetcher f calls where
  active := by
    rw [hstore, hlocale]
    exact h.active
  supplies := by
    intro call hcall locale htarget
    cases h.supplies call hcall locale htarget with
    | loaded hcatalog => exact .loaded (hstore ▸ hcatalog)
    | fetchable hmissing hsource hrequest hserves =>
      exact .fetchable (hstore ▸ hmissing) (hremote.trans hsource) hrequest hserves

theorem Ready.tail {call : Call} (h : s.Ready fetcher f (call :: calls)) :
    s.Ready fetcher f calls where
  active := h.active
  supplies := fun other hother => h.supplies other (List.mem_cons_of_mem call hother)

theorem Ready.of_switched (h : s.Ready fetcher f calls) (hswitched : s.Switched f locale t) :
    t.Ready fetcher f calls where
  active := by
    rw [hswitched.view]
    exact hswitched.catalog_self
  supplies := fun call hcall other htarget =>
    (h.supplies call hcall other htarget).of_switched hswitched

/-- A session that is ready for a call gives what the machine gives, and is ready for the rest. -/
theorem Ready.perform {call : Call} (h : s.Ready fetcher f (call :: calls)) :
    observed (s.perform fetcher call.operation) = s.view.perform f call ∧
      (s.perform fetcher call.operation).2.Ready fetcher f calls := by
  cases call with
  | translate key args =>
    have htext := Translator.translate_of_catalog h.active key args
    exact ⟨Prod.ext (congrArg Outcome.text htext) rfl, h.tail.congr rfl rfl rfl⟩
  | countable key count args =>
    have htext := Translator.translate_of_catalog h.active key args
    refine ⟨Prod.ext (congrArg Outcome.text ?_) rfl, h.tail.congr rfl rfl rfl⟩
    exact congrArg (Choice.choose · count) htext
  | setFallback locale => exact ⟨rfl, h.tail.congr rfl rfl rfl⟩
  | setLocale mode locale =>
    have hsupplies := h.supplies _ List.mem_cons_self locale rfl
    obtain ⟨hok, hswitched⟩ := hsupplies.setLocale mode
    exact ⟨Prod.ext (congrArg Outcome.ofResult hok) hswitched.view, h.tail.of_switched hswitched⟩

/-- A run from a session that is ready for its calls is seen as the run of the machine. -/
theorem Ready.run (h : s.Ready fetcher f calls) :
    (s.run fetcher (calls.map Call.operation)).map observed = s.view.run f calls := by
  induction calls generalizing s with
  | nil => rfl
  | cons call calls ih =>
    obtain ⟨hfirst, hready⟩ := h.perform
    rw [List.map_cons, Session.run, List.map_cons, View.run, ih hready, ← hfirst]
    rfl

end Session

namespace Builder

open Session

variable {σ : Type} {fetcher : Fetcher σ} {f : String → MessageTree} {b : Builder}

/-- `b.FetchesAll fetcher f`: there are no catalogs to start with, but a source that can be asked
for every locale, and the fetcher serves `f`. -/
structure FetchesAll (b : Builder) (fetcher : Fetcher σ) (f : String → MessageTree) : Prop where
  store : b.store = Store.empty
  request : ∃ url, b.url = some url ∧ ∀ locale, ∃ r, Request.make url b.param locale = .ok r
  serves : fetcher.Serves f

/-- `b.Preloads f locales`: there is no source of catalogs, but the first locale and all of these
have the catalogs that `f` says from the start. -/
structure Preloads (b : Builder) (f : String → MessageTree) (locales : List String) : Prop where
  url : b.url = none
  catalog : ∀ locale ∈ b.preference.current :: locales, b.store.catalog locale = some (f locale)

theorem view_build (b : Builder) (source : σ) :
    (b.build source).view = ⟨b.preference.current, b.fallback, b.preference.current⟩ :=
  rfl

/-- A session that has been built without catalogs can have them all. -/
theorem FetchesAll.supplies_build (h : b.FetchesAll fetcher f) (source : σ) (locale : String) :
    (b.build source).Supplies fetcher f locale := by
  obtain ⟨url, hurl, hrequest⟩ := h.request
  obtain ⟨r, hmake⟩ := hrequest locale
  have hmissing : b.store.has locale = false := by
    rw [h.store]
    rfl
  have hsource : (b.build source).translator.remote = some ⟨url, b.param⟩ := by
    rw [remote_build, hurl, Option.map_some]
  exact .fetchable hmissing hsource hmake h.serves

/-- Installing loads the catalog of the first locale.  Nothing that is seen changes by that. -/
theorem FetchesAll.install (h : b.FetchesAll fetcher f) (mode : Mode) (source : σ)
    (calls : List Call) :
    (b.install fetcher mode source).1 = .ok () ∧
      (b.install fetcher mode source).2.view = (b.build source).view ∧
      (b.install fetcher mode source).2.Ready fetcher f calls := by
  have hsupplies := h.supplies_build source
  obtain ⟨hok, hload⟩ := (hsupplies b.preference.current).load mode
  refine ⟨hok, ?_⟩
  rcases hload with ⟨-, hcatalog⟩ | hswitched
  · -- there are no catalogs, so that the first one is not there
    change b.store.catalog _ = _ at hcatalog
    rw [h.store] at hcatalog
    exact nomatch hcatalog
  · refine ⟨hswitched.view, ?_, fun _ _ locale _ => (hsupplies locale).of_switched hswitched⟩
    have hlocale : (b.install fetcher mode source).2.view.locale = b.preference.current :=
      congrArg View.locale hswitched.view
    rw [hlocale]
    exact hswitched.catalog_self

/-- The builder without a source, and with the catalogs that `f` says of its first locale and of
these. -/
def preload (f : String → MessageTree) (locales : List String) (b : Builder) : Builder :=
  { b with url := none }.messages
    ((b.preference.current :: locales).map fun locale => (locale, f locale))

theorem preloads_preload (f : String → MessageTree) (locales : List String) (b : Builder) :
    (b.preload f locales).Preloads f locales := by
  have hcollects := collects_messages { b with url := none }
    ((b.preference.current :: locales).map fun locale => (locale, f locale))
  refine ⟨hcollects.url, ?_⟩
  intro locale hlocale
  have hfirst : (b.preload f locales).preference = b.preference := hcollects.preference
  rw [hfirst] at hlocale
  refine (hcollects.catalog locale).trans ?_
  rw [Entries.last?_map hlocale]
  rfl

theorem Preloads.keeps_of_starts {locales : List String} (h : b.Preloads f locales)
    {s : Session σ} (hs : b.Starts fetcher s) : ∃ source, (b.build source).Keeps s := by
  cases hs with
  | build source => exact ⟨source, rfl, rfl⟩
  | @install mode source _ => exact ⟨source, (install_of_url_none h.url fetcher mode source).2⟩

theorem Preloads.ready_of_starts {calls : List Call}
    (h : b.Preloads f (calls.filterMap Call.target?)) {s : Session σ} (hs : b.Starts fetcher s) :
    s.Ready fetcher f calls := by
  obtain ⟨source, hkeeps⟩ := h.keeps_of_starts hs
  have hstore : s.translator.store = b.store := congrArg Translator.store hkeeps.translator
  have hlocale : s.view.locale = b.preference.current := congrArg View.locale hkeeps.view
  constructor
  · rw [hstore, hlocale]
    exact h.catalog _ List.mem_cons_self
  · intro call hcall locale htarget
    have hmem := List.mem_filterMap.2 ⟨call, hcall, htarget⟩
    refine .loaded ?_
    rw [hstore]
    exact h.catalog locale (List.mem_cons_of_mem _ hmem)

/-- **Loading on demand is seen as having loaded from the start.**  Let one builder have no catalogs
and a source that serves `f`, and the other no source and the catalogs that `f` says of its first
locale and of all locales that some calls switch to; and let both have the same fallback and the
same preference.  Then the first can be installed, and the two translators have the same locales
and preferences at the start and behind each call, and each call gives the same: what it gives if
the catalog of every locale is what `f` says. -/
theorem onDemand_eq_preloaded {σ τ : Type} (f : String → MessageTree) (fetcher : Fetcher σ)
    (idle : Fetcher τ) (calls : List Call) {lazy eager : Builder}
    (hlazy : lazy.FetchesAll fetcher f)
    (heager : eager.Preloads f (calls.filterMap Call.target?))
    (hpreference : eager.preference = lazy.preference) (hfallback : eager.fallback = lazy.fallback)
    (mode : Mode) (source : σ) (s : Session τ) (hs : eager.Starts idle s) :
    (lazy.install fetcher mode source).1 = .ok () ∧
    (lazy.install fetcher mode source).2.view = s.view ∧
    ((lazy.install fetcher mode source).2.run fetcher (calls.map Call.operation)).map observed =
      (s.run idle (calls.map Call.operation)).map observed ∧
    (s.run idle (calls.map Call.operation)).map observed = s.view.run f calls := by
  obtain ⟨hok, hview, hready⟩ := hlazy.install mode source calls
  have hsame : (lazy.install fetcher mode source).2.view = s.view := by
    obtain ⟨start, hkeeps⟩ := heager.keeps_of_starts hs
    rw [hview, hkeeps.view, view_build, view_build, hpreference, hfallback]
  -- Both runs are those of one view, as both sessions are ready for all calls.
  have heagerRun := (heager.ready_of_starts hs).run
  refine ⟨hok, hsame, ?_, heagerRun⟩
  rw [hready.run, heagerRun, hsame]

/-- A catalog with one text, the name of its locale. -/
def named (locale : String) : MessageTree :=
  .node [("name", .text locale)]

/-- Calls that switch twice, with a fallback for which there is no catalog. -/
def sampleCalls : List Call :=
  [.translate "name" ∅, .setFallback "it", .setLocale .async "fr", .countable "name" 2 ∅,
    .setLocale .blocking "de"]

theorem onDemand_eq_preloaded_sample :
    sample.FetchesAll (Fetcher.constant fun locale => .ok (named locale)) named ∧
    (sample.preload named ["fr", "de"]).Preloads named (sampleCalls.filterMap Call.target?) ∧
    (sample.install (Fetcher.constant fun locale => .ok (named locale)) .async ()).1 = .ok () ∧
    ((sample.install (Fetcher.constant fun locale => .ok (named locale)) .async ()).2.run
        (Fetcher.constant fun locale => .ok (named locale))
        (sampleCalls.map Call.operation)).map observed =
      (((sample.preload named ["fr", "de"]).build true).run Fetcher.unreachable
        (sampleCalls.map Call.operation)).map observed := by
  -- The source can be asked for each locale, as its URL can be read.
  have hparsed : (Url.parse "app:catalogs").isOk = true := by decide +kernel
  have hlazy : sample.FetchesAll (Fetcher.constant fun locale => .ok (named locale)) named := by
    refine ⟨rfl, ⟨"app:catalogs", rfl, fun locale => ?_⟩, fun _ _ _ => rfl⟩
    cases hu : Url.parse "app:catalogs" with
    | ok u => exact ⟨_, Request.make_eq_ok_iff.2 ⟨u, hu, rfl⟩⟩
    | error fault =>
      rw [hu] at hparsed
      exact nomatch hparsed
  have heager := preloads_preload named ["fr", "de"] sample
  obtain ⟨hok, -, hrun, -⟩ := onDemand_eq_preloaded named _ Fetcher.unreachable sampleCalls hlazy
    heager rfl rfl .async () _ (.build true)
  exact ⟨hlazy, heager, hok, hrun⟩

end Builder

end Phrasebook
