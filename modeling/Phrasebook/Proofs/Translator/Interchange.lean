import Phrasebook.Proofs.Translator.Session
import Mathlib.Data.List.Forall2

/-!
# The two modes of waiting

An operation that asks for a catalog waits for it in one of two modes.  The fetcher is told the mode
and may do something else in each, but as long as its answers do not show the mode, nothing else
does.

* `Fetcher.Alike` relates states of a fetcher that cannot be told apart by requests, in whatever
  modes these are made.  `Fetcher.Alike.next` is what one request comes to, and
  `Fetcher.alike_of_step` shows states alike from a relation that each request keeps to.
* `Session.Alike` relates sessions that expose the same, with fetchers in such states.  Each write
  keeps to it, and so do loading and setting the locale, in any two modes: both are made up of these
  writes (`Session.Alike.load`, `Session.Alike.setLocale`).
* `Session.Alike.trace_eq` carries this through runs, and `Builder.modes_interchange` says what it
  comes to for the runs that a builder starts.
-/

namespace Phrasebook

/-! ### Fetchers that do not show the mode -/

namespace Fetcher

variable {σ : Type} {fetcher : Fetcher σ} {a b : σ}

/-- What a fetcher answers to fetches that are made one after another. -/
def answers (fetcher : Fetcher σ) : List Fetch → σ → List (Except LoadError MessageTree)
  | [], _ => []
  | f :: fs, a =>
    (fetcher f.mode f.request a).1.result :: answers fetcher fs (fetcher f.mode f.request a).2

/-- States in which a fetcher answers the same to the same requests, in whatever modes each of them
is made. -/
def Alike (fetcher : Fetcher σ) (a b : σ) : Prop :=
  ∀ fs gs : List Fetch, fs.map Fetch.request = gs.map Fetch.request →
    fetcher.answers fs a = fetcher.answers gs b

theorem Alike.next (h : fetcher.Alike a b) (mode mode' : Mode) (request : Request) :
    (fetcher mode request a).1.result = (fetcher mode' request b).1.result ∧
      fetcher.Alike (fetcher mode request a).2 (fetcher mode' request b).2 := by
  have hcons : ∀ fs gs : List Fetch, fs.map Fetch.request = gs.map Fetch.request →
      fetcher.answers (⟨mode, request⟩ :: fs) a = fetcher.answers (⟨mode', request⟩ :: gs) b :=
    fun fs gs hsame => h _ _ (congrArg (List.cons request) hsame)
  constructor
  · exact (List.cons.inj (hcons [] [] rfl)).1
  · exact fun fs gs hsame => (List.cons.inj (hcons fs gs hsame)).2

/-- States are alike if they are related in a way that each request keeps to, while it gets the same
answer in both. -/
theorem alike_of_step {R : σ → σ → Prop}
    (hstep : ∀ {a b : σ}, R a b → ∀ (mode mode' : Mode) (request : Request),
      (fetcher mode request a).1.result = (fetcher mode' request b).1.result ∧
        R (fetcher mode request a).2 (fetcher mode' request b).2)
    (h : R a b) : fetcher.Alike a b := by
  intro fs gs hsame
  -- The states change from one fetch to the next, and the relation goes with them.
  induction fs generalizing gs a b with
  | nil =>
    rw [List.map_nil, eq_comm, List.map_eq_nil_iff] at hsame
    rw [hsame]
    rfl
  | cons f fs ih =>
    obtain ⟨g, gs, rfl, hrequest, hrest⟩ := List.map_eq_cons_iff.1 hsame.symm
    obtain ⟨hresult, hnext⟩ := hstep h f.mode g.mode f.request
    rw [← hrequest] at hresult hnext
    unfold answers
    rw [← hrequest, hresult, ih hnext gs hrest.symm]

end Fetcher

namespace Session

variable {σ : Type} {fetcher : Fetcher σ} {s t : Session σ}

/-! ### Sessions that expose the same -/

/-- What can be seen of a session: its catalogs and locales, the preference, and what has been asked
for. -/
structure Exposed where
  translator : Translator
  preference : Preference
  /-- The locales and URLs of the fetches, without the modes. -/
  requests : List Request

def exposed (s : Session σ) : Exposed where
  translator := s.translator
  preference := s.preference
  requests := s.fetches.map Fetch.request

/-- Sessions that expose the same, with fetchers that will go on to answer the same. -/
structure Alike (fetcher : Fetcher σ) (s t : Session σ) : Prop where
  translator : s.translator = t.translator
  preference : s.preference = t.preference
  requests : s.fetches.map Fetch.request = t.fetches.map Fetch.request
  source : fetcher.Alike s.source t.source

theorem Alike.exposed_eq (h : s.Alike fetcher t) : s.exposed = t.exposed := by
  unfold exposed
  rw [h.translator, h.preference, h.requests]

/-- The same result twice, with sessions behind it that are alike. -/
inductive Matched (fetcher : Fetcher σ) {α : Type} : α × Session σ → α × Session σ → Prop
  | mk (result : α) {s t : Session σ} (h : s.Alike fetcher t) :
      Matched fetcher (result, s) (result, t)

section Matched

variable {α β : Type} {x y : α × Session σ}

theorem Matched.map (h : Matched fetcher x y) (f : α → β) :
    Matched fetcher (x.map f id) (y.map f id) := by
  obtain ⟨result, h⟩ := h
  exact .mk (f result) h

theorem Matched.alike (h : Matched fetcher x y) : x.2.Alike fetcher y.2 := by
  obtain ⟨_, h⟩ := h
  exact h

theorem Matched.exposed_eq (h : Matched fetcher x y) : x.map id exposed = y.map id exposed := by
  obtain ⟨result, h⟩ := h
  exact congrArg (Prod.mk result) h.exposed_eq

end Matched

/-! ### Writes -/

theorem Alike.note (h : s.Alike fetcher t) (level : Level) (target message : String) :
    (s.note level target message).Alike fetcher (t.note level target message) :=
  ⟨h.translator, h.preference, h.requests, h.source⟩

theorem Alike.setCatalog (h : s.Alike fetcher t) (locale : String) (tree : MessageTree) :
    (s.setCatalog locale tree).Alike fetcher (t.setCatalog locale tree) := by
  have hset := congrArg (fun u : Translator => { u with store := u.store.set locale tree })
    h.translator
  exact ⟨hset, h.preference, h.requests, h.source⟩

theorem Alike.setFallback (h : s.Alike fetcher t) (locale : String) :
    (s.setFallback locale).Alike fetcher (t.setFallback locale) := by
  have hset := congrArg (fun u : Translator => { u with fallback := locale }) h.translator
  exact ⟨hset, h.preference, h.requests, h.source⟩

theorem Alike.activate (h : s.Alike fetcher t) (locale : String) :
    Matched fetcher (s.activate locale) (t.activate locale) := by
  unfold Session.activate
  rw [h.translator]
  split
  · exact .mk _ ⟨rfl, rfl, h.requests, h.source⟩
  · exact .mk _ (h.note _ _ _)

/-- Whether a fetch is needed does not depend on how it would be made. -/
theorem Alike.needsFetch (h : s.Alike fetcher t) (locale : String) (force : Bool) :
    Matched fetcher (s.needsFetch locale force) (t.needsFetch locale force) := by
  unfold Session.needsFetch
  rw [h.translator]
  split
  · exact .mk none (h.note _ _ _)
  · split
    · exact .mk none (h.note _ _ _)
    · exact .mk _ h

/-- The same question gets the same answer in any two modes.  This is the only place where a mode is
used. -/
theorem Alike.ask (h : s.Alike fetcher t) (mode mode' : Mode) (request : Request) :
    Matched fetcher (s.ask fetcher mode request) (t.ask fetcher mode' request) := by
  obtain ⟨hresult, hnext⟩ := h.source.next mode mode' request
  have hrequests : (s.fetches ++ [Fetch.mk mode request]).map Fetch.request =
      (t.fetches ++ [Fetch.mk mode' request]).map Fetch.request := by
    rw [List.map_append, List.map_append, h.requests]
    rfl
  unfold Session.ask
  dsimp only
  rw [hresult]
  exact .mk _ ⟨h.translator, h.preference, hrequests, hnext⟩

/-! ### Operations -/

theorem Alike.load (h : s.Alike fetcher t) (mode mode' : Mode) (locale : String) (force : Bool) :
    Matched fetcher (s.load fetcher mode locale force) (t.load fetcher mode' locale force) := by
  have hneeds := h.needsFetch locale force
  unfold Session.load
  -- Each stage has the same result in both sessions, so both go the same way behind it.
  generalize s.needsFetch locale force = x at hneeds ⊢
  generalize t.needsFetch locale force = y at hneeds ⊢
  obtain ⟨remote, h⟩ := hneeds
  cases remote with
  | none => exact .mk _ h
  | some remote =>
    dsimp only
    cases Request.make remote.url remote.param locale with
    | error e => exact .mk _ h
    | ok request =>
      dsimp only
      have hask := h.ask mode mode' request
      generalize Session.ask fetcher mode request _ = x at hask ⊢
      generalize Session.ask fetcher mode' request _ = y at hask ⊢
      obtain ⟨answer, h⟩ := hask
      cases answer with
      | error e => exact .mk _ h
      | ok tree => exact (h.setCatalog locale tree).activate locale

theorem Alike.setLocale (h : s.Alike fetcher t) (mode mode' : Mode) (locale : String) :
    Matched fetcher (s.setLocale fetcher mode locale) (t.setLocale fetcher mode' locale) := by
  have hload := h.load mode mode' locale false
  unfold Session.setLocale
  generalize s.load fetcher mode locale false = x at hload ⊢
  generalize t.load fetcher mode' locale false = y at hload ⊢
  obtain ⟨result, h⟩ := hload
  cases result with
  | error e => exact .mk _ h
  | ok => exact h.activate locale

/-- Operations that are the same but for the mode in which they wait. -/
inductive Operation.Alike : Operation → Operation → Prop
  | same (op : Operation) : Operation.Alike op op
  | load (mode mode' : Mode) (locale : String) (force : Bool) :
      Operation.Alike (.load mode locale force) (.load mode' locale force)
  | setLocale (mode mode' : Mode) (locale : String) :
      Operation.Alike (.setLocale mode locale) (.setLocale mode' locale)

theorem Alike.perform_self (h : s.Alike fetcher t) (op : Operation) :
    Matched fetcher (s.perform fetcher op) (t.perform fetcher op) := by
  -- Only a load and a change of locale ask the fetcher; the others are writes to what is exposed.
  cases op with
  | translate key args =>
    unfold perform translate
    rw [h.translator]
    exact .mk _ ⟨rfl, h.preference, h.requests, h.source⟩
  | countable key count args =>
    unfold perform translateCountable
    rw [h.translator]
    exact .mk _ ⟨rfl, h.preference, h.requests, h.source⟩
  | setCatalog locale tree =>
    unfold perform
    rw [h.translator]
    exact .mk _ (h.setCatalog locale tree)
  | activate locale => exact (h.activate locale).map Outcome.ofResult
  | setFallback locale => exact .mk _ (h.setFallback locale)
  | load mode locale force => exact (h.load mode mode locale force).map Outcome.ofResult
  | setLocale mode locale => exact (h.setLocale mode mode locale).map Outcome.ofResult
  | writePreference locale => exact .mk _ ⟨h.translator, rfl, h.requests, h.source⟩

theorem Alike.perform (h : s.Alike fetcher t) {op op' : Operation} (hop : op.Alike op') :
    Matched fetcher (s.perform fetcher op) (t.perform fetcher op') := by
  cases hop with
  | same op => exact h.perform_self op
  | load mode mode' locale force => exact (h.load mode mode' locale force).map Outcome.ofResult
  | setLocale mode mode' locale => exact (h.setLocale mode mode' locale).map Outcome.ofResult

/-! ### Runs -/

/-- The outcome of each operation of a run, with what the session behind it exposes. -/
def trace (fetcher : Fetcher σ) (ops : List Operation) (s : Session σ) : List (Outcome × Exposed) :=
  (s.run fetcher ops).map (Prod.map id exposed)

theorem trace_cons (fetcher : Fetcher σ) (op : Operation) (ops : List Operation) (s : Session σ) :
    s.trace fetcher (op :: ops) =
      (s.perform fetcher op).map id exposed :: (s.perform fetcher op).2.trace fetcher ops :=
  rfl

theorem Alike.trace_eq (h : s.Alike fetcher t) {ops ops' : List Operation}
    (hops : List.Forall₂ Operation.Alike ops ops') :
    s.trace fetcher ops = t.trace fetcher ops' := by
  induction hops generalizing s t with
  | nil => rfl
  | cons hop _ ih =>
    have hperform := h.perform hop
    rw [trace_cons, trace_cons, hperform.exposed_eq, ih hperform.alike]

end Session

namespace Builder

open Session

variable {σ : Type} {fetcher : Fetcher σ} {source : σ}

theorem alike_build (h : fetcher.Alike source source) (b : Builder) :
    (b.build source).Alike fetcher (b.build source) :=
  ⟨rfl, rfl, rfl, h⟩

theorem matched_install (h : fetcher.Alike source source) (b : Builder) (mode mode' : Mode) :
    Matched fetcher (b.install fetcher mode source) (b.install fetcher mode' source) :=
  (alike_build h b).load mode mode' _ false

/-- **The modes can be interchanged.**  If the answers of the fetcher do not depend on the modes of
waiting, then two runs whose operations are the same but for these modes have the same outcomes and
expose the same behind each operation.  So do two installations in any modes, with the runs behind
them, and also where the client of the fetcher is made on the way. -/
theorem modes_interchange {σ : Type} (b : Builder) (fetcher : Fetcher σ) (source : σ)
    (h : fetcher.Alike source source) {ops ops' : List Operation}
    (hops : List.Forall₂ Operation.Alike ops ops') (mode mode' : Mode) :
    (b.build source).trace fetcher ops = (b.build source).trace fetcher ops' ∧
    (b.install fetcher mode source).map id exposed =
      (b.install fetcher mode' source).map id exposed ∧
    (b.install fetcher mode source).2.trace fetcher ops =
      (b.install fetcher mode' source).2.trace fetcher ops' ∧
    ∀ (client : Except LoadError σ) (idle : σ),
      (∀ other, b.connect client idle = .ok other → other = source) →
      (b.attempt fetcher mode client idle).map (Except.map exposed) id =
        (b.attempt fetcher mode' client idle).map (Except.map exposed) id := by
  have hinstall := matched_install h b mode mode'
  refine ⟨(alike_build h b).trace_eq hops, hinstall.exposed_eq, hinstall.alike.trace_eq hops, ?_⟩
  intro client idle hclient
  unfold attempt
  cases hconnect : b.connect client idle with
  | error e => rfl
  | ok other =>
    -- From here on the installations are any two that match.
    obtain rfl := hclient other hconnect
    dsimp only
    generalize b.install fetcher mode other = x at hinstall ⊢
    generalize b.install fetcher mode' other = y at hinstall ⊢
    obtain ⟨result, h⟩ := hinstall
    cases result with
    | error e => exact congrArg (Prod.mk _) h.preference
    | ok => exact congrArg₂ (fun x p => (Except.ok x, p)) h.exposed_eq h.preference

/-- A fetcher that writes down the modes in which it is asked, and refuses every other request. -/
def recording : Fetcher (List Mode) := fun mode request modes =>
  let result := if modes.length % 2 = 0 then .ok (.text request.locale)
    else .error (.fetchFailed 503 "Service Unavailable")
  (⟨result, []⟩, mode :: modes)

/-- What it has written down does not show in its answers. -/
theorem alike_recording : recording.Alike [] [] := by
  refine Fetcher.alike_of_step (R := fun a b => a.length = b.length) ?_ rfl
  intro a b hlength mode mode' request
  unfold recording
  dsimp only
  rw [hlength, List.length_cons, List.length_cons, hlength]
  exact ⟨rfl, rfl⟩

/-- Operations of which none holds up its thread. -/
def asyncRun : List Operation :=
  [.setLocale .async "fr", .setLocale .async "fr", .load .async "de" true]

/-- The same operations, of which two wait in the other mode. -/
def mixedRun : List Operation :=
  [.setLocale .blocking "fr", .setLocale .async "fr", .load .blocking "de" true]

/-- Fetches that succeed and fetches that fail, in two runs that differ in three modes. -/
theorem modes_interchange_recording :
    recording.Alike [] [] ∧ List.Forall₂ Operation.Alike asyncRun mixedRun ∧
    ((sample.install recording .async []).2.trace recording asyncRun).map
      (fun x => (x.2.translator.locale, x.2.requests.map Request.locale)) =
        [("de", ["de", "fr"]), ("fr", ["de", "fr", "fr"]), ("fr", ["de", "fr", "fr", "de"])] ∧
    (sample.install recording .async []).2.trace recording asyncRun =
      (sample.install recording .blocking []).2.trace recording mixedRun := by
  have hops : List.Forall₂ Operation.Alike asyncRun mixedRun :=
    .cons (.setLocale _ _ _) (.cons (.same _) (.cons (.load _ _ _ _) .nil))
  obtain ⟨-, -, htrace, -⟩ :=
    modes_interchange sample recording [] alike_recording hops .async .blocking
  exact ⟨alike_recording, hops, by decide +kernel, htrace⟩

end Builder

end Phrasebook
