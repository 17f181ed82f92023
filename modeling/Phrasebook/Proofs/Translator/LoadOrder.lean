import Phrasebook.Proofs.Translator.Switching

/-!
# Loads in any order

A load asks for a catalog only if it is missing, and the tree that it stores does not depend on
what else is there.  So the catalogs behind a sequence of loads are the same for each order of the
loads, as long as the fetcher's answers do not depend on the order either.  The active locale is
another matter: each load that gets a catalog moves it.

* `Fetcher.Follows` says that the answers are a function of the request, and `Remote.supply` is the
  tree that there is for a locale then.
* `Session.translator_load`: what a load does to a translator is `Translator.gain`, whether it
  succeeds or fails.
* `Translator.catalog_foldl_gain` and `Translator.locale_foldl_gain` say what a sequence of gains
  leaves, in catalogs and as the active locale.
* `Session.loadAll_perm` puts the two together.
-/

namespace Phrasebook

/-- The fetcher, waiting in this mode, answers each request as the function says, in any state. -/
def Fetcher.Follows {σ : Type} (fetcher : Fetcher σ) (mode : Mode)
    (answer : Request → Except LoadError MessageTree) : Prop :=
  ∀ request state, (fetcher mode request state).1.result = answer request

/-- The tree that there is for a locale at this source, if any. -/
def Remote.supply (remote : Remote) (answer : Request → Except LoadError MessageTree)
    (locale : String) : Option MessageTree :=
  match Request.make remote.url remote.param locale with
  | .error _ => none
  | .ok request => (answer request).toOption

/-! ### Gains -/

namespace Translator

variable {supply : String → Option MessageTree} {t : Translator} {locale other : String}

/-- The locale has no catalog, and there is one to be had. -/
def Gains (t : Translator) (supply : String → Option MessageTree) (locale : String) : Prop :=
  t.store.has locale = false ∧ (supply locale).isSome = true

/-- The translator after a load: if the catalog is missing and can be had, then it is stored and its
locale is active, and otherwise nothing has changed. -/
def gain (supply : String → Option MessageTree) (t : Translator) (locale : String) : Translator :=
  if t.store.has locale then t
  else
    match supply locale with
    | none => t
    | some tree => { t with store := t.store.set locale tree, locale := locale }

theorem gain_of_has (h : t.store.has locale = true) : t.gain supply locale = t :=
  if_pos h

theorem gain_of_supply_eq_none (h : supply locale = none) : t.gain supply locale = t := by
  unfold gain
  rw [h]
  exact ite_self t

theorem gain_of_gains {tree : MessageTree} (hmissing : t.store.has locale = false)
    (hsupply : supply locale = some tree) :
    t.gain supply locale = { t with store := t.store.set locale tree, locale := locale } := by
  unfold gain
  rw [hsupply, if_neg (Bool.eq_false_iff.1 hmissing)]

/-- Either there is something to gain, or nothing changes. -/
theorem gain_cases (t : Translator) (supply : String → Option MessageTree) (locale : String) :
    (¬ t.Gains supply locale ∧ t.gain supply locale = t) ∨
    ∃ tree, t.Gains supply locale ∧ supply locale = some tree ∧
      t.gain supply locale = { t with store := t.store.set locale tree, locale := locale } := by
  cases hhas : t.store.has locale with
  | true => exact Or.inl ⟨fun h => (nomatch hhas.symm.trans h.1), gain_of_has hhas⟩
  | false =>
    cases hsupply : supply locale with
    | none =>
      refine Or.inl ⟨fun h => ?_, gain_of_supply_eq_none hsupply⟩
      have hsome := h.2
      rw [hsupply] at hsome
      exact nomatch hsome
    | some tree =>
      have hgains : t.Gains supply locale := ⟨hhas, by rw [hsupply]; rfl⟩
      exact Or.inr ⟨tree, hgains, rfl, gain_of_gains hhas hsupply⟩

theorem remote_gain (t : Translator) (supply : String → Option MessageTree) (locale : String) :
    (t.gain supply locale).remote = t.remote := by
  obtain ⟨-, hgain⟩ | ⟨tree, -, -, hgain⟩ := gain_cases t supply locale <;> rw [hgain]

/-- A gain fills in the catalog of its own locale if it is missing, and changes no other. -/
theorem catalog_gain (t : Translator) (supply : String → Option MessageTree)
    (locale other : String) :
    (t.gain supply locale).store.catalog other =
      if other = locale then (t.store.catalog other).or (supply other)
      else t.store.catalog other := by
  -- Nothing is gained if there is a catalog already, or if there is no tree for the locale.
  cases hcatalog : t.store.catalog locale with
  | some tree =>
    have hhas : t.store.has locale = true := by
      rw [Store.has_eq_isSome_catalog, hcatalog]
      rfl
    rw [gain_of_has hhas]
    split
    · rename_i heq
      rw [heq, hcatalog]
      rfl
    · rfl
  | none =>
    have hmissing : t.store.has locale = false := by
      rw [Store.has_eq_isSome_catalog, hcatalog]
      rfl
    cases hsupply : supply locale with
    | none =>
      rw [gain_of_supply_eq_none hsupply]
      split
      · rename_i heq
        rw [heq, hsupply, Option.or_none]
      · rfl
    | some tree =>
      rw [gain_of_gains hmissing hsupply]
      refine (Store.catalog_set t.store locale other tree).trans ?_
      by_cases heq : other = locale
      · rw [if_pos heq.symm, if_pos heq, heq, hcatalog, hsupply]
        rfl
      · rw [if_neg (Ne.symm heq), if_neg heq]

/-- After a load there is nothing to gain for its own locale, and as much as before for all
others. -/
theorem gains_gain_iff :
    (t.gain supply locale).Gains supply other ↔ other ≠ locale ∧ t.Gains supply other := by
  have hhas := congrArg Option.isSome (catalog_gain t supply locale other)
  unfold Gains
  rw [Store.has_eq_isSome_catalog, hhas]
  by_cases heq : other = locale
  · rw [if_pos heq]
    simp [heq]
  · rw [if_neg heq, ← Store.has_eq_isSome_catalog]
    simp [heq]

/-- A sequence of loads fills in the catalogs of the locales that occur in it. -/
theorem catalog_foldl_gain (t : Translator) (supply : String → Option MessageTree)
    (locales : List String) (locale : String) :
    (locales.foldl (gain supply) t).store.catalog locale =
      if locale ∈ locales then (t.store.catalog locale).or (supply locale)
      else t.store.catalog locale := by
  induction locales generalizing t with
  | nil => rfl
  | cons head rest ih =>
    rw [List.foldl_cons, ih, catalog_gain]
    by_cases hhead : locale = head
    · -- a second load of the locale has nothing to fill in
      rw [if_pos hhead, Option.or_assoc, Option.or_self, ite_self,
        if_pos (List.mem_cons.2 (Or.inl hhead))]
    · rw [if_neg hhead]
      simp only [List.mem_cons, hhead, false_or]

/-- Of the locales of the sequence that gain a catalog, this one has its first turn last. -/
structure LastGained (t : Translator) (supply : String → Option MessageTree)
    (locales : List String) (last : String) : Prop where
  mem : last ∈ locales
  gains : t.Gains supply last
  latest : ∀ locale ∈ locales, t.Gains supply locale → locales.idxOf locale ≤ locales.idxOf last

/-- There is at most one. -/
theorem LastGained.unique {locales : List String} {last last' : String}
    (h : t.LastGained supply locales last) (h' : t.LastGained supply locales last') :
    last = last' :=
  (List.idxOf_inj h.mem).1 (le_antisymm (h'.latest last h.mem h.gains)
    (h.latest last' h'.mem h'.gains))

/-- What gains a catalog last in the rest, behind a load of the head, does so in the whole. -/
theorem LastGained.cons {head last : String} {rest : List String}
    (h : (t.gain supply head).LastGained supply rest last) :
    t.LastGained supply (head :: rest) last := by
  obtain ⟨hne, hgains⟩ := gains_gain_iff.1 h.gains
  refine ⟨List.mem_cons_of_mem _ h.mem, hgains, fun locale hlocale hgains' => ?_⟩
  by_cases hhead : locale = head
  · rw [hhead, List.idxOf_cons_self]
    exact Nat.zero_le _
  · have hmem := List.mem_of_ne_of_mem hhead hlocale
    rw [List.idxOf_cons_ne rest (Ne.symm hhead), List.idxOf_cons_ne rest hne.symm]
    exact Nat.succ_le_succ (h.latest locale hmem (gains_gain_iff.2 ⟨hhead, hgains'⟩))

/-- The active locale behind a sequence of loads stays if there is nothing to gain, and otherwise it
is the one that is the last to gain a catalog. -/
theorem locale_foldl_gain (t : Translator) (supply : String → Option MessageTree)
    (locales : List String) :
    ((∀ locale ∈ locales, ¬ t.Gains supply locale) →
      (locales.foldl (gain supply) t).locale = t.locale) ∧
    ((∃ locale ∈ locales, t.Gains supply locale) →
      t.LastGained supply locales (locales.foldl (gain supply) t).locale) := by
  induction locales generalizing t with
  | nil => exact ⟨fun _ => rfl, fun ⟨_, hmem, _⟩ => (nomatch hmem)⟩
  | cons head rest ih =>
    rw [List.foldl_cons]
    obtain ⟨hkept, hmoved⟩ := ih (t.gain supply head)
    by_cases hrest : ∃ locale ∈ rest, (t.gain supply head).Gains supply locale
    · have hlast := (hmoved hrest).cons
      exact ⟨fun hnone => absurd hlast.gains (hnone _ hlast.mem), fun _ => hlast⟩
    -- with nothing to gain behind the head, it is the load of the head that decides
    have hlocale := hkept fun locale hmem hgains => hrest ⟨locale, hmem, hgains⟩
    have honly : ∀ locale ∈ head :: rest, t.Gains supply locale → locale = head := by
      intro locale hlocale hgains
      by_contra hne
      exact hrest ⟨locale, List.mem_of_ne_of_mem hne hlocale, gains_gain_iff.2 ⟨hne, hgains⟩⟩
    rw [hlocale]
    obtain ⟨hnot, hgain⟩ | ⟨tree, hgains, -, hgain⟩ := gain_cases t supply head
    · refine ⟨fun _ => by rw [hgain], fun ⟨locale, hmem, hgains⟩ => ?_⟩
      exact absurd (honly locale hmem hgains ▸ hgains) hnot
    · refine ⟨fun hnone => absurd hgains (hnone head List.mem_cons_self), fun _ => ?_⟩
      rw [hgain]
      refine ⟨List.mem_cons_self, hgains, fun locale hmem hgains' => ?_⟩
      rw [honly locale hmem hgains']

end Translator

/-! ### Loads -/

namespace Session

variable {σ : Type} {fetcher : Fetcher σ} {mode : Mode} {s : Session σ} {remote : Remote}
  {answer : Request → Except LoadError MessageTree} {locale : String}

/-- What a load does to the translator is a gain, whether the load succeeds or fails. -/
theorem translator_load (hremote : s.translator.remote = some remote)
    (hfollows : fetcher.Follows mode answer) (locale : String) :
    (s.load fetcher mode locale false).2.translator =
      s.translator.gain (remote.supply answer) locale := by
  have hload := loading_load fetcher mode locale false s
  generalize (s.load fetcher mode locale false).1 = result at hload
  generalize (s.load fetcher mode locale false).2 = t at hload ⊢
  -- A load has four outcomes, and what was answered tells whether there is a tree to gain.
  cases hload with
  | skipped guard keeps _ _ =>
    have hhas := (guard.resolve_left (by simp [hremote])).1
    rw [keeps.translator, Translator.gain_of_has hhas]
  | unaddressed wants request =>
    obtain rfl := Option.some.inj (hremote.symm.trans wants.remote)
    have hsupply : remote.supply answer locale = none := by
      simp only [Remote.supply, request]
    rw [Translator.gain_of_supply_eq_none hsupply]
  | @refused _ r e wants request refusal =>
    obtain rfl := Option.some.inj (hremote.symm.trans wants.remote)
    have hanswer : answer r = .error e := (hfollows r s.source).symm.trans refusal
    have hsupply : remote.supply answer locale = none := by
      simp only [Remote.supply, request, hanswer]
      rfl
    rw [Translator.gain_of_supply_eq_none hsupply]
    rfl
  | @fetched _ r tree _ wants request reply active =>
    obtain rfl := Option.some.inj (hremote.symm.trans wants.remote)
    have hanswer : answer r = .ok tree := (hfollows r s.source).symm.trans reply
    have hsupply : remote.supply answer locale = some tree := by
      simp only [Remote.supply, request, hanswer]
      rfl
    have hmissing := wants.needed.resolve_right Bool.false_ne_true
    rw [Translator.gain_of_gains hmissing hsupply, active.translator]
    rfl

/-- Loads one catalog after the other where it is missing, whether or not a load fails. -/
def loadAll (fetcher : Fetcher σ) (loads : List (Mode × String)) (s : Session σ) : Session σ :=
  loads.foldl (fun s load => (s.load fetcher load.1 load.2 false).2) s

/-- A sequence of loads is a sequence of gains. -/
theorem translator_loadAll {loads : List (Mode × String)}
    (hremote : s.translator.remote = some remote)
    (hfollows : ∀ load ∈ loads, fetcher.Follows load.1 answer) :
    (s.loadAll fetcher loads).translator =
      (loads.map Prod.snd).foldl (Translator.gain (remote.supply answer)) s.translator := by
  induction loads generalizing s with
  | nil => rfl
  | cons load loads ih =>
    have hload := translator_load hremote (hfollows load List.mem_cons_self) load.2
    have hremote' : (s.load fetcher load.1 load.2 false).2.translator.remote = some remote := by
      rw [hload, Translator.remote_gain, hremote]
    rw [List.map_cons, List.foldl_cons, ← hload]
    exact ih hremote' fun l hl => hfollows l (List.mem_cons_of_mem _ hl)

/-- **Loads in any order.**  If the answers of the fetcher are a function of the request, then loads
that are not forced leave the same catalogs in any order: those that were there, and for each other
locale of the sequence the tree that there is at the source.  The active locale is, of the locales
whose catalogs are fetched, the one with its first turn last. -/
theorem loadAll_perm {σ : Type} (fetcher : Fetcher σ)
    (answer : Request → Except LoadError MessageTree) (s : Session σ) (remote : Remote)
    (loads loads' : List (Mode × String)) (hremote : s.translator.remote = some remote)
    (hfollows : ∀ load ∈ loads, fetcher.Follows load.1 answer) (hperm : loads.Perm loads') :
    (s.loadAll fetcher loads).translator.store = (s.loadAll fetcher loads').translator.store ∧
    (∀ locale, (s.loadAll fetcher loads).translator.store.catalog locale =
      if locale ∈ loads.map Prod.snd then
        (s.translator.store.catalog locale).or (remote.supply answer locale)
      else s.translator.store.catalog locale) ∧
    ((∀ locale ∈ loads.map Prod.snd, ¬ s.translator.Gains (remote.supply answer) locale) →
      (s.loadAll fetcher loads).translator.locale = s.translator.locale) ∧
    ((∃ locale ∈ loads.map Prod.snd, s.translator.Gains (remote.supply answer) locale) →
      s.translator.LastGained (remote.supply answer) (loads.map Prod.snd)
        (s.loadAll fetcher loads).translator.locale) := by
  have hfollows' : ∀ load ∈ loads', fetcher.Follows load.1 answer := fun load hmem =>
    hfollows load (hperm.mem_iff.2 hmem)
  rw [translator_loadAll hremote hfollows, translator_loadAll hremote hfollows']
  -- The locales of both sequences are the same, and a catalog depends on nothing else.
  refine ⟨Store.ext_catalog fun locale => ?_, Translator.catalog_foldl_gain _ _ _,
    Translator.locale_foldl_gain _ _ _⟩
  have hmem : locale ∈ loads.map Prod.snd ↔ locale ∈ loads'.map Prod.snd :=
    (hperm.map Prod.snd).mem_iff
  simp only [Translator.catalog_foldl_gain, hmem]

/-- What `echo` answers. -/
def echoed (request : Request) : Except LoadError MessageTree :=
  .ok (.text request.locale)

/-- At the source of the sample builder, `echo` has a tree for each locale. -/
theorem supply_echoed (locale : String) :
    Remote.supply ⟨"app:catalogs", defaultParam⟩ echoed locale = some (.text locale) := by
  have hparse : (Url.parse "app:catalogs").isOk = true := by decide +kernel
  unfold Remote.supply Request.make
  cases hurl : Url.parse "app:catalogs" with
  | ok url => rfl
  | error fault =>
    rw [hurl] at hparse
    exact nomatch hparse

/-- A session with one catalog. -/
def stocked : Session Unit :=
  (Builder.sample.catalog "es" (.text "Sí")).build ()

theorem gains_stocked (locale : String) (h : locale ≠ "es") :
    stocked.translator.Gains (Remote.supply ⟨"app:catalogs", defaultParam⟩ echoed) locale := by
  refine ⟨?_, by rw [supply_echoed]; rfl⟩
  have hcatalog := Store.catalog_set Store.empty "es" locale (.text "Sí")
  rw [if_neg h.symm] at hcatalog
  exact congrArg Option.isSome hcatalog

/-- Two locales that are loaded in both orders, and one that is there.  The second load of the
first locale does not count, nor does that of the one that is there. -/
theorem loadAll_perm_sample :
    (stocked.loadAll echo
        [(.async, "fr"), (.blocking, "de"), (.async, "fr"), (.async, "es")]).translator.store =
      (stocked.loadAll echo
        [(.async, "es"), (.blocking, "de"), (.async, "fr"), (.async, "fr")]).translator.store ∧
    (stocked.loadAll echo [(.async, "fr"), (.blocking, "de"), (.async, "fr"),
      (.async, "es")]).translator.store.catalog "fr" = some (.text "fr") ∧
    (stocked.loadAll echo [(.async, "fr"), (.blocking, "de"), (.async, "fr"),
      (.async, "es")]).translator.locale = "de" ∧
    (stocked.loadAll echo [(.async, "es"), (.blocking, "de"), (.async, "fr"),
      (.async, "fr")]).translator.locale = "fr" := by
  have hperm : List.Perm [(Mode.async, "fr"), (.blocking, "de"), (.async, "fr"), (.async, "es")]
      [(.async, "es"), (.blocking, "de"), (.async, "fr"), (.async, "fr")] := by decide
  -- The first two locales have trees at the source, and the third has its catalog already.
  have hfr := gains_stocked "fr" (by decide)
  have hde := gains_stocked "de" (by decide)
  have hes : ¬ stocked.translator.Gains (Remote.supply ⟨"app:catalogs", defaultParam⟩ echoed)
      "es" := fun h => nomatch h.1
  obtain ⟨hstore, hcatalog, -, hlast⟩ := loadAll_perm echo echoed stocked
    ⟨"app:catalogs", defaultParam⟩ _ _ rfl (fun _ _ _ _ => rfl) hperm
  obtain ⟨-, -, -, hlast'⟩ := loadAll_perm echo echoed stocked
    ⟨"app:catalogs", defaultParam⟩ _ _ rfl (fun _ _ _ _ => rfl) hperm.symm
  refine ⟨hstore, (hcatalog "fr").trans ?_, ?_, ?_⟩
  · rw [supply_echoed]
    rfl
  · refine (hlast ⟨"fr", by decide, hfr⟩).unique ⟨by decide, hde, fun locale hmem hgains => ?_⟩
    obtain rfl | rfl | rfl : locale = "fr" ∨ locale = "de" ∨ locale = "es" := by
      simpa [or_left_comm] using hmem
    · decide
    · decide
    · exact absurd hgains hes
  · refine (hlast' ⟨"fr", by decide, hfr⟩).unique ⟨by decide, hfr, fun locale hmem hgains => ?_⟩
    obtain rfl | rfl | rfl : locale = "es" ∨ locale = "de" ∨ locale = "fr" := by
      simpa using hmem
    · exact absurd hgains hes
    · decide
    · decide

end Session

end Phrasebook
