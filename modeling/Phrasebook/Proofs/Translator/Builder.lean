import Phrasebook.Proofs.Entries
import Phrasebook.Proofs.Translator.Session

/-!
# What builders collect

A builder is given catalogs one after the other.  The last one that is given for a locale counts,
and its settings are independent of the catalogs.

* `Builder.Collects` says what has been given to a builder, and `Builder.collects_messages` that
  all catalogs of a list are.
* `Session.load_of_remote_none` and `Builder.install_of_url_none`: without a source of catalogs
  loading and installing succeed and change nothing.
* `Session.setLocale_of_remote_none`: so a change of locale is an activation.
-/

namespace Phrasebook

namespace Builder

variable {b c d : Builder} {given : List (String × MessageTree)}

/-- `b.Collects given c`: the builder `c` is `b` after these catalogs have been given to it. -/
structure Collects (b : Builder) (given : List (String × MessageTree)) (c : Builder) : Prop where
  catalog : ∀ locale,
    c.store.catalog locale = (Entries.last? locale given).or (b.store.catalog locale)
  fallback : c.fallback = b.fallback
  url : c.url = b.url
  preference : c.preference = b.preference

theorem Collects.refl (b : Builder) : b.Collects [] b :=
  ⟨fun _ => rfl, rfl, rfl, rfl⟩

/-- What is given first counts less than what is given then. -/
theorem Collects.cons {locale : String} {tree : MessageTree}
    (h : (b.catalog locale tree).Collects given c) : b.Collects ((locale, tree) :: given) c where
  catalog := by
    intro other
    have hset : (b.catalog locale tree).store.catalog other =
        (if locale = other then some tree else none).or (b.store.catalog other) := by
      refine (Store.catalog_set b.store locale other tree).trans ?_
      split <;> rfl
    rw [h.catalog, hset, Entries.last?_cons, Option.or_assoc]
  fallback := h.fallback
  url := h.url
  preference := h.preference

theorem collects_messages (b : Builder) (given : List (String × MessageTree)) :
    b.Collects given (b.messages given) := by
  induction given generalizing b with
  | nil => exact .refl b
  | cons pair given ih => exact .cons (ih (b.catalog pair.1 pair.2))

end Builder

/-! ### Without a source of catalogs -/

namespace Session

variable {σ : Type} {s : Session σ}

theorem load_of_remote_none (h : s.translator.remote = none) (fetcher : Fetcher σ) (mode : Mode)
    (locale : String) (force : Bool) :
    (s.load fetcher mode locale force).1 = .ok () ∧
      s.Keeps (s.load fetcher mode locale force).2 :=
  load_of_not_wants (fun _ hwants => nomatch hwants.remote.symm.trans h) fetcher mode

/-- Without a source, a change of locale is an activation behind a load that keeps everything. -/
theorem setLocale_of_remote_none (h : s.translator.remote = none) (fetcher : Fetcher σ)
    (mode : Mode) (locale : String) :
    ∃ t, s.Keeps t ∧ s.setLocale fetcher mode locale = t.activate locale := by
  obtain ⟨hok, hkeeps⟩ := load_of_remote_none h fetcher mode locale false
  refine ⟨_, hkeeps, ?_⟩
  rw [setLocale_eq, hok]

end Session

namespace Builder

/-- Without a source, installing leaves what building gives. -/
theorem install_of_url_none {σ : Type} {b : Builder} (h : b.url = none) (fetcher : Fetcher σ)
    (mode : Mode) (source : σ) :
    (b.install fetcher mode source).1 = .ok () ∧
      (b.build source).Keeps (b.install fetcher mode source).2 := by
  have hnone : (b.build source).translator.remote = none := by
    rw [remote_build, h, Option.map_none]
  exact Session.load_of_remote_none hnone fetcher mode b.preference.current false

end Builder

end Phrasebook
