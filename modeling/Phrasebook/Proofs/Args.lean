import Phrasebook.Proofs.Entries
import Phrasebook.Proofs.Substitution
import Mathlib.Data.Finset.Card

/-!
# First places and last values

Arguments are made in steps: a fresh set of them, and then one insertion after the other.  The place
of a name is where it came first since the last fresh set, and its value is the one that came last,
so the two may come from different steps.

* `Args.Step` is a step, and `Args.inserted` are the pairs that a sequence of steps has inserted
  since it last began with a fresh set.
* `Args.toList_perform` is what one step does, and `Args.toList_after` what a sequence of steps
  leaves, by induction on the sequence.
* `Args.history_kept` says what is listed, found and counted then, and what is put into a text.
-/

namespace Phrasebook

open Phrasebook.Text

namespace Args

/-- A step in the making of arguments.  The first three begin with a fresh set of them. -/
inductive Step where
  | fresh
  | count (n : Int64)
  | collect (pairs : List (String × ArgValue))
  | insert (name : String) (value : ArgValue)
  | add (name : String) (value : ArgValue)
  | extend (pairs : List (String × ArgValue))

/-- The text that a step gives back, and the arguments behind it. -/
def perform (args : Args) : Step → Option String × Args
  | .fresh => (none, empty)
  | .count n => (none, ofCount n)
  | .collect pairs => (none, ofList pairs)
  | .insert name value => args.exchange name value
  | .add name value => (none, args.insert name value)
  | .extend pairs => (none, args.extend pairs)

/-- The arguments behind a sequence of steps, from no arguments on. -/
def after (steps : List Step) : Args :=
  steps.foldl (fun args step => (args.perform step).2) empty

/-- The pairs with their values as texts. -/
def rendered (pairs : List (String × ArgValue)) : Entries String :=
  pairs.map fun pair => (pair.1, pair.2.render)

namespace Step

/-- The step begins with a fresh set of arguments. -/
def isFresh : Step → Bool
  | .fresh | .count _ | .collect _ => true
  | .insert _ _ | .add _ _ | .extend _ => false

/-- The names that a step inserts with their texts, in order. -/
def pairs : Step → Entries String
  | .fresh => []
  | .count n => rendered [(countName, .integer n.toInt)]
  | .collect pairs | .extend pairs => rendered pairs
  | .insert name value | .add name value => rendered [(name, value)]

end Step

/-- The steps from the last one with a fresh set on, and all of them if there is none. -/
def recent : List Step → List Step
  | [] => []
  | step :: rest => if rest.any Step.isFresh then recent rest else step :: rest

/-- The pairs that have been inserted since the last fresh set, in order. -/
def inserted (steps : List Step) : Entries String :=
  (recent steps).flatMap Step.pairs

theorem recent_of_not_any {steps : List Step} (h : ¬ steps.any Step.isFresh = true) :
    recent steps = steps := by
  cases steps with
  | nil => rfl
  | cons step rest =>
    rw [List.any_cons, Bool.or_eq_true, not_or] at h
    exact if_neg h.2

/-- A step puts its pairs into what was there, or into nothing if it begins with a fresh set. -/
theorem toList_perform (args : Args) (step : Step) :
    (args.perform step).2.toList =
      Entries.putAll (if step.isFresh then [] else args.toList) step.pairs := by
  cases step with
  | fresh | count => rfl
  | collect pairs => exact toList_extend empty pairs
  | insert name value =>
    show (args.exchange name value).2.toList = _
    rw [exchange_eq]
    rfl
  | add => rfl
  | extend pairs => exact toList_extend args pairs

theorem toList_foldl_perform (args : Args) (steps : List Step) :
    (steps.foldl (fun args step => (args.perform step).2) args).toList =
      Entries.putAll (if steps.any Step.isFresh then [] else args.toList) (inserted steps) := by
  induction steps generalizing args with
  | nil => rfl
  | cons step rest ih =>
    have hrecent : recent (step :: rest) =
        if rest.any Step.isFresh then recent rest else step :: rest := rfl
    rw [List.foldl_cons, ih, inserted, inserted, hrecent, List.any_cons]
    cases hrest : rest.any Step.isFresh with
    | true =>
      -- what this step did is lost in the fresh set that comes behind it
      rw [Bool.or_true]
      rfl
    | false =>
      have hall : recent rest = rest := recent_of_not_any (Bool.eq_false_iff.1 hrest)
      rw [hall, Bool.or_false, if_neg Bool.false_ne_true, if_neg Bool.false_ne_true,
        List.flatMap_cons, Entries.putAll_append, toList_perform]

theorem toList_after (steps : List Step) :
    (after steps).toList = Entries.ofPairs (inserted steps) := by
  have hempty : empty.toList = [] := rfl
  rw [after, toList_foldl_perform, hempty, ite_self]
  rfl

theorem get?_after (steps : List Step) (name : String) :
    (after steps).get? name = Entries.last? name (inserted steps) := by
  show Entries.find? name (after steps).toList = _
  rw [toList_after, Entries.find?_ofPairs]

/-- **First places and last values.**  If `xs` are the pairs that a sequence of steps has inserted
since the last fresh set, then each name of `xs` is listed once, at its first place and with its
last value.  This list says what is found, counted, given back and put into a text; and to collect
pairs is to collect the first of them and to insert the others. -/
theorem history_kept (steps : List Step) :
    (after steps).toList = Entries.collapsed (inserted steps) ∧
    (after steps).toList.map Prod.fst = (Entries.keys (inserted steps)).eraseDups ∧
    (∀ name text, (name, text) ∈ (after steps).toList ↔
      Entries.last? name (inserted steps) = some text) ∧
    (∀ name, (after steps).get? name = Entries.last? name (inserted steps)) ∧
    (after steps).size = (Entries.keys (inserted steps)).toFinset.card ∧
    (∀ name value, ((after steps).perform (.insert name value)).1 =
      Entries.last? name (inserted steps)) ∧
    (∀ text, (substitute text (after steps)).toList =
      (Entries.collapsed (inserted steps)).foldl
        (fun acc pair => replaceAll (placeholder pair.1.toList) pair.2.toList acc) text.toList) ∧
    ∀ pairs rest : List (String × ArgValue),
      (after [.collect (pairs ++ rest)]) = after [.collect pairs, .extend rest] := by
  have hlist := toList_after steps
  have hkeys : (after steps).toList.map Prod.fst = (Entries.keys (inserted steps)).eraseDups := by
    rw [hlist]
    exact Entries.keys_ofPairs _
  refine ⟨hlist.trans (Entries.ofPairs_eq_collapsed _), hkeys, fun name text => ?_,
    get?_after steps, ?_, fun name value => ?_, fun text => ?_, fun pairs rest => ?_⟩
  · rw [← get?_after]
    exact (Entries.find?_eq_some_iff (nodup_toList _)).symm
  · have hnodup : ((after steps).toList.map Prod.fst).Nodup := nodup_toList _
    -- No name is listed twice, so the list is as long as the set of its names is large.
    have hmem : ((after steps).toList.map Prod.fst).toFinset =
        (Entries.keys (inserted steps)).toFinset := by
      ext name
      rw [hkeys, List.mem_toFinset, List.mem_toFinset, List.mem_eraseDups]
    rw [← hmem, List.toFinset_card_of_nodup hnodup, List.length_map]
    rfl
  · exact (congrArg Prod.fst (exchange_eq _ name value)).trans (get?_after steps name)
  · rw [toList_substitute, hlist, Entries.ofPairs_eq_collapsed]
    rfl
  · exact List.foldl_append

/-- The place of the name comes from the second step and its value from the last; what the first
step did is lost in the fresh set. -/
example : (after [.insert "c" (.text "0"), .collect [("b", .text "2"), ("a", .text "one")],
    .add "b" (.text "two")]).toList = [("b", "two"), ("a", "one")] := by decide

end Args

end Phrasebook
