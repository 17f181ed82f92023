import Phrasebook.Args
import Mathlib.Data.List.Induction
import Mathlib.Data.List.Nodup

/-!
# Entries made from pairs

While no key stands twice, the order of entries does not matter for what is found, and collecting
pairs one after the other gives them back as they are.  If a key stands twice, then it keeps the
place where it came first and has the value that came last.

* `Entries.find?_eq_some_iff`: what is found under a key is what stands beside it, and so
  `Entries.find?_eq_of_perm`: two orders of the same entries have the same value under every key.
* `Entries.ofPairs_eq_self`: pairs with different keys are the entries that they make, and
  `Args.toList_ofTexts`: arguments are listed as they were given.
* `Entries.find?_ofPairs` and `Entries.keys_ofPairs`: the values and the order of the keys that any
  pairs make, and `Args.binds_ofTexts`: those of arguments.  `Entries.ofPairs_eq_collapsed` is both
  in one equation.
* `Entries.rel_of_find?` and `Entries.rel_of_last?`: where the entries of two lists go in step, so
  do the values under a key.
-/

namespace Phrasebook

namespace Entries

variable {β : Type} {entries : Entries β}

/-- What is found under a key stands beside it. -/
theorem mem_of_find?_eq_some {key : String} {v : β} (h : find? key entries = some v) :
    (key, v) ∈ entries := by
  induction entries with
  | nil => exact nomatch h
  | cons entry rest ih =>
    obtain ⟨k, w⟩ := entry
    rw [find?_cons] at h
    split_ifs at h with hk
    · obtain rfl := Option.some.inj h
      exact hk ▸ List.mem_cons_self
    · exact List.mem_cons_of_mem _ (ih h)

/-- While no key stands twice, what stands beside a key is found under it. -/
theorem find?_eq_some_iff (h : (keys entries).Nodup) {key : String} {v : β} :
    find? key entries = some v ↔ (key, v) ∈ entries := by
  refine ⟨mem_of_find?_eq_some, fun hmem => ?_⟩
  induction entries with
  | nil => exact absurd hmem List.not_mem_nil
  | cons entry rest ih =>
    obtain ⟨k, w⟩ := entry
    have hnodup := List.nodup_cons.1 h
    rw [find?_cons]
    rcases List.mem_cons.1 hmem with heq | hmem
    · obtain ⟨rfl, rfl⟩ := Prod.mk.inj heq
      exact if_pos rfl
    · have hk : k ≠ key := by
        rintro rfl
        exact hnodup.1 (List.mem_map.2 ⟨(k, v), hmem, rfl⟩)
      rw [if_neg hk]
      exact ih hnodup.2 hmem

/-- What stands under a key passes a test of keys as a whole or not at all. -/
theorem filter_filter_key (p : String → Bool) (key : String) (entries : Entries β) :
    (entries.filter fun entry => p entry.1).filter (fun entry => entry.1 = key) =
      if p key then entries.filter fun entry => entry.1 = key else [] := by
  rw [List.filter_filter]
  split_ifs with hp
  · refine List.filter_congr fun entry _ => ?_
    by_cases heq : entry.1 = key
    · simp [heq, hp]
    · simp [heq]
  · rw [List.filter_eq_nil_iff]
    intro entry _ hentry
    simp only [Bool.and_eq_true, decide_eq_true_eq] at hentry
    exact hp (hentry.1 ▸ hentry.2)

/-- While no key stands twice, one entry stands under a key. -/
theorem filter_key_eq (h : (keys entries).Nodup) {key : String} {v : β}
    (hmem : (key, v) ∈ entries) : entries.filter (fun entry => entry.1 = key) = [(key, v)] := by
  induction entries with
  | nil => exact absurd hmem List.not_mem_nil
  | cons entry rest ih =>
    obtain ⟨k, w⟩ := entry
    have hnodup := List.nodup_cons.1 h
    rw [List.filter_cons]
    rcases List.mem_cons.1 hmem with heq | hmem
    · obtain ⟨rfl, rfl⟩ := Prod.mk.inj heq
      have hnone : rest.filter (fun entry => entry.1 = key) = [] := by
        rw [List.filter_eq_nil_iff]
        intro entry hentry heq
        exact hnodup.1 (List.mem_map.2 ⟨entry, hentry, of_decide_eq_true heq⟩)
      rw [if_pos (decide_eq_true rfl), hnone]
    · have hk : k ≠ key := by
        rintro rfl
        exact hnodup.1 (List.mem_map.2 ⟨(k, v), hmem, rfl⟩)
      rw [if_neg (by simpa using hk), ih hnodup.2 hmem]

/-- The order of entries does not matter for what is found under a key. -/
theorem find?_eq_of_perm {entries' : Entries β} (h : (keys entries).Nodup)
    (hperm : entries'.Perm entries) (key : String) : find? key entries' = find? key entries := by
  have h' : (keys entries').Nodup := (hperm.map Prod.fst).nodup_iff.2 h
  ext v
  rw [find?_eq_some_iff h', find?_eq_some_iff h, hperm.mem_iff]

/-- A value for a new key goes to the end. -/
theorem put_of_not_mem {key : String} (h : key ∉ keys entries) (v : β) :
    put key v entries = entries ++ [(key, v)] := by
  induction entries with
  | nil => rfl
  | cons entry rest ih =>
    obtain ⟨k, w⟩ := entry
    have hkey : ¬ k = key ∧ key ∉ keys rest := by
      rw [keys, List.map_cons, List.mem_cons, not_or] at h
      exact ⟨fun heq => h.1 heq.symm, h.2⟩
    rw [put, if_neg hkey.1, ih hkey.2, List.cons_append]

/-- A value for a key that is there takes the place of the first old one. -/
theorem put_of_mem {key : String} (h : key ∈ keys entries) (v : β) :
    ∃ before old after, entries = before ++ (key, old) :: after ∧ key ∉ keys before ∧
      put key v entries = before ++ (key, v) :: after := by
  induction entries with
  | nil => exact absurd h List.not_mem_nil
  | cons entry rest ih =>
    obtain ⟨k, w⟩ := entry
    by_cases hk : k = key
    · subst hk
      exact ⟨[], w, rest, rfl, List.not_mem_nil, if_pos rfl⟩
    · obtain ⟨before, old, after, rfl, hbefore, hput⟩ :=
        ih ((List.mem_cons.1 h).resolve_left (Ne.symm hk))
      refine ⟨(k, w) :: before, old, after, rfl, ?_, ?_⟩
      · exact fun hmem => hbefore ((List.mem_cons.1 hmem).resolve_left (Ne.symm hk))
      · rw [put, if_neg hk, hput, List.cons_append]

/-- Pairs with new keys, different from each other, go to the end as they are. -/
theorem putAll_of_nodup {start pairs : Entries β} (h : (keys (start ++ pairs)).Nodup) :
    putAll start pairs = start ++ pairs := by
  induction pairs generalizing start with
  | nil => exact (List.append_nil start).symm
  | cons pair pairs ih =>
    have hsplit : start ++ pair :: pairs = (start ++ [pair]) ++ pairs := by
      rw [List.append_assoc, List.singleton_append]
    have hnew : pair.1 ∉ keys start := by
      rw [keys, List.map_append, List.map_cons] at h
      exact fun hmem => (List.nodup_append.1 h).2.2 _ hmem _ List.mem_cons_self rfl
    have hput : start.put pair.1 pair.2 = start ++ [pair] := put_of_not_mem hnew pair.2
    rw [hsplit] at h ⊢
    rw [← ih h]
    unfold putAll
    rw [List.foldl_cons, hput]

/-- Pairs with different keys are the entries that they make. -/
theorem ofPairs_eq_self {pairs : Entries β} (h : (keys pairs).Nodup) : ofPairs pairs = pairs :=
  @putAll_of_nodup β [] pairs h

/-- Entries with the same keys in the same order, and the same value under each, are the same. -/
theorem ext_of_keys {entries' : Entries β} (hkeys : keys entries = keys entries')
    (hvalues : ∀ key v v', (key, v) ∈ entries → (key, v') ∈ entries' → v = v') :
    entries = entries' := by
  induction entries generalizing entries' with
  | nil => exact (List.map_eq_nil_iff.1 hkeys.symm).symm
  | cons entry rest ih =>
    obtain ⟨k, v⟩ := entry
    cases entries' with
    | nil => exact absurd hkeys (List.cons_ne_nil _ _)
    | cons entry' rest' =>
      obtain ⟨k', v'⟩ := entry'
      obtain ⟨rfl, hrest⟩ := List.cons.inj hkeys
      obtain rfl := hvalues k v v' List.mem_cons_self List.mem_cons_self
      rw [ih hrest fun key w w' hw hw' =>
        hvalues key w w' (List.mem_cons_of_mem _ hw) (List.mem_cons_of_mem _ hw')]

/-! ### Keys that stand more than once -/

/-- The value of the last entry with this key. -/
def last? (key : String) (entries : Entries β) : Option β :=
  find? key entries.reverse

theorem find?_append (key : String) (entries rest : Entries β) :
    find? key (entries ++ rest) = (find? key entries).or (find? key rest) := by
  induction entries with
  | nil => exact (Option.none_or).symm
  | cons entry entries ih =>
    rw [List.cons_append, find?_cons, find?_cons, ih]
    split <;> rfl

theorem last?_cons (key k : String) (v : β) (rest : Entries β) :
    last? key ((k, v) :: rest) = (last? key rest).or (if k = key then some v else none) := by
  unfold last?
  rw [List.reverse_cons, find?_append]
  rfl

theorem last?_isSome_iff (key : String) (entries : Entries β) :
    (last? key entries).isSome ↔ key ∈ keys entries := by
  unfold last? keys
  rw [find?_isSome_iff, keys, List.map_reverse, List.mem_reverse]

theorem last?_append (key : String) (entries rest : Entries β) :
    last? key (entries ++ rest) = (last? key rest).or (last? key entries) := by
  unfold last?
  rw [List.reverse_append, find?_append]

theorem last?_eq_none_iff {key : String} : last? key entries = none ↔ key ∉ keys entries := by
  rw [← last?_isSome_iff, Bool.not_eq_true, Option.isSome_eq_false_iff, Option.isNone_iff_eq_none]

/-- The last value of a key stands beside it, and the key does not come again. -/
theorem last?_eq_some_iff {key : String} {v : β} :
    last? key entries = some v ↔
      ∃ before after, entries = before ++ (key, v) :: after ∧ key ∉ keys after := by
  constructor
  · intro h
    induction entries with
    | nil => exact nomatch h
    | cons entry rest ih =>
      obtain ⟨k, w⟩ := entry
      rw [last?_cons] at h
      -- The last value of the rest wins, if there is one.
      cases hrest : last? key rest with
      | some u =>
        rw [hrest] at h
        obtain ⟨before, after, rfl, hafter⟩ := ih (hrest.trans h)
        exact ⟨(k, w) :: before, after, rfl, hafter⟩
      | none =>
        rw [hrest, Option.none_or] at h
        split_ifs at h with hk
        obtain rfl := Option.some.inj h
        exact ⟨[], rest, by rw [hk]; rfl, last?_eq_none_iff.1 hrest⟩
  · rintro ⟨before, after, rfl, hafter⟩
    rw [last?_append, last?_cons, last?_eq_none_iff.2 hafter, if_pos rfl]
    rfl

/-- If the value of a key depends on the key alone, then it is the last one as well. -/
theorem last?_map {f : String → β} {key : String} {names : List String} (h : key ∈ names) :
    last? key (names.map fun name => (name, f name)) = some (f key) := by
  have hkeys : keys (names.map fun name => (name, f name)) = names := by
    rw [keys, List.map_map]
    exact List.map_id names
  obtain ⟨v, hv⟩ := Option.isSome_iff_exists.1 ((last?_isSome_iff key _).2 (hkeys.symm ▸ h))
  obtain ⟨name, -, heq⟩ := List.mem_map.1 (List.mem_reverse.1 (mem_of_find?_eq_some hv))
  obtain ⟨rfl, rfl⟩ := Prod.mk.inj heq
  exact hv

/-- While no key stands twice, its last value is the first one. -/
theorem last?_eq_find? (h : (keys entries).Nodup) (key : String) :
    last? key entries = find? key entries :=
  find?_eq_of_perm h (List.reverse_perm entries) key

/-- Behind a series of writes each key has the value that was written last, if there is one. -/
theorem find?_putAll (key : String) (start pairs : Entries β) :
    find? key (putAll start pairs) = (last? key pairs).or (find? key start) := by
  induction pairs generalizing start with
  | nil => rfl
  | cons pair pairs ih =>
    obtain ⟨k, v⟩ := pair
    have hput := ih (start.put k v)
    rw [last?_cons, Option.or_assoc]
    rw [find?_put] at hput
    refine hput.trans (congrArg _ ?_)
    split <;> rfl

theorem find?_ofPairs (key : String) (pairs : Entries β) :
    find? key (ofPairs pairs) = last? key pairs :=
  (find?_putAll key [] pairs).trans Option.or_none

theorem ofPairs_append_singleton (pairs : Entries β) (pair : String × β) :
    ofPairs (pairs ++ [pair]) = (ofPairs pairs).put pair.1 pair.2 :=
  List.foldl_concat ..

/-- The keys of entries stand in the order in which they first came. -/
theorem keys_ofPairs (pairs : Entries β) : keys (ofPairs pairs) = (keys pairs).eraseDups := by
  induction pairs using List.reverseRecOn with
  | nil => rfl
  | append_singleton pairs pair ih =>
    have hkeys : keys (pairs ++ [pair]) = keys pairs ++ [pair.1] := List.map_append
    rw [ofPairs_append_singleton, keys_put, ih, hkeys, List.eraseDups_append]
    by_cases hmem : pair.1 ∈ keys pairs
    · have hold : [pair.1].removeAll (keys pairs) = [] := by simp [List.removeAll, hmem]
      rw [if_pos (List.mem_eraseDups.2 hmem), hold]
      exact (List.append_nil _).symm
    · have hnew : [pair.1].removeAll (keys pairs) = [pair.1] := by simp [List.removeAll, hmem]
      rw [if_neg (fun h => hmem (List.mem_eraseDups.1 h)), hnew]
      rfl

/-- Whatever the pairs are, no key stands twice in what they make. -/
theorem nodup_keys_ofPairs (pairs : Entries β) : (keys (ofPairs pairs)).Nodup := by
  induction pairs using List.reverseRecOn with
  | nil => exact List.nodup_nil
  | append_singleton pairs pair ih =>
    rw [ofPairs_append_singleton]
    exact nodup_keys_put ih pair.1 pair.2

theorem mem_of_last?_eq_some {key : String} {v : β} (h : last? key entries = some v) :
    (key, v) ∈ entries :=
  List.mem_reverse.1 (mem_of_find?_eq_some h)

theorem putAll_append (start pairs rest : Entries β) :
    putAll start (pairs ++ rest) = putAll (putAll start pairs) rest :=
  List.foldl_append

/-- While no key stands twice, the keys and what is found under them make up the entries. -/
theorem filterMap_keys (h : (keys entries).Nodup) :
    (keys entries).filterMap (fun key => (find? key entries).map (key, ·)) = entries := by
  induction entries with
  | nil => rfl
  | cons entry rest ih =>
    obtain ⟨k, v⟩ := entry
    have hnodup := List.nodup_cons.1 h
    have hrest : (keys rest).filterMap (fun key => (find? key ((k, v) :: rest)).map (key, ·)) =
        (keys rest).filterMap (fun key => (find? key rest).map (key, ·)) := by
      refine List.filterMap_congr fun key hkey => ?_
      have hk : k ≠ key := by
        rintro rfl
        exact hnodup.1 hkey
      rw [find?_cons, if_neg hk]
    show (k :: keys rest).filterMap _ = _
    rw [List.filterMap_cons, find?_cons, if_pos rfl, hrest, ih hnodup.2]
    rfl

/-- Each key of the pairs once, at the place where it came first, with the value that came last. -/
def collapsed (pairs : Entries β) : Entries β :=
  (keys pairs).eraseDups.filterMap fun key => (last? key pairs).map (key, ·)

theorem ofPairs_eq_collapsed (pairs : Entries β) : ofPairs pairs = collapsed pairs := by
  have hentries := filterMap_keys (nodup_keys_ofPairs pairs)
  simp only [keys_ofPairs, find?_ofPairs] at hentries
  exact hentries.symm

/-! ### Entries with the same keys in two lists -/

section Rel

variable {γ : Type} (R : β → γ → Prop) {pairs : Entries γ}

theorem keys_eq_of_forall₂ (h : List.Forall₂ (fun entry pair => entry.1 = pair.1) entries pairs) :
    keys entries = keys pairs := by
  induction h with
  | nil => rfl
  | cons hfirst _ ih => exact congrArg₂ List.cons hfirst ih

/-- If the entries of two lists go in step, then so do the values that are found under a key. -/
theorem rel_of_find? {key : String} {v : β} {w : γ}
    (h : List.Forall₂ (fun entry pair => entry.1 = pair.1 ∧ R entry.2 pair.2) entries pairs)
    (hv : find? key entries = some v) (hw : find? key pairs = some w) : R v w := by
  induction h with
  | nil => exact nomatch hv
  | @cons entry pair _ _ hfirst _ ih =>
    obtain ⟨k, a⟩ := entry
    obtain ⟨_, b⟩ := pair
    obtain ⟨rfl, hab⟩ := hfirst
    rw [find?_cons] at hv hw
    by_cases hk : k = key
    · rw [if_pos hk] at hv hw
      exact Option.some.inj hv ▸ Option.some.inj hw ▸ hab
    · rw [if_neg hk] at hv hw
      exact ih hv hw

theorem rel_of_last? {key : String} {v : β} {w : γ}
    (h : List.Forall₂ (fun entry pair => entry.1 = pair.1 ∧ R entry.2 pair.2) entries pairs)
    (hv : last? key entries = some v) (hw : last? key pairs = some w) : R v w :=
  rel_of_find? R (List.rel_reverse h) hv hw

end Rel

end Entries

namespace OrderedMap

variable {β : Type}

theorem entries_insertAll (m : OrderedMap β) (pairs : Entries β) :
    (m.insertAll pairs).entries = Entries.putAll m.entries pairs := by
  unfold insertAll Entries.putAll
  induction pairs generalizing m with
  | nil => rfl
  | cons pair pairs ih => exact ih (m.insert pair.1 pair.2)

/-- A map is made from what it lists. -/
theorem ofList_toList (m : OrderedMap β) : ofList m.toList = m :=
  OrderedMap.ext ((entries_insertAll empty m.entries).trans (Entries.ofPairs_eq_self m.nodup))

end OrderedMap

namespace Args

/-- The names of arguments differ from each other. -/
theorem nodup_toList (args : Args) : (Entries.keys args.toList).Nodup :=
  args.params.nodup

theorem toList_extend (args : Args) (pairs : List (String × ArgValue)) :
    (args.extend pairs).toList =
      Entries.putAll args.toList (pairs.map fun pair => (pair.1, pair.2.render)) := by
  unfold extend Entries.putAll
  induction pairs generalizing args with
  | nil => rfl
  | cons pair pairs ih =>
    rw [List.foldl_cons, List.map_cons, List.foldl_cons]
    exact ih (args.insert pair.1 pair.2)

/-- Texts are collected like any pairs. -/
theorem toList_ofTexts_eq (pairs : List (String × String)) :
    (ofTexts pairs).toList = Entries.ofPairs pairs := by
  have htexts : (pairs.map fun pair => (pair.1, ArgValue.text pair.2)).map
      (fun pair => (pair.1, pair.2.render)) = pairs := by
    rw [List.map_map]
    exact List.map_id pairs
  have hextend := toList_extend empty (pairs.map fun pair => (pair.1, ArgValue.text pair.2))
  rw [htexts] at hextend
  exact hextend

/-- Arguments with different names are listed as they were given. -/
theorem toList_ofTexts {pairs : List (String × String)} (h : (pairs.map Prod.fst).Nodup) :
    (ofTexts pairs).toList = pairs :=
  (toList_ofTexts_eq pairs).trans (Entries.ofPairs_eq_self h)

/-- `args.Binds pairs`: each name of the pairs is listed once, at the place where it came first, and
has the value that came last. -/
structure Binds (args : Args) (pairs : List (String × String)) : Prop where
  names : args.toList.map Prod.fst = (pairs.map Prod.fst).eraseDups
  value : ∀ name, args.get? name = Entries.last? name pairs

theorem binds_ofTexts (pairs : List (String × String)) : (ofTexts pairs).Binds pairs := by
  have hentries := toList_ofTexts_eq pairs
  constructor
  · rw [hentries]
    exact Entries.keys_ofPairs pairs
  · intro name
    show Entries.find? name (ofTexts pairs).toList = _
    rw [hentries, Entries.find?_ofPairs]

end Args

end Phrasebook
