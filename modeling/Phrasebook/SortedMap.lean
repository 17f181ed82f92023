/-!
## Sorted maps

A finite map from names to values whose keys stand in increasing order, the order of their code
points.  Two maps with the same value at every key are equal, whatever the order of the insertions
that made them.

* `SortedMap.find?_insert` and `SortedMap.find?_erase` say what an update does to every key.
* `SortedMap.exchange` and `SortedMap.take` are these updates, and also give the value that goes.
* `SortedMap.ext_find?` says that the values at all keys make up the map.
-/

namespace Phrasebook

namespace SortedMap

variable {β : Type}

/-- Whether the keys of a list of pairs increase. -/
def Increasing (entries : List (String × β)) : Prop :=
  entries.Pairwise fun a b => a.1 < b.1

/-- The value under a key in a list of pairs. -/
def lookup (key : String) : List (String × β) → Option β
  | [] => none
  | (k, v) :: rest => if k = key then some v else lookup key rest

/-- The pairs with `value` under `key`, at the place where the order wants it. -/
def place (key : String) (value : β) : List (String × β) → List (String × β)
  | [] => [(key, value)]
  | (k, v) :: rest =>
    if key < k then (key, value) :: (k, v) :: rest
    else if k = key then (key, value) :: rest
    else (k, v) :: place key value rest

theorem mem_place {key : String} {value : β} {entries : List (String × β)} {entry : String × β}
    (h : entry ∈ place key value entries) : entry = (key, value) ∨ entry ∈ entries := by
  induction entries with
  | nil => exact Or.inl (List.mem_singleton.1 h)
  | cons head rest ih =>
    obtain ⟨k, v⟩ := head
    unfold place at h
    split at h
    · exact List.mem_cons.1 h
    · split at h
      · rcases List.mem_cons.1 h with h | h
        · exact Or.inl h
        · exact Or.inr (List.mem_cons_of_mem _ h)
      · rcases List.mem_cons.1 h with h | h
        · exact Or.inr (h ▸ List.mem_cons_self)
        · exact (ih h).imp_right (List.mem_cons_of_mem _)

theorem increasing_place {entries : List (String × β)} (h : Increasing entries) (key : String)
    (value : β) : Increasing (place key value entries) := by
  induction entries with
  | nil => exact List.pairwise_singleton _ _
  | cons head rest ih =>
    obtain ⟨k, v⟩ := head
    have hrest := List.pairwise_cons.1 h
    unfold place
    split
    · rename_i hlt
      refine List.pairwise_cons.2 ⟨fun entry hentry => ?_, h⟩
      rcases List.mem_cons.1 hentry with rfl | hmem
      · exact hlt
      · exact String.lt_trans hlt (hrest.1 entry hmem)
    · split
      · rename_i heq
        exact List.pairwise_cons.2 ⟨fun entry hentry => heq ▸ hrest.1 entry hentry, hrest.2⟩
      · rename_i hlt hne
        refine List.pairwise_cons.2 ⟨fun entry hentry => ?_, ih hrest.2⟩
        rcases mem_place hentry with rfl | hmem
        · exact Std.lt_of_le_of_ne (String.not_lt.1 hlt) hne
        · exact hrest.1 entry hmem

theorem increasing_filter {entries : List (String × β)} (h : Increasing entries)
    (p : String × β → Bool) : Increasing (entries.filter p) :=
  List.Pairwise.sublist List.filter_sublist h

end SortedMap

/-- A finite map from names to values with its keys in increasing order. -/
structure SortedMap (β : Type) where
  /-- The keys with their values, least key first. -/
  entries : List (String × β)
  /-- Each key is greater than the one before it. -/
  increasing : SortedMap.Increasing entries

namespace SortedMap

variable {β : Type}

/-- The map without keys. -/
def empty : SortedMap β where
  entries := []
  increasing := List.Pairwise.nil

instance : Inhabited (SortedMap β) := ⟨empty⟩

/-- The value of a key. -/
def find? (m : SortedMap β) (key : String) : Option β :=
  lookup key m.entries

/-- Whether a key is present. -/
def contains (m : SortedMap β) (key : String) : Bool :=
  (m.find? key).isSome

/-- The map with `value` under `key`. -/
def insert (m : SortedMap β) (key : String) (value : β) : SortedMap β where
  entries := place key value m.entries
  increasing := increasing_place m.increasing key value

/-- The map without `key`. -/
def erase (m : SortedMap β) (key : String) : SortedMap β where
  entries := m.entries.filter fun entry => entry.1 ≠ key
  increasing := increasing_filter m.increasing _

/-- The keys in increasing order. -/
def keys (m : SortedMap β) : List String :=
  m.entries.map Prod.fst

/-- The number of keys. -/
def size (m : SortedMap β) : Nat :=
  m.entries.length

/-- Whether there is no key. -/
def isEmpty (m : SortedMap β) : Bool :=
  m.entries.isEmpty

@[simp] theorem find?_empty (key : String) : (empty : SortedMap β).find? key = none :=
  rfl

theorem lookup_eq_none {key : String} {entries : List (String × β)}
    (h : ∀ entry ∈ entries, entry.1 ≠ key) : lookup key entries = none := by
  induction entries with
  | nil => rfl
  | cons head rest ih =>
    have hhead : head.1 ≠ key := h head List.mem_cons_self
    have hrest := ih fun entry hentry => h entry (List.mem_cons_of_mem _ hentry)
    simpa [lookup, hhead] using hrest

theorem lookup_place (key other : String) (value : β) (entries : List (String × β)) :
    lookup other (place key value entries) =
      if key = other then some value else lookup other entries := by
  induction entries with
  | nil => rfl
  | cons head rest ih =>
    obtain ⟨k, v⟩ := head
    unfold place
    split
    · rfl
    · split
      · rename_i heq
        subst heq
        by_cases ho : k = other <;> simp [lookup, ho]
      · rename_i hne
        by_cases ho : k = other
        · subst ho
          simp [lookup, Ne.symm hne]
        · simp [lookup, ho, ih]

/-- An insertion changes the value of its own key and no other. -/
theorem find?_insert (m : SortedMap β) (key other : String) (value : β) :
    (m.insert key value).find? other = if key = other then some value else m.find? other :=
  lookup_place key other value m.entries

/-- An erasure takes the value of its own key away and no other. -/
theorem find?_erase (m : SortedMap β) (key other : String) :
    (m.erase key).find? other = if key = other then none else m.find? other := by
  show lookup other (m.entries.filter fun entry => entry.1 ≠ key) =
    if key = other then none else lookup other m.entries
  induction m.entries with
  | nil => simp [lookup]
  | cons head rest ih =>
    obtain ⟨k, v⟩ := head
    by_cases hk : k = key
    · subst hk
      by_cases ho : k = other
      · simpa [lookup, ho] using ih
      · simpa [lookup, ho] using ih
    · by_cases ho : k = other
      · subst ho
        simp [lookup, hk, Ne.symm hk]
      · simpa [lookup, hk, ho] using ih

/-- A key before all those of a list has no value in it. -/
theorem lookup_eq_none_of_lt {key : String} {entries : List (String × β)}
    (h : ∀ entry ∈ entries, key < entry.1) : lookup key entries = none :=
  lookup_eq_none fun entry hentry heq => String.lt_irrefl key (heq ▸ h entry hentry)

/-- A key that has a value in a list with increasing keys does not come before the first one. -/
theorem not_lt_of_lookup_ne_none {key : String} {head : String × β} {rest : List (String × β)}
    (h : Increasing (head :: rest)) (hlookup : lookup key (head :: rest) ≠ none) :
    ¬ key < head.1 := by
  intro hlt
  refine hlookup (lookup_eq_none_of_lt fun entry hentry => ?_)
  rcases List.mem_cons.1 hentry with rfl | hmem
  · exact hlt
  · exact String.lt_trans hlt ((List.pairwise_cons.1 h).1 entry hmem)

/-- Lists with increasing keys and the same value under every key are equal. -/
theorem eq_of_lookup_eq {entries others : List (String × β)} (h : Increasing entries)
    (h' : Increasing others) (hlookup : ∀ key, lookup key entries = lookup key others) :
    entries = others := by
  induction entries generalizing others with
  | nil =>
    cases others with
    | nil => rfl
    | cons head rest => exact absurd (hlookup head.1) (by simp [lookup])
  | cons head rest ih =>
    cases others with
    | nil => exact absurd (hlookup head.1) (by simp [lookup])
    | cons head' rest' =>
      obtain ⟨k, v⟩ := head
      obtain ⟨k', v'⟩ := head'
      have hself : lookup k ((k, v) :: rest) = some v := if_pos rfl
      have hself' : lookup k' ((k', v') :: rest') = some v' := if_pos rfl
      -- each first key has a value in the other list, so neither comes before the other
      have hnot : ¬ k < k' := not_lt_of_lookup_ne_none h' (by simp [← hlookup, hself])
      have hnot' : ¬ k' < k := not_lt_of_lookup_ne_none h (by simp [hlookup, hself'])
      obtain rfl : k = k' := String.le_antisymm (String.not_lt.1 hnot') (String.not_lt.1 hnot)
      obtain rfl : v = v' := Option.some.inj (hself.symm.trans ((hlookup k).trans hself'))
      have hkeys := List.pairwise_cons.1 h
      have hkeys' := List.pairwise_cons.1 h'
      obtain rfl : rest = rest' := ih hkeys.2 hkeys'.2 fun key => by
        by_cases hk : k = key
        · subst hk
          rw [lookup_eq_none_of_lt hkeys.1, lookup_eq_none_of_lt hkeys'.1]
        · simpa [lookup, hk] using hlookup key
      rfl

/-- Maps with the same value at every key are equal. -/
theorem ext_find? {m n : SortedMap β} (h : ∀ key, m.find? key = n.find? key) : m = n := by
  have hentries := eq_of_lookup_eq m.increasing n.increasing h
  cases m
  cases n
  cases hentries
  rfl

/-! ### Updates that give the old value -/

/-- The pairs with `value` under `key`, like `place`, and the value that was there before. -/
def exchangeIn (key : String) (value : β) : List (String × β) → Option β × List (String × β)
  | [] => (none, [(key, value)])
  | (k, v) :: rest =>
    if key < k then (none, (key, value) :: (k, v) :: rest)
    else if k = key then (some v, (key, value) :: rest)
    else
      let (old, rest) := exchangeIn key value rest
      (old, (k, v) :: rest)

/-- The pairs without the one for `key`, and the value that was there. -/
def takeFrom (key : String) : List (String × β) → Option β × List (String × β)
  | [] => (none, [])
  | (k, v) :: rest =>
    if k = key then (some v, rest)
    else
      let (old, rest) := takeFrom key rest
      (old, (k, v) :: rest)

theorem exchangeIn_eq {entries : List (String × β)} (h : Increasing entries) (key : String)
    (value : β) : exchangeIn key value entries = (lookup key entries, place key value entries) := by
  induction entries with
  | nil => rfl
  | cons head rest ih =>
    obtain ⟨k, v⟩ := head
    have hkeys := List.pairwise_cons.1 h
    unfold exchangeIn place
    split
    · -- the walk stops before the greater keys, so the key is not among them
      rename_i hlt
      have hnone : lookup key ((k, v) :: rest) = none := by
        refine lookup_eq_none_of_lt (List.forall_mem_cons.2 ⟨hlt, fun entry hentry => ?_⟩)
        exact String.lt_trans hlt (hkeys.1 entry hentry)
      rw [hnone]
    · split
      · rename_i heq
        simp [lookup, heq]
      · rename_i hne
        simp [lookup, hne, ih hkeys.2]

theorem takeFrom_eq {entries : List (String × β)} (h : Increasing entries) (key : String) :
    takeFrom key entries =
      (lookup key entries, entries.filter fun entry => entry.1 ≠ key) := by
  induction entries with
  | nil => rfl
  | cons head rest ih =>
    obtain ⟨k, v⟩ := head
    have hkeys := List.pairwise_cons.1 h
    unfold takeFrom
    split
    · rename_i heq
      subst heq
      have hrest : rest.filter (fun entry => entry.1 ≠ k) = rest := by
        refine List.filter_eq_self.2 fun entry hentry => ?_
        have hlt : k < entry.1 := hkeys.1 entry hentry
        simpa using fun heq : entry.1 = k => String.lt_irrefl k (heq ▸ hlt)
      simpa [lookup] using hrest.symm
    · rename_i hne
      simp [lookup, hne, ih hkeys.2]

/-- The map with `value` under `key`, and the value that was there before. -/
def exchange (m : SortedMap β) (key : String) (value : β) : Option β × SortedMap β :=
  ((exchangeIn key value m.entries).1, {
    entries := (exchangeIn key value m.entries).2
    increasing := exchangeIn_eq m.increasing key value ▸ increasing_place m.increasing key value })

/-- The map without `key`, and the value that was there. -/
def take (m : SortedMap β) (key : String) : Option β × SortedMap β :=
  ((takeFrom key m.entries).1, {
    entries := (takeFrom key m.entries).2
    increasing := takeFrom_eq m.increasing key ▸ increasing_filter m.increasing _ })

theorem exchange_eq (m : SortedMap β) (key : String) (value : β) :
    m.exchange key value = (m.find? key, m.insert key value) := by
  unfold exchange insert find?
  simp only [exchangeIn_eq m.increasing key value]

theorem take_eq (m : SortedMap β) (key : String) : m.take key = (m.find? key, m.erase key) := by
  unfold take erase find?
  simp only [takeFrom_eq m.increasing key]

end SortedMap

end Phrasebook
