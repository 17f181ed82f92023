/-!
## Entries in insertion order

A list of keys with values, read as a finite map: the first entry with a key is the one that counts.
New keys go to the end, and writing to a key that is present keeps its place.

* `Entries.find?_put` says what a write does to every key.
* `Entries.keys_put` says what it does to the keys: nothing if the key is present, and otherwise
  the key goes to the end.
* `Entries.exchange` is a write that also gives the value that it replaces.
* `OrderedMap` is the type of entries whose keys differ from each other.
-/

namespace Phrasebook

/-- Keys with values, in order. -/
abbrev Entries (β : Type) := List (String × β)

namespace Entries

variable {β : Type}

/-- The value of the first entry with this key. -/
def find? (key : String) : Entries β → Option β
  | [] => none
  | (k, v) :: rest => if k = key then some v else find? key rest

/-- The entries with `value` under `key`, in its place if it is present and at the end if not. -/
def put (key : String) (value : β) : Entries β → Entries β
  | [] => [(key, value)]
  | (k, v) :: rest => if k = key then (k, value) :: rest else (k, v) :: put key value rest

/-- The entries with `value` under `key`, like `put`, and the value that was there before. -/
def exchange (key : String) (value : β) : Entries β → Option β × Entries β
  | [] => (none, [(key, value)])
  | (k, v) :: rest =>
    if k = key then (some v, (k, value) :: rest)
    else
      let (old, rest) := exchange key value rest
      (old, (k, v) :: rest)

/-- The entries without those for `key`. -/
def erase (key : String) (entries : Entries β) : Entries β :=
  entries.filter fun entry => entry.1 ≠ key

/-- The keys in order. -/
def keys (entries : Entries β) : List String :=
  entries.map Prod.fst

/-- The pairs put one after the other into `start`. -/
def putAll (start : Entries β) (pairs : List (String × β)) : Entries β :=
  pairs.foldl (fun entries pair => entries.put pair.1 pair.2) start

/-- The entries that the pairs make when they are put one after the other: each key stands where it
came first, with the value that came last. -/
def ofPairs (pairs : List (String × β)) : Entries β :=
  putAll [] pairs

@[simp] theorem find?_nil (key : String) : find? key ([] : Entries β) = none :=
  rfl

theorem find?_cons (key k : String) (v : β) (rest : Entries β) :
    find? key ((k, v) :: rest) = if k = key then some v else find? key rest :=
  rfl

/-- A write changes the value of its own key and no other. -/
theorem find?_put (key other : String) (value : β) (entries : Entries β) :
    find? other (put key value entries) =
      if key = other then some value else find? other entries := by
  induction entries with
  | nil => rfl
  | cons entry rest ih =>
    obtain ⟨k, v⟩ := entry
    by_cases h : k = key
    · subst h
      by_cases h' : k = other <;> simp [put, find?, h']
    · by_cases h' : k = other
      · subst h'
        simp [put, find?, h, Ne.symm h]
      · simp [put, find?, h, h', ih]

/-- An exchange is a write and gives the value that was found before it. -/
theorem exchange_eq (key : String) (value : β) (entries : Entries β) :
    exchange key value entries = (find? key entries, put key value entries) := by
  induction entries with
  | nil => rfl
  | cons entry rest ih =>
    obtain ⟨k, v⟩ := entry
    by_cases h : k = key
    · simp [exchange, find?, put, h]
    · simp [exchange, find?, put, h, ih]

/-- A key is found exactly if it is listed. -/
theorem find?_isSome_iff (key : String) (entries : Entries β) :
    (find? key entries).isSome ↔ key ∈ keys entries := by
  induction entries with
  | nil => simp [keys]
  | cons entry rest ih =>
    obtain ⟨k, v⟩ := entry
    have ih' : (find? key rest).isSome ↔ key ∈ rest.map Prod.fst := ih
    by_cases h : k = key
    · simp [find?, keys, h]
    · simp only [find?, h, keys, List.map_cons, List.mem_cons, if_false, ih']
      exact ⟨Or.inr, fun h' => h'.resolve_left (Ne.symm h)⟩

/-- A write keeps the keys, or adds its own at the end. -/
theorem keys_put (key : String) (value : β) (entries : Entries β) :
    keys (put key value entries) =
      if key ∈ keys entries then keys entries else keys entries ++ [key] := by
  induction entries with
  | nil => simp [put, keys]
  | cons entry rest ih =>
    obtain ⟨k, v⟩ := entry
    have ih' : (put key value rest).map Prod.fst =
        if key ∈ rest.map Prod.fst then rest.map Prod.fst else rest.map Prod.fst ++ [key] := ih
    by_cases h : k = key
    · simp [put, keys, h]
    · by_cases h' : key ∈ rest.map Prod.fst
      · simp only [put, h, keys, if_false, List.map_cons, ih', if_pos h',
          if_pos (List.mem_cons_of_mem k h')]
      · have hk : key ∉ k :: rest.map Prod.fst := by
          simp only [List.mem_cons, not_or]
          exact ⟨Ne.symm h, h'⟩
        simp only [put, h, keys, if_false, List.map_cons, ih', if_neg h', if_neg hk,
          List.cons_append]

/-- Writing keeps the keys apart. -/
theorem nodup_keys_put {entries : Entries β} (h : (keys entries).Nodup) (key : String) (value : β) :
    (keys (put key value entries)).Nodup := by
  rw [keys_put]
  by_cases h' : key ∈ keys entries
  · simpa [h'] using h
  · rw [if_neg h']
    refine List.nodup_append.2 ⟨h, by simp, ?_⟩
    intro a ha b hb
    rw [List.mem_singleton.1 hb]
    exact fun hab => h' (hab ▸ ha)

/-- Erasing keeps the keys apart. -/
theorem nodup_keys_erase {entries : Entries β} (h : (keys entries).Nodup) (key : String) :
    (keys (erase key entries)).Nodup :=
  List.Nodup.sublist ((List.filter_sublist).map Prod.fst) h

end Entries

/-- A finite map from names to values that remembers the order of its keys. -/
structure OrderedMap (β : Type) where
  /-- The keys with their values, oldest key first. -/
  entries : Entries β
  /-- No key stands twice. -/
  nodup : (Entries.keys entries).Nodup

namespace OrderedMap

variable {β : Type}

/-- The map without keys. -/
def empty : OrderedMap β where
  entries := []
  nodup := List.nodup_nil

instance : EmptyCollection (OrderedMap β) := ⟨empty⟩

instance : Inhabited (OrderedMap β) := ⟨empty⟩

/-- The value of a key. -/
def find? (m : OrderedMap β) (key : String) : Option β :=
  m.entries.find? key

/-- Whether a key is present. -/
def contains (m : OrderedMap β) (key : String) : Bool :=
  (m.find? key).isSome

/-- The map with `value` under `key`; a key that is present keeps its place. -/
def insert (m : OrderedMap β) (key : String) (value : β) : OrderedMap β where
  entries := m.entries.put key value
  nodup := Entries.nodup_keys_put m.nodup key value

/-- The map with `value` under `key`, and the value that was there before. -/
def exchange (m : OrderedMap β) (key : String) (value : β) : Option β × OrderedMap β :=
  ((Entries.exchange key value m.entries).1, {
    entries := (Entries.exchange key value m.entries).2
    nodup := Entries.exchange_eq key value m.entries ▸ Entries.nodup_keys_put m.nodup key value })

/-- The map without `key`. -/
def erase (m : OrderedMap β) (key : String) : OrderedMap β where
  entries := m.entries.erase key
  nodup := Entries.nodup_keys_erase m.nodup key

/-- The map after the pairs have been inserted one after the other. -/
def insertAll (m : OrderedMap β) (pairs : List (String × β)) : OrderedMap β :=
  pairs.foldl (fun m pair => m.insert pair.1 pair.2) m

/-- The map that the pairs make when they are inserted one after the other. -/
def ofList (pairs : List (String × β)) : OrderedMap β :=
  insertAll empty pairs

/-- The keys with their values in order. -/
def toList (m : OrderedMap β) : List (String × β) :=
  m.entries

/-- The keys in order. -/
def keys (m : OrderedMap β) : List String :=
  Entries.keys m.entries

/-- The number of keys. -/
def size (m : OrderedMap β) : Nat :=
  m.entries.length

/-- Whether there is no key. -/
def isEmpty (m : OrderedMap β) : Bool :=
  m.entries.isEmpty

@[ext] theorem ext {m n : OrderedMap β} (h : m.entries = n.entries) : m = n := by
  cases m
  cases n
  cases h
  rfl

@[simp] theorem find?_empty (key : String) : (empty : OrderedMap β).find? key = none :=
  rfl

/-- An insertion changes the value of its own key and no other. -/
theorem find?_insert (m : OrderedMap β) (key other : String) (value : β) :
    (m.insert key value).find? other = if key = other then some value else m.find? other :=
  Entries.find?_put key other value m.entries

theorem exchange_eq (m : OrderedMap β) (key : String) (value : β) :
    m.exchange key value = (m.find? key, m.insert key value) := by
  unfold exchange insert find?
  simp only [Entries.exchange_eq]

end OrderedMap

end Phrasebook
