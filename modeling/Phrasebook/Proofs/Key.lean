import Phrasebook.Key
import Phrasebook.Proofs.Message.Path
import Phrasebook.Proofs.Text.Split

/-!
# What keys find

A key is looked up on one path of names, its `address`: a phrase on the path of itself alone, and
any other key on the path of the names between its dots.  It finds a text if the address leads to
one, and what it gives otherwise says of which kind it is (`resolve_eq`).

* `Spells path key`: the key is written as the names of the path with dots between them.  Each key
  is spelled by one path (`spells_iff`).
* `MessageTree.Returns t key path`: what the key finds is the text at the end of the path, whatever
  text that is.  A key returns the text of its address and no other (`returns_iff`).
* `resolve_finds_addressable` puts these together: which keys find which texts, and which texts are
  found by no key.
-/

namespace Phrasebook

open Phrasebook.Text

/-- The number of words of a text. -/
def wordCount (s : String) : ℕ :=
  (words s.toList).length

/-! ### Addresses -/

/-- `Spells path key`: the key consists of the names of the path, none of which has a dot, with a
dot between neighbours. -/
structure Spells (path : List String) (key : String) : Prop where
  ne_nil : path ≠ []
  dotFree : ∀ name ∈ path, '.' ∉ name.toList
  join : ".".intercalate path = key

theorem toList_intercalate_dot (path : List String) :
    (".".intercalate path).toList = ['.'].intercalate (path.map String.toList) :=
  String.toList_intercalate

/-- A key is spelled by the names between its dots and by no other path. -/
theorem spells_iff {path : List String} {key : String} :
    Spells path key ↔ path = pathSegments key := by
  unfold pathSegments
  rw [splitAt_eq_splitOn]
  constructor
  · -- Names without dots come back when they are split at the dots between them.
    rintro ⟨hne, hfree, rfl⟩
    have hfree' : ∀ name ∈ path.map String.toList, '.' ∉ name := by
      simpa using hfree
    rw [toList_intercalate_dot, List.splitOn_intercalate '.' hfree' (by simpa using hne),
      List.map_map]
    simp
  · rintro rfl
    refine ⟨by simp, ?_, ?_⟩
    · intro name hname
      obtain ⟨piece, hpiece, rfl⟩ := List.mem_map.1 hname
      rw [String.toList_ofList]
      exact not_mem_of_mem_splitAt (splitAt_eq_splitOn '.' key.toList ▸ hpiece)
    · rw [← String.toList_inj, toList_intercalate_dot, List.map_map]
      have hid : String.toList ∘ String.ofList = id := funext fun s => String.toList_ofList
      rw [hid, List.map_id, List.intercalate_splitOn]

/-- The path on which a key is looked up. -/
def address (key : String) : List String :=
  match KeyKind.of key with
  | .phrase => [key]
  | .path => pathSegments key

theorem kind_eq_phrase_iff {key : String} : KeyKind.of key = .phrase ↔ 2 ≤ wordCount key := by
  unfold KeyKind.of wordCount
  split <;> simp_all

theorem kind_eq_path_iff {key : String} : KeyKind.of key = .path ↔ wordCount key ≤ 1 := by
  unfold KeyKind.of wordCount
  split
  · simp only [reduceCtorEq, false_iff]
    omega
  · simp only [true_iff]
    omega

theorem address_of_phrase {key : String} (h : 2 ≤ wordCount key) : address key = [key] := by
  rw [address, kind_eq_phrase_iff.2 h]

theorem address_of_path {key : String} (h : wordCount key ≤ 1) :
    address key = pathSegments key := by
  rw [address, kind_eq_path_iff.2 h]

/-- What a key without a text gives. -/
def Resolution.missing (key : String) : Resolution :=
  match KeyKind.of key with
  | .phrase => .keyAsText
  | .path => .notFound

/-- A key finds the text at the end of its address. -/
theorem resolve_eq (key : String) (t : MessageTree) :
    resolve key t = ((t.lookup (address key)).map Resolution.found).getD (.missing key) := by
  unfold resolve address Resolution.missing
  cases KeyKind.of key with
  | phrase =>
    have hlookup : t.lookup [key] = (t.child key).bind MessageTree.asText := by
      rw [MessageTree.lookup_cons]
      rfl
    dsimp only
    rw [hlookup]
    cases (t.child key).bind MessageTree.asText <;> rfl
  | path =>
    dsimp only
    cases t.lookup (pathSegments key) <;> rfl

theorem Resolution.missing_ne_found (key text : String) : Resolution.missing key ≠ .found text := by
  unfold Resolution.missing
  split <;> exact Resolution.noConfusion

theorem resolve_eq_found_iff {key text : String} {t : MessageTree} :
    resolve key t = .found text ↔ t.lookup (address key) = some text := by
  rw [resolve_eq]
  cases t.lookup (address key) with
  | none => simp [Resolution.missing_ne_found]
  | some s => simp

/-- A key gives what is given without a text exactly if it finds none. -/
theorem resolve_eq_missing_iff {key : String} {t : MessageTree} :
    resolve key t = .missing key ↔ ∀ text, resolve key t ≠ .found text := by
  constructor
  · exact fun h text hfound => Resolution.missing_ne_found key text (h.symm.trans hfound)
  · intro h
    rw [resolve_eq]
    cases hlookup : t.lookup (address key) with
    | none => rfl
    | some text => exact absurd (resolve_eq_found_iff.2 hlookup) (h text)

section Kinds

variable {key : String} {t : MessageTree}

/-- A phrase finds the text under it at the root. -/
theorem resolve_phrase_eq_found_iff (h : t.Keyed) (hwords : 2 ≤ wordCount key) {text : String} :
    resolve key t = .found text ↔ ∃ cs, t = .node cs ∧ (key, .text text) ∈ cs := by
  rw [resolve_eq_found_iff, address_of_phrase hwords, MessageTree.lookup_eq_some_iff_reaches h,
    MessageTree.reaches_singleton_iff]

/-- Any other key finds the text to which the path leads that spells it. -/
theorem resolve_path_eq_found_iff (h : t.Keyed) (hwords : wordCount key ≤ 1) {text : String} :
    resolve key t = .found text ↔ ∃ path, Spells path key ∧ t.Reaches path (.text text) := by
  rw [resolve_eq_found_iff, address_of_path hwords, MessageTree.lookup_eq_some_iff_reaches h]
  constructor
  · exact fun hreaches => ⟨_, spells_iff.2 rfl, hreaches⟩
  · rintro ⟨path, hspells, hreaches⟩
    exact spells_iff.1 hspells ▸ hreaches

theorem resolve_phrase_eq_keyAsText_iff (hwords : 2 ≤ wordCount key) :
    resolve key t = .keyAsText ↔ ∀ text, resolve key t ≠ .found text := by
  rw [← resolve_eq_missing_iff, Resolution.missing, kind_eq_phrase_iff.2 hwords]

theorem resolve_path_eq_notFound_iff (hwords : wordCount key ≤ 1) :
    resolve key t = .notFound ↔ ∀ text, resolve key t ≠ .found text := by
  rw [← resolve_eq_missing_iff, Resolution.missing, kind_eq_path_iff.2 hwords]

end Kinds

/-- In a tree that is a text there is nothing under any address. -/
theorem resolve_text_ne_found (s key text : String) : resolve key (.text s) ≠ .found text := by
  have hne : address key ≠ [] := by
    unfold address pathSegments
    split
    · exact List.cons_ne_nil _ _
    · rw [splitAt_eq_splitOn]
      simp
  obtain ⟨name, path, haddress⟩ := List.exists_cons_of_ne_nil hne
  rw [Ne, resolve_eq_found_iff, haddress, MessageTree.lookup_cons_text]
  exact nofun

/-! ### The texts that keys return -/

/-- `t.Returns key path`: the key gives the text at the end of the path, and it gives any other text
that is put there instead. -/
structure MessageTree.Returns (t : MessageTree) (key : String) (path : List String) : Prop where
  found : ∃ text, t.lookup path = some text ∧ resolve key t = .found text
  follows : ∀ text, resolve key (t.setText path text) = .found text

/-- A key returns the text at the end of its address and no other. -/
theorem MessageTree.returns_iff {t : MessageTree} {key old : String} {path : List String}
    (h : t.lookup path = some old) : t.Returns key path ↔ path = address key := by
  constructor
  · intro hreturns
    -- two different texts cannot both be what is found elsewhere
    by_contra hne
    have hlookup : ∀ text, t.lookup (address key) = some text := by
      intro text
      have hfound := resolve_eq_found_iff.1 (hreturns.follows text)
      rwa [MessageTree.lookup_setText h, if_neg (Ne.symm hne)] at hfound
    exact absurd ((hlookup "").symm.trans (hlookup ".")) (by decide)
  · rintro rfl
    refine ⟨⟨old, h, resolve_eq_found_iff.2 h⟩, fun text => resolve_eq_found_iff.2 ?_⟩
    rw [MessageTree.lookup_setText h, if_pos rfl]

/-- The addresses of keys: the paths that spell a key of at most one word, and those of one name
with two words or more. -/
theorem exists_address_eq_iff {path : List String} (hne : path ≠ []) :
    (∃ key, path = address key) ↔
      (∀ name ∈ path, '.' ∉ name.toList) ∧ wordCount (".".intercalate path) ≤ 1 ∨
        ∃ name, path = [name] ∧ 2 ≤ wordCount name := by
  constructor
  · -- the key is a phrase or not, and says which of the two its address is
    rintro ⟨key, hkey⟩
    rcases Nat.lt_or_ge 1 (wordCount key) with hwords | hwords
    · rw [address_of_phrase hwords] at hkey
      exact Or.inr ⟨key, hkey, hwords⟩
    · rw [address_of_path hwords, ← spells_iff] at hkey
      exact Or.inl ⟨hkey.dotFree, hkey.join.symm ▸ hwords⟩
  · rintro (⟨hfree, hwords⟩ | ⟨name, rfl, hwords⟩)
    · refine ⟨".".intercalate path, ?_⟩
      rw [address_of_path hwords]
      exact spells_iff.1 ⟨hne, hfree, rfl⟩
    · exact ⟨name, (address_of_phrase hwords).symm⟩

/-! ### Which keys find which texts -/

/-- **Keys find exactly the addressable texts**, if no node has two children under one key.  A
phrase finds the text under itself at the root, and any other key the text at the end of the one
path that it spells.  The text at the end of a path is returned for some key if and only if the
names have no dots and spell a key of at most one word, or the path is a phrase alone. -/
theorem resolve_finds_addressable {t : MessageTree} (h : t.Keyed) :
    (∀ key, 2 ≤ wordCount key →
      (∀ text, resolve key t = .found text ↔ ∃ cs, t = .node cs ∧ (key, .text text) ∈ cs) ∧
      (resolve key t = .keyAsText ↔ ¬ ∃ text cs, t = .node cs ∧ (key, .text text) ∈ cs)) ∧
    (∀ key, wordCount key ≤ 1 →
      (∀ text, resolve key t = .found text ↔
        ∃ path, Spells path key ∧ t.Reaches path (.text text)) ∧
      (∀ path path', Spells path key → Spells path' key → path = path') ∧
      (resolve key t = .notFound ↔
        ¬ ∃ text path, Spells path key ∧ t.Reaches path (.text text))) ∧
    (∀ path text, path ≠ [] → t.Reaches path (.text text) →
      ((∃ key, t.Returns key path) ↔
        (∀ name ∈ path, '.' ∉ name.toList) ∧ wordCount (".".intercalate path) ≤ 1 ∨
          ∃ name, path = [name] ∧ 2 ≤ wordCount name)) ∧
    ∀ s, t = .text s → ∀ key text, resolve key t ≠ .found text := by
  refine ⟨fun key hwords => ⟨fun text => resolve_phrase_eq_found_iff h hwords, ?_⟩,
    fun key hwords => ⟨fun text => resolve_path_eq_found_iff h hwords, ?_, ?_⟩, ?_, ?_⟩
  · rw [resolve_phrase_eq_keyAsText_iff hwords, not_exists]
    exact forall_congr' fun text => not_congr (resolve_phrase_eq_found_iff h hwords)
  · intro path path' hpath hpath'
    rw [spells_iff.1 hpath, spells_iff.1 hpath']
  · rw [resolve_path_eq_notFound_iff hwords, not_exists]
    exact forall_congr' fun text => not_congr (resolve_path_eq_found_iff h hwords)
  · intro path text hne hreaches
    -- A key returns the text of its address, so the question is whether the path is one.
    rw [← exists_address_eq_iff hne]
    have hlookup := (MessageTree.lookup_eq_some_iff_reaches h).2 hreaches
    exact exists_congr fun key => MessageTree.returns_iff hlookup
  · rintro s rfl key text
    exact resolve_text_ne_found s key text

/-- A tree with a phrase at the root, a name and a phrase below it, and at the root a name that
looks like a path. -/
def MessageTree.sample : MessageTree :=
  .node [("Save changes", .text "Save"),
    ("user", .node [("name", .text "Name"), ("full name", .text "Full")]),
    ("user.name", .text "flat")]

theorem MessageTree.keyed_sample : MessageTree.sample.Keyed := by
  simp [MessageTree.sample, MessageTree.Keyed, MessageTree.KeyedAll, Entries.keys]

/-- The name that looks like a path hides behind the path, and no key comes to the phrase below the
root. -/
theorem resolve_finds_addressable_sample :
    MessageTree.sample.Keyed ∧
    (resolve "user.name" MessageTree.sample = .found "Name" ∧
      resolve "Save changes" MessageTree.sample = .found "Save" ∧
      resolve "user.full name" MessageTree.sample = .keyAsText) ∧
    (∃ key, MessageTree.sample.Returns key ["user", "name"]) ∧
    (¬ ∃ key, MessageTree.sample.Returns key ["user.name"]) ∧
    ¬ ∃ key, MessageTree.sample.Returns key ["user", "full name"] := by
  -- The tree is reached on three paths, of which a key can address the first only.
  have hname : MessageTree.sample.Reaches ["user", "name"] (.text "Name") :=
    .step (.tail _ (.head _)) (.step (.head _) (.here _))
  have hfull : MessageTree.sample.Reaches ["user", "full name"] (.text "Full") :=
    .step (.tail _ (.head _)) (.step (.tail _ (.head _)) (.here _))
  have hflat : MessageTree.sample.Reaches ["user.name"] (.text "flat") :=
    .step (.tail _ (.tail _ (.head _))) (.here _)
  obtain ⟨hphrase, hpath, hreturned, -⟩ := resolve_finds_addressable MessageTree.keyed_sample
  refine ⟨MessageTree.keyed_sample, ⟨?_, ?_, ?_⟩, ?_, ?_, ?_⟩
  · exact ((hpath "user.name" (by decide)).1 "Name").2
      ⟨["user", "name"], ⟨by decide, by decide, by decide⟩, hname⟩
  · exact ((hphrase "Save changes" (by decide)).1 "Save").2 ⟨_, rfl, List.mem_cons_self⟩
  · rw [(hphrase "user.full name" (by decide)).2]
    rintro ⟨text, cs, hcs, hmem⟩
    obtain rfl := MessageTree.node.inj hcs
    simp at hmem
  · exact (hreturned _ _ (by decide) hname).2 (Or.inl (by decide))
  · rw [hreturned _ _ (by decide) hflat]
    rintro (⟨hfree, -⟩ | ⟨name, heq, hwords⟩)
    · exact absurd hfree (by decide)
    · obtain rfl := (List.cons.inj heq).1
      exact absurd hwords (by decide)
  · rw [hreturned _ _ (by decide) hfull]
    rintro (⟨-, hwords⟩ | ⟨name, heq, -⟩)
    · exact absurd hwords (by decide)
    · simp at heq

end Phrasebook
