import Phrasebook.Config.Format
import Phrasebook.Proofs.Message.Document
import Phrasebook.Proofs.Result

/-!
# Reading parts of a configuration back

The JSON of a configuration may lack any of its fields, and it may have others that no configuration
has.  What is there is read back and what is missing has its default.

* `Config.Remains` says what is left of a table and what may stand beside it, and
  `Config.fields?_of_remains` what a reader finds there: each field that is kept, once.
* `Config.locale?_of_remains`, `Config.remote?_of_remains`, `Config.logging?_of_remains`: so a
  section is read with its own fields where they are kept and with those of the default section
  elsewhere.
* `Config.messages?_table`: catalogs are read back, in order, up to the limit of depth.
* `Config.Leaves` puts the parts of a configuration together, and `Config.parse_json_leaves` is the
  round trip.  With no field left out the configuration itself is read back, and with any of them
  left out catalogs keep their order.
-/

namespace Phrasebook

namespace Config

/-! ### What is left of a table -/

/-- `Remains names keep d d'`: the table `d'` has the entries of `d` that are kept, in any order,
and beside them texts under keys that are none of the names. -/
inductive Remains (names : List String) (keep : String → Bool) : Document → Document → Prop
  | table {entries entries' : Entries Document}
      (known : (entries'.filter fun entry => entry.1 ∈ names).Perm
        (entries.filter fun entry => keep entry.1))
      (unknown : ∀ entry ∈ entries', entry.1 ∉ names → ∃ s, entry.2 = .text s) :
      Remains names keep (.table entries) (.table entries')

variable {names : List String} {keep : String → Bool} {d d' : Document}

/-- A field stands where it is kept, and only once. -/
theorem valuesAt_of_remains {entries entries' : Entries Document}
    (hnodup : (Entries.keys entries).Nodup)
    (hperm : (entries'.filter fun entry => entry.1 ∈ names).Perm
      (entries.filter fun entry => keep entry.1))
    {name : String} {value : Document} (hname : name ∈ names) (hmem : (name, value) ∈ entries) :
    Document.valuesAt name entries' = if keep name then [value] else [] := by
  have hone := hperm.filter fun entry => entry.1 = name
  rw [Entries.filter_filter_key (fun key => key ∈ names), Entries.filter_filter_key keep,
    if_pos (decide_eq_true hname), Entries.filter_key_eq hnodup hmem] at hone
  -- one entry at most stands under the name, so its order is settled
  unfold Document.valuesAt
  split_ifs at hone ⊢
  · rw [List.perm_singleton.1 hone]
    rfl
  · rw [List.perm_nil.1 hone]
    rfl

/-- The value of a field, if it is kept. -/
def kept (keep : String → Bool) (entry : String × Document) : Option Document :=
  if keep entry.1 then some entry.2 else none

/-- A reader finds the fields that are kept, whatever stands beside them. -/
theorem fields?_of_remains {values : List Document} (hnodup : names.Nodup)
    (hlength : names.length = values.length)
    (h : Remains names keep (.table (names.zip values)) d) :
    Json.fields? names d = some ((names.zip values).map (kept keep)) := by
  have hkeys : Entries.keys (names.zip values) = names :=
    List.map_fst_zip (Nat.le_of_eq hlength)
  cases h with
  | @table _ entries' hperm _ =>
    show names.mapM _ = _
    conv_lhs => rw [← hkeys, Entries.keys, List.mapM_map]
    refine mapM_eq_some_map ?_
    rintro ⟨name, value⟩ hmem
    have hvalues := valuesAt_of_remains (hkeys.symm ▸ hnodup) hperm (List.of_mem_zip hmem).1 hmem
    dsimp only [Function.comp_apply]
    rw [hvalues, kept]
    split_ifs <;> rfl

/-- What is left of a document that can be written can be written, too. -/
theorem Remains.isPlain (h : Remains names keep d d') (hd : Json.IsPlain d) :
    Json.IsPlain d' := by
  have htext : ∀ s, Json.IsPlain (.text s) := fun s =>
    (Document.all_iff_self (by simp) (by simp)).2 (by simp)
  cases h with
  | @table entries entries' hperm hunknown =>
    unfold Json.IsPlain at hd htext ⊢
    rw [Document.all_table_iff] at hd ⊢
    refine ⟨by simp, fun entry hentry => ?_⟩
    by_cases hname : entry.1 ∈ names
    · have hmem : entry ∈ entries.filter fun entry => keep entry.1 :=
        hperm.mem_iff.1 (List.mem_filter.2 ⟨hentry, decide_eq_true hname⟩)
      exact hd.2 entry (List.mem_of_mem_filter hmem)
    · obtain ⟨s, hs⟩ := hunknown entry hentry hname
      rw [hs]
      exact htext s

/-! ### Sections -/

/-- A field has its own value where it is kept, and its default elsewhere. -/
theorem field?_kept {β : Type} {read? : Document → Option β} {initial x : β} {value : Document}
    (h : read? value = some x) (keep : String → Bool) (name : String) :
    field? initial read? (kept keep (name, value)) = some (if keep name then x else initial) := by
  unfold kept
  cases keep name
  · rfl
  · exact h

end Config

namespace LocaleSection

/-- The section with its own fields where they are kept and the default ones elsewhere. -/
def restrict (keep : String → Bool) (s : LocaleSection) : LocaleSection where
  default := if keep "default_locale" then s.default else initial.default
  fallback := if keep "fallback_locale" then s.fallback else initial.fallback

end LocaleSection

namespace RemoteSection

/-- The section with its own fields where they are kept and the default ones elsewhere. -/
def restrict (keep : String → Bool) (s : RemoteSection) : RemoteSection where
  url := if keep "translation_url" then s.url else initial.url
  param := if keep "lang_query_param" then s.param else initial.param
  timeout := if keep "timeout_secs" then s.timeout else initial.timeout

end RemoteSection

namespace LoggingSection

/-- The section with its own fields where they are kept and the default ones elsewhere. -/
def restrict (keep : String → Bool) (s : LoggingSection) : LoggingSection where
  level := if keep "level" then s.level else initial.level
  json := if keep "json_format" then s.json else initial.json

end LoggingSection

namespace Config

variable {keep : String → Bool} {d : Document}

theorem locale?_of_remains {s : LocaleSection}
    (h : Remains LocaleSection.fields keep s.toDocument d) :
    Json.reader.locale? d = some (s.restrict keep) := by
  have hfields := fields?_of_remains (by decide) rfl h
  have hdefault : Json.text? (.text s.default) = some s.default := rfl
  have hfallback : Json.text? (.text s.fallback) = some s.fallback := rfl
  unfold Reader.locale?
  show (Json.fields? LocaleSection.fields d).bind _ = _
  rw [hfields]
  show (field? LocaleSection.initial.default Json.text? _).bind (fun _ =>
    (field? LocaleSection.initial.fallback Json.text? _).bind _) = _
  rw [field?_kept hdefault, field?_kept hfallback]
  rfl

theorem natural?_ofNat {n : ℕ} (h : n < 2 ^ 64) :
    Json.natural? (.number (.ofNat n)) = some n := by
  have hnumeral : (Numeral.ofNat n).natural? = some n := rfl
  have hword : n < UInt64.size := h
  rw [Json.natural?, hnumeral, Option.filter_some, if_pos (decide_eq_true hword)]

/-- A URL is a text in the document, and a missing one is no value there. -/
theorem exists_toDocument_eq (s : RemoteSection) :
    ∃ url, Json.optionalText? url = some s.url ∧
      s.toDocument = .table
        (RemoteSection.fields.zip [url, .text s.param, .number (.ofNat s.timeout)]) := by
  unfold RemoteSection.toDocument
  cases s.url with
  | none => exact ⟨.null, rfl, rfl⟩
  | some url => exact ⟨.text url, rfl, rfl⟩

theorem remote?_of_remains {s : RemoteSection} (htimeout : s.timeout < 2 ^ 64)
    (h : Remains RemoteSection.fields keep s.toDocument d) :
    Json.reader.remote? d = some (s.restrict keep) := by
  obtain ⟨url, hurl, hdocument⟩ := exists_toDocument_eq s
  rw [hdocument] at h
  have hfields := fields?_of_remains (by decide) rfl h
  have hparam : Json.text? (.text s.param) = some s.param := rfl
  unfold Reader.remote?
  show (Json.fields? RemoteSection.fields d).bind _ = _
  rw [hfields]
  show (field? RemoteSection.initial.url Json.optionalText? _).bind (fun _ =>
    (field? RemoteSection.initial.param Json.text? _).bind (fun _ =>
      (field? RemoteSection.initial.timeout Json.natural? _).bind _)) = _
  rw [field?_kept hurl, field?_kept hparam, field?_kept (natural?_ofNat htimeout)]
  rfl

theorem logging?_of_remains {s : LoggingSection}
    (h : Remains LoggingSection.fields keep s.toDocument d) :
    Json.reader.logging? d = some (s.restrict keep) := by
  have hfields := fields?_of_remains (by decide) rfl h
  have hlevel : Json.text? (.text s.level) = some s.level := rfl
  have hjson : Json.bool? (.bool s.json) = some s.json := rfl
  unfold Reader.logging?
  show (Json.fields? LoggingSection.fields d).bind _ = _
  rw [hfields]
  show (field? LoggingSection.initial.level Json.text? _).bind (fun _ =>
    (field? LoggingSection.initial.json Json.bool? _).bind _) = _
  rw [field?_kept hlevel, field?_kept hjson]
  rfl

/-! ### Catalogs -/

/-- Catalogs that are keyed and not nested too deep are read back in order. -/
theorem messages?_table {m : OrderedMap MessageTree} (hkeyed : ∀ entry ∈ m.toList, entry.2.Keyed)
    (hdepth : ∀ entry ∈ m.toList, entry.2.depth ≤ 125) :
    Json.reader.messages? (.table (MessageTree.entriesOf m.toList)) = some m := by
  have hlimit : ¬ MessageTree.depthLimit ≤
      (Document.table (MessageTree.entriesOf m.toList)).depth := by
    have hnode : (MessageTree.node m.toList).depth ≤ 126 :=
      MessageTree.depth_node_le hdepth
    have htable : (Document.table (MessageTree.entriesOf m.toList)).depth =
        (MessageTree.node m.toList).depth := MessageTree.depth_toDocument (.node m.toList)
    rw [htable]
    exact Nat.not_le.2 (Nat.lt_succ_of_le hnode)
  have hpairs : MessageTree.pairsOf? (MessageTree.entriesOf m.toList) = some m.toList := by
    rw [MessageTree.pairsOf?_eq_some_iff, MessageTree.entriesOf_eq_map, List.forall₂_map_left_iff]
    refine List.forall₂_same.2 fun entry hentry => ⟨rfl, ?_⟩
    exact (hkeyed entry hentry).ofDocument?_toDocument
  -- The catalogs stand one level deeper than in a node of their own.
  show (Json.catalogs? (.table (MessageTree.entriesOf m.toList))).bind _ = _
  rw [Json.catalogs?, if_neg hlimit, hpairs]
  exact congrArg some m.ofList_toList

/-! ### The whole -/

/-- Which fields of a configuration are left: its sections, and the fields inside three of them. -/
structure Selection where
  sections : String → Bool
  locale : String → Bool
  remote : String → Bool
  logging : String → Bool

/-- All fields. -/
def Selection.all : Selection :=
  ⟨fun _ => true, fun _ => true, fun _ => true, fun _ => true⟩

/-- The configuration with its own fields where they are left and the default ones elsewhere. -/
def restrict (k : Selection) (c : Config) : Config where
  locale := if k.sections "locale" then c.locale.restrict k.locale else initial.locale
  remote := if k.sections "remote" then c.remote.restrict k.remote else initial.remote
  logging := if k.sections "logging" then c.logging.restrict k.logging else initial.logging
  messages := if k.sections "messages" then c.messages else initial.messages

/-- `c.Leaves k d`: the document `d` has the fields of `c` that are left, in any order, and may have
texts under keys that no field has, beside the sections and inside three of them. -/
def Leaves (c : Config) (k : Selection) (d : Document) : Prop :=
  ∃ locale remote logging,
    Remains LocaleSection.fields k.locale c.locale.toDocument locale ∧
    Remains RemoteSection.fields k.remote c.remote.toDocument remote ∧
    Remains LoggingSection.fields k.logging c.logging.toDocument logging ∧
    Remains fields k.sections (.table (fields.zip [locale, remote, logging,
      .table (MessageTree.entriesOf c.messages.toList)])) d

/-- A document with the entries of a table that are kept. -/
def only (keep : String → Bool) : Document → Document
  | .table entries => .table (entries.filter fun entry => keep entry.1)
  | d => d

/-- The document of a configuration without the fields that are left out. -/
def reduced (k : Selection) (c : Config) : Document :=
  only k.sections (.table (fields.zip [only k.locale c.locale.toDocument,
    only k.remote c.remote.toDocument, only k.logging c.logging.toDocument,
    .table (MessageTree.entriesOf c.messages.toList)]))

theorem remains_only (names : List String) (values : List Document) (keep : String → Bool) :
    Remains names keep (.table (names.zip values)) (only keep (.table (names.zip values))) := by
  have hname : ∀ entry ∈ (names.zip values).filter (fun entry => keep entry.1),
      entry.1 ∈ names := fun _ hentry =>
    (List.of_mem_zip (List.mem_of_mem_filter hentry)).1
  refine .table ?_ fun entry hentry hnot => absurd (hname entry hentry) hnot
  rw [List.filter_eq_self.2 fun entry hentry => decide_eq_true (hname entry hentry)]

theorem leaves_reduced (k : Selection) (c : Config) : c.Leaves k (c.reduced k) :=
  ⟨_, _, _, remains_only _ _ _, remains_only _ _ _, remains_only _ _ _, remains_only _ _ _⟩

theorem reduced_all (c : Config) : c.reduced .all = c.toDocument :=
  rfl

theorem restrict_all (c : Config) : c.restrict .all = c :=
  rfl

variable {c : Config} {k : Selection}

theorem read?_of_leaves (hkeyed : ∀ entry ∈ c.messages.toList, entry.2.Keyed)
    (hdepth : ∀ entry ∈ c.messages.toList, entry.2.depth ≤ 125)
    (htimeout : c.remote.timeout < 2 ^ 64) (h : c.Leaves k d) :
    read? Json.reader d = some (c.restrict k) := by
  obtain ⟨locale, remote, logging, hlocale, hremote, hlogging, hd⟩ := h
  have hfields := fields?_of_remains (by decide) rfl hd
  unfold read?
  show (Json.fields? fields d).bind _ = _
  rw [hfields]
  show (field? LocaleSection.initial Json.reader.locale? _).bind (fun _ =>
    (field? RemoteSection.initial Json.reader.remote? _).bind (fun _ =>
      (field? LoggingSection.initial Json.reader.logging? _).bind (fun _ =>
        (field? OrderedMap.empty Json.reader.messages? _).bind _))) = _
  rw [field?_kept (locale?_of_remains hlocale), field?_kept (remote?_of_remains htimeout hremote),
    field?_kept (logging?_of_remains hlogging), field?_kept (messages?_table hkeyed hdepth)]
  rfl

/-! ### What can be written -/

theorem isPlain_zip (names : List String) {values : List Document}
    (h : ∀ value ∈ values, Json.IsPlain value) : Json.IsPlain (.table (names.zip values)) := by
  unfold Json.IsPlain at h ⊢
  rw [Document.all_table_iff]
  exact ⟨by simp, fun entry hentry => h _ (List.of_mem_zip hentry).2⟩

theorem isPlain_of_leaves (htimeout : c.remote.timeout < 2 ^ 64) (h : c.Leaves k d) :
    Json.IsPlain d := by
  have hword : (Numeral.ofNat c.remote.timeout).IsWord := ⟨rfl, rfl, htimeout⟩
  have hself : ∀ {v : Document}, (∀ items, v ≠ .list items) → (∀ entries, v ≠ .table entries) →
      (Json.IsPlain v ↔ v ≠ .unreadable ∧ ∀ n, v = .number n → n.IsWord) :=
    fun hlist htable => Document.all_iff_self hlist htable
  obtain ⟨locale, remote, logging, hlocale, hremote, hlogging, hd⟩ := h
  have hmessages : Json.IsPlain (.table (MessageTree.entriesOf c.messages.toList)) :=
    (MessageTree.isCatalog_toDocument (.node c.messages.toList)).isPlain
  have hlocale' : Json.IsPlain c.locale.toDocument :=
    isPlain_zip _ (by simp [hself])
  have hremote' : Json.IsPlain c.remote.toDocument := by
    refine isPlain_zip _ ?_
    cases c.remote.url <;> simp [hself, hword]
  have hlogging' : Json.IsPlain c.logging.toDocument :=
    isPlain_zip _ (by simp [hself])
  -- What is left of a plain table is plain, with texts beside it as well.
  refine hd.isPlain (isPlain_zip _ ?_)
  simp [hlocale.isPlain hlocale', hremote.isPlain hremote', hlogging.isPlain hlogging', hmessages]

/-- **Round trip with defaults**: if the message trees of a configuration are keyed and of at most
125 nested nodes each, and the timeout fits a word of 64 bits, then any selection of its fields is
read back from JSON, with the default values of the fields that are left out.  The fields may stand
in any order, with texts under other keys beside them, and in any spelling, and there is such a text
for each selection. -/
theorem parse_json_leaves (c : Config) (hkeyed : ∀ entry ∈ c.messages.toList, entry.2.Keyed)
    (hdepth : ∀ entry ∈ c.messages.toList, entry.2.depth ≤ 125)
    (htimeout : c.remote.timeout < 2 ^ 64) :
    (∀ (k : Selection) (d : Document), c.Leaves k d →
      Json.Written d (Json.print d).toList ∧
        ∀ text : String, Json.Written d text.toList →
          Format.json.parse text = .ok (c.restrict k)) ∧
    (∀ k : Selection, c.Leaves k (c.reduced k)) ∧
    Format.json.parse c.print = .ok c := by
  have hparts : ∀ (k : Selection) (d : Document), c.Leaves k d →
      Json.Written d (Json.print d).toList ∧
        ∀ text : String, Json.Written d text.toList →
          Format.json.parse text = .ok (c.restrict k) := by
    intro k d h
    constructor
    · rw [Json.print, String.toList_ofList]
      exact Json.written_render (isPlain_of_leaves htimeout h)
    · intro text htext
      have hparse : Json.parse? text = some (c.restrict k) := by
        rw [Json.parse?, Json.parseAll, Json.parse_of_written htext]
        exact read?_of_leaves hkeyed hdepth htimeout h
      rw [Format.parse, Format.parse?, hparse]
  -- With no field left out, the document is that of the configuration.
  have hall : c.Leaves .all c.toDocument := reduced_all c ▸ leaves_reduced .all c
  obtain ⟨hwritten, hread⟩ := hparts .all c.toDocument hall
  have hwhole := hread c.print hwritten
  rw [restrict_all] at hwhole
  exact ⟨hparts, fun k => leaves_reduced k c, hwhole⟩

/-- A configuration with a catalog of its own. -/
def sampleConfig : Config where
  locale := ⟨"de", "fr"⟩
  remote := ⟨some "app:catalogs", "l", 5⟩
  logging := ⟨"debug", true⟩
  messages := OrderedMap.ofList [("de", .node [("a", .text "b")])]

/-- All of its sections but one, and one field of two of them. -/
def sampleSelection : Selection where
  sections name := name != "logging"
  locale name := name == "default_locale"
  remote name := name == "timeout_secs"
  logging _ := true

/-- The fields that are left, in another order and with others beside them. -/
def sampleDocument : Document :=
  .table [("messages", .table [("de", .table [("a", .text "b")])]),
    ("remote", .table [("note", .text "x"), ("timeout_secs", .number (.ofNat 5))]),
    ("locale", .table [("default_locale", .text "de")]), ("locales", .text "y")]

/-- What is missing has its default, beside what is there. -/
theorem parse_json_leaves_sample :
    Format.json.parse ("\x7b\"messages\":\x7b\"de\":\x7b\"a\":\"b\"\x7d\x7d," ++
        "\"remote\":\x7b\"note\":\"x\",\"timeout_secs\":5\x7d," ++
        "\"locale\":\x7b\"default_locale\":\"de\"\x7d,\"locales\":\"y\"\x7d") =
      .ok ⟨⟨"de", LocaleSection.initial.fallback⟩,
        ⟨RemoteSection.initial.url, RemoteSection.initial.param, 5⟩, LoggingSection.initial,
        sampleConfig.messages⟩ := by
  -- The text is what is printed for the sample document, so its layout is settled.
  have hprint : Json.print sampleDocument =
      "\x7b\"messages\":\x7b\"de\":\x7b\"a\":\"b\"\x7d\x7d," ++
        "\"remote\":\x7b\"note\":\"x\",\"timeout_secs\":5\x7d," ++
        "\"locale\":\x7b\"default_locale\":\"de\"\x7d,\"locales\":\"y\"\x7d" := by
    decide +kernel
  have hcatalogs : sampleConfig.messages.toList = [("de", .node [("a", .text "b")])] := rfl
  have hkeyed : ∀ entry ∈ sampleConfig.messages.toList, entry.2.Keyed := by
    rw [hcatalogs]
    simp [MessageTree.Keyed, MessageTree.KeyedAll, Entries.keys]
  have hdepth : ∀ entry ∈ sampleConfig.messages.toList, entry.2.depth ≤ 125 := by
    rw [hcatalogs]
    simp [MessageTree.depth, MessageTree.depthAll]
  have hlocale : Remains LocaleSection.fields sampleSelection.locale sampleConfig.locale.toDocument
      (.table [("default_locale", .text "de")]) :=
    .table (.refl _) (by simp [LocaleSection.fields])
  have hremote : Remains RemoteSection.fields sampleSelection.remote sampleConfig.remote.toDocument
      (.table [("note", .text "x"), ("timeout_secs", .number (.ofNat 5))]) :=
    .table (.refl _) (by simp [RemoteSection.fields])
  have horder : ∀ messages remote locale : Document,
      [("messages", messages), ("remote", remote), ("locale", locale)].Perm
        [("locale", locale), ("remote", remote), ("messages", messages)] :=
    fun messages remote locale =>
      List.reverse_perm [("locale", locale), ("remote", remote), ("messages", messages)]
  have hleaves : sampleConfig.Leaves sampleSelection sampleDocument :=
    ⟨_, _, _, hlocale, hremote, remains_only _ _ _, .table (horder _ _ _) (by simp [fields])⟩
  obtain ⟨hparts, -⟩ := parse_json_leaves sampleConfig hkeyed hdepth (by decide)
  obtain ⟨hwritten, hread⟩ := hparts sampleSelection sampleDocument hleaves
  rw [← hprint]
  exact hread _ hwritten

end Config

end Phrasebook
