import Phrasebook.Config.Validation
import Phrasebook.Proofs.Result
import Phrasebook.Proofs.Translator.Addressed

/-!
# What validation says

Each field of a configuration has a rule, and `Config.rules` lists the rules in order: those of the
locales, one for each key of a catalog, and those of the parameter, the time and the URL.  A check
enforces a list of rules if it passes when all are kept, and names the field of the first rule that
is not kept otherwise (`Enforces`).  Each single check enforces its rule, and checks one behind the
other enforce the rules of all (`Enforces.andThen`), so that validation enforces the whole list
(`enforces_validate`).

* `Config.validate_names_first_fault` says which configurations are valid, and which field is named
  if one is not.
-/

namespace Phrasebook

/-- The code is a language tag. -/
def LanguageTag.IsTag (code : String) : Prop :=
  check code = .ok ()

namespace Config

/-! ### Rules in order -/

/-- A rule for the value of a field. -/
structure Rule where
  /-- The field, as names with dots between them. -/
  field : String
  /-- The value of the field keeps the rule. -/
  Kept : Prop

/-- The rule is not kept, and all rules before it are. -/
def FirstBroken (rules : List Rule) (rule : Rule) : Prop :=
  ∃ before after, rules = before ++ rule :: after ∧ (∀ r ∈ before, r.Kept) ∧ ¬ rule.Kept

/-- `Enforces rules result`: the result of a check that passes if all rules are kept, and names the
field of the first rule that is not kept otherwise. -/
inductive Enforces (rules : List Rule) : Except Failure Unit → Prop
  | passes (kept : ∀ rule ∈ rules, rule.Kept) : Enforces rules (.ok ())
  | refuses {rule : Rule} {text : String} (first : FirstBroken rules rule) :
      Enforces rules (.error (.validation text (some rule.field)))

section Enforces

variable {rules rules' : List Rule} {rule rule' : Rule} {result result' : Except Failure Unit}

theorem FirstBroken.mem (h : FirstBroken rules rule) : rule ∈ rules := by
  obtain ⟨before, after, rfl, -, -⟩ := h
  simp

theorem FirstBroken.broken (h : FirstBroken rules rule) : ¬ rule.Kept := by
  obtain ⟨before, after, -, -, hbroken⟩ := h
  exact hbroken

theorem firstBroken_cons_iff {first : Rule} :
    FirstBroken (first :: rules) rule ↔
      first = rule ∧ ¬ rule.Kept ∨ first.Kept ∧ FirstBroken rules rule := by
  have hfirst : ∀ list, FirstBroken list rule ↔ ∃ before r after, list = before ++ r :: after ∧
      (∀ b ∈ before, b.Kept) ∧ r = rule ∧ ¬ rule.Kept := by
    intro list
    constructor
    · rintro ⟨before, after, heq, hbefore, hbroken⟩
      exact ⟨before, rule, after, heq, hbefore, rfl, hbroken⟩
    · rintro ⟨before, _, after, heq, hbefore, rfl, hbroken⟩
      exact ⟨before, after, heq, hbefore, hbroken⟩
  rw [hfirst, hfirst]
  exact exists_first_cons_iff

/-- No two rules are the first that is not kept. -/
theorem FirstBroken.unique (h : FirstBroken rules rule) (h' : FirstBroken rules rule') :
    rule = rule' := by
  induction rules with
  | nil => exact absurd h.mem List.not_mem_nil
  | cons first rules ih =>
    rw [firstBroken_cons_iff] at h h'
    rcases h with ⟨rfl, hbroken⟩ | ⟨hkept, h⟩
    · rcases h' with ⟨heq, -⟩ | ⟨hkept, -⟩
      · exact heq
      · exact absurd hkept hbroken
    · rcases h' with ⟨rfl, hbroken⟩ | ⟨-, h'⟩
      · exact absurd hkept hbroken
      · exact ih h h'

/-! ### Checks one behind the other -/

/-- Two checks one behind the other enforce the rules of both, those of the first one first. -/
theorem Enforces.andThen (h : Enforces rules result) (h' : Enforces rules' result') :
    Enforces (rules ++ rules') (result >>= fun _ => result') := by
  cases h with
  | passes kept =>
    cases h' with
    | passes kept' => exact .passes (List.forall_mem_append.2 ⟨kept, kept'⟩)
    | refuses first =>
      obtain ⟨before, after, rfl, hbefore, hbroken⟩ := first
      refine .refuses ⟨rules ++ before, after, by simp, ?_, hbroken⟩
      exact List.forall_mem_append.2 ⟨kept, hbefore⟩
  | refuses first =>
    obtain ⟨before, after, rfl, hbefore, hbroken⟩ := first
    exact .refuses ⟨before, after ++ rules', by simp, hbefore, hbroken⟩

theorem Enforces.eq_ok_iff (h : Enforces rules result) :
    result = .ok () ↔ ∀ rule ∈ rules, rule.Kept := by
  cases h with
  | passes kept => exact iff_of_true rfl kept
  | refuses first => exact iff_of_false nofun fun hkept => first.broken (hkept _ first.mem)

theorem Enforces.eq_error_iff (h : Enforces rules result) {field : String} :
    (∃ text, result = .error (.validation text (some field))) ↔
      ∃ rule, FirstBroken rules rule ∧ rule.field = field := by
  cases h with
  | passes kept =>
    refine iff_of_false (fun ⟨_, heq⟩ => nomatch heq) ?_
    rintro ⟨rule, hfirst, -⟩
    exact hfirst.broken (kept rule hfirst.mem)
  | @refuses rule text first =>
    constructor
    · rintro ⟨text', heq⟩
      exact ⟨rule, first, (Option.some.inj (Failure.validation.inj (Except.error.inj heq)).2)⟩
    · rintro ⟨rule', hfirst, rfl⟩
      exact ⟨text, by rw [first.unique hfirst]⟩

end Enforces

/-! ### The checks of fields -/

theorem enforces_validateLocale (code field : String) :
    Enforces [⟨field, LanguageTag.IsTag code⟩] (validateLocale code field) := by
  unfold validateLocale
  cases hcheck : LanguageTag.check code with
  | ok _ => exact .passes (by simpa [LanguageTag.IsTag] using hcheck)
  | error fault => exact .refuses ⟨[], [], rfl, by simp, by simp [LanguageTag.IsTag, hcheck]⟩

/-- The loop over the keys of catalogs enforces one rule for each, in order. -/
theorem enforces_validateLocales (locales : List String) :
    Enforces (locales.map fun locale => ⟨"messages." ++ locale, LanguageTag.IsTag locale⟩)
      (validateLocales locales) := by
  induction locales with
  | nil => exact .passes (by simp)
  | cons locale rest ih =>
    have hstep : validateLocales (locale :: rest) =
        (validateLocale locale ("messages." ++ locale) >>= fun _ => validateLocales rest) := by
      rw [validateLocales]
      cases validateLocale locale ("messages." ++ locale) <;> rfl
    rw [hstep]
    exact (enforces_validateLocale locale _).andThen ih

theorem enforces_validateParam (param : String) :
    Enforces [⟨"remote.lang_query_param", ∃ c ∈ param.toList, ¬ Text.isBlank c⟩]
      (validateParam param) := by
  have hblank : Text.allBlank param.toList = true ↔ ¬ ∃ c ∈ param.toList, ¬ Text.isBlank c := by
    simp [Text.allBlank]
  unfold validateParam
  split_ifs with h
  · exact .refuses ⟨[], [], rfl, by simp, hblank.1 h⟩
  · exact .passes (by simpa [hblank] using h)

theorem enforces_validateTimeout (timeout : ℕ) :
    Enforces [⟨"remote.timeout_secs", 0 < timeout⟩] (validateTimeout timeout) := by
  unfold validateTimeout
  split_ifs with h
  · exact .refuses ⟨[], [], rfl, by simp, by simp [h]⟩
  · exact .passes (by simpa using Nat.pos_of_ne_zero h)

theorem enforces_validateUrl (url : Option String) :
    Enforces [⟨"remote.translation_url", Addressed url⟩] (validateUrl url) := by
  unfold validateUrl
  cases url with
  | none => exact .passes (by simp [Addressed])
  | some text =>
    dsimp only
    cases hparse : Url.parse text with
    | ok u => exact .passes (by simp [Addressed, hparse])
    | error fault => exact .refuses ⟨[], [], rfl, by simp, by simp [Addressed, hparse]⟩

/-! ### Validation -/

/-- The rules of a configuration, in the order in which they are checked. -/
def rules (c : Config) : List Rule :=
  ⟨"locale.default_locale", LanguageTag.IsTag c.locale.default⟩ ::
    ⟨"locale.fallback_locale", LanguageTag.IsTag c.locale.fallback⟩ ::
    (c.messages.keys.map fun locale => ⟨"messages." ++ locale, LanguageTag.IsTag locale⟩) ++
    [⟨"remote.lang_query_param", ∃ ch ∈ c.remote.param.toList, ¬ Text.isBlank ch⟩,
      ⟨"remote.timeout_secs", 0 < c.remote.timeout⟩,
      ⟨"remote.translation_url", Addressed c.remote.url⟩]

theorem enforces_validate (c : Config) : Enforces c.rules c.validate :=
  (enforces_validateLocale _ _).andThen ((enforces_validateLocale _ _).andThen
    ((enforces_validateLocales _).andThen ((enforces_validateParam _).andThen
      ((enforces_validateTimeout _).andThen (enforces_validateUrl _)))))

theorem map_field_rules (c : Config) :
    c.rules.map Rule.field =
      ["locale.default_locale", "locale.fallback_locale"] ++
        c.messages.keys.map ("messages." ++ ·) ++
        ["remote.lang_query_param", "remote.timeout_secs", "remote.translation_url"] := by
  simp [rules, Function.comp_def]

theorem messages_append_ne {field : String} (h : field.toList.head? ≠ some 'm') (locale : String) :
    "messages." ++ locale ≠ field := by
  rintro rfl
  simp [String.toList_append] at h

/-- No two rules have the same field, so that a field tells which rule is not kept. -/
theorem nodup_map_field_rules (c : Config) : (c.rules.map Rule.field).Nodup := by
  have hinj : Function.Injective ("messages." ++ · : String → String) := by
    intro a b h
    rw [← String.toList_inj] at h ⊢
    simpa [String.toList_append] using h
  have hmessages : (c.messages.keys.map ("messages." ++ ·)).Nodup :=
    List.Nodup.map hinj c.messages.nodup
  -- The fields of catalogs begin with another letter than those in front and behind.
  rw [map_field_rules, List.append_assoc]
  refine List.nodup_append.2 ⟨by decide, List.nodup_append.2 ⟨hmessages, by decide, ?_⟩, ?_⟩
  · rintro _ hmem field hfield
    obtain ⟨locale, -, rfl⟩ := List.mem_map.1 hmem
    have hhead : ∀ field ∈ ["remote.lang_query_param", "remote.timeout_secs",
        "remote.translation_url"], field.toList.head? ≠ some 'm' := by decide
    exact messages_append_ne (hhead field hfield) locale
  · intro field hfield other hother
    have hhead : ∀ field ∈ ["locale.default_locale", "locale.fallback_locale"],
        field.toList.head? ≠ some 'm' := by decide
    rcases List.mem_append.1 hother with hmem | hmem
    · obtain ⟨locale, -, rfl⟩ := List.mem_map.1 hmem
      exact (messages_append_ne (hhead field hfield) locale).symm
    · have hapart : ∀ a ∈ ["locale.default_locale", "locale.fallback_locale"],
          ∀ b ∈ ["remote.lang_query_param", "remote.timeout_secs", "remote.translation_url"],
            a ≠ b := by decide
      exact hapart field hfield other hmem

/-- **Validation accepts the valid configurations and names the first fault of any other.**  The
failure names a field exactly if the rule of this field is the first in `Config.rules` that is not
kept.  No two rules have one field, so the name tells which rule that is. -/
theorem validate_names_first_fault (c : Config) :
    (c.validate = .ok () ↔
      LanguageTag.IsTag c.locale.default ∧ LanguageTag.IsTag c.locale.fallback ∧
        (∀ locale ∈ c.messages.keys, LanguageTag.IsTag locale) ∧
        (∃ ch ∈ c.remote.param.toList, ¬ Text.isBlank ch) ∧ 0 < c.remote.timeout ∧
        Addressed c.remote.url) ∧
    (c.validate = .ok () ∨ ∃ text field, c.validate = .error (.validation text (some field))) ∧
    (∀ field, (∃ text, c.validate = .error (.validation text (some field))) ↔
      ∃ rule, FirstBroken c.rules rule ∧ rule.field = field) ∧
    (c.rules.map Rule.field).Nodup := by
  have henforces := c.enforces_validate
  refine ⟨?_, ?_, fun field => henforces.eq_error_iff, c.nodup_map_field_rules⟩
  · -- To keep all rules is to keep each of them.
    rw [henforces.eq_ok_iff]
    simp [rules, or_imp, forall_and]
  · generalize c.validate = result at henforces
    cases henforces with
    | passes _ => exact Or.inl rfl
    | refuses _ => exact Or.inr ⟨_, _, rfl⟩

/-- A configuration with faults in two catalogs, in the parameter, the time and the URL. -/
def faulty : Config :=
  { initial with
    locale := ⟨"de", "en"⟩
    messages := OrderedMap.ofList [("fr", .empty), ("en_US!", .empty), ("!", .empty)]
    remote := ⟨some "::nope", "  ", 0⟩ }

/-- The first key that is no language tag is named, and nothing behind it. -/
theorem validate_names_first_fault_faulty :
    (∃ text, faulty.validate = .error (.validation text (some "messages.en_US!"))) ∧
      ¬ ∃ text, faulty.validate = .error (.validation text (some "remote.timeout_secs")) := by
  obtain ⟨-, -, hfield, -⟩ := validate_names_first_fault faulty
  have hkept : LanguageTag.IsTag "de" ∧ LanguageTag.IsTag "en" ∧ LanguageTag.IsTag "fr" := by
    unfold LanguageTag.IsTag
    decide +kernel
  have hbroken : ¬ LanguageTag.IsTag "en_US!" := by
    unfold LanguageTag.IsTag
    decide +kernel
  -- The rules in front are kept, so that the first broken one is that of the second catalog.
  have hfirst : FirstBroken faulty.rules ⟨"messages.en_US!", LanguageTag.IsTag "en_US!"⟩ :=
    ⟨[⟨"locale.default_locale", LanguageTag.IsTag "de"⟩,
        ⟨"locale.fallback_locale", LanguageTag.IsTag "en"⟩,
        ⟨"messages.fr", LanguageTag.IsTag "fr"⟩],
      _, rfl, by simpa using hkept, hbroken⟩
  refine ⟨(hfield _).2 ⟨_, hfirst, rfl⟩, fun htimeout => ?_⟩
  obtain ⟨rule, hrule, hname⟩ := (hfield _).1 htimeout
  rw [hrule.unique hfirst] at hname
  exact absurd hname (by decide)

end Config

end Phrasebook
