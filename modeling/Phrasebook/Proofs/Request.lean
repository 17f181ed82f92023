import Phrasebook.Proofs.Url.Form
import Phrasebook.Proofs.Url.Ideographs
import Phrasebook.Request

/-!
# What a request asks for

The request for a locale goes to the base URL with the parameter set to the locale.  The query is
read, changed as a list of pairs, and written again, so that the law rests on the pairs that are
written being those that are read (`Url.Form.parse_render`).

* `Request.make_eq_ok_iff`: there is a request exactly if the base is a URL.
* `Request.make_carries_locale`: its query, read again, names the locale once, at the end, and keeps
  all other pairs; the other parts of the URL are those of the base.
* `Request.make_keeps_bytes_iff`: the bytes of the other pairs are kept if and only if they are
  UTF-8.  Other bytes have been lost when the query is written again (`make_keeps_bytes_fails`).
* `Request.make_overrides`: the URL of a request is a base for other locales that is as good as the
  first base.  It is read as it has been written (`Url.IsKept.parse_toString`), and the parameter in
  it is set anew.  But a host with a long label cannot be read as it is written, and then there is
  no second request (`make_overrides_fails`).
-/

namespace Phrasebook.Request

variable {base param locale : String} {r : Request}

theorem make_eq_ok_iff :
    make base param locale = .ok r ↔
      ∃ u, Url.parse base = .ok u ∧ r = ⟨locale, withParam u param locale⟩ := by
  unfold make
  cases Url.parse base with
  | ok u => simp [eq_comm]
  | error fault => simp

/-- There is none only if the base is no URL, and that is what the error says. -/
theorem make_eq_error_iff {e : LoadError} :
    make base param locale = .error e ↔
      ∃ fault, Url.parse base = .error fault ∧ e = .invalidUrl base fault := by
  unfold make
  cases Url.parse base with
  | ok u => simp
  | error fault => simp [eq_comm]

theorem locale_of_make (h : make base param locale = .ok r) : r.locale = locale := by
  obtain ⟨u, -, rfl⟩ := make_eq_ok_iff.1 h
  rfl

/-- The parameter stands once among the pairs that it has been set in. -/
theorem filter_setParam (param value : String) (pairs : List (String × String)) :
    (setParam param value pairs).filter (fun pair => pair.1 = param) = [(param, value)] := by
  unfold setParam
  rw [List.filter_append, List.filter_filter]
  simp

/-- **The request for a locale names it once and keeps the rest.**  If the base is a URL then there
is a request for every parameter and every locale.  Its query is read as the pairs of the base with
other names, in order and as often as they stand there, and the pair of the parameter and the locale
behind them; and its scheme, its location (the authority and the path) and its fragment are those of
the base. -/
theorem make_carries_locale (base param locale : String) {u : Url} (h : Url.parse base = .ok u) :
    ∃ r query, make base param locale = .ok r ∧ r.locale = locale ∧ r.url.query = some query ∧
      Url.Form.parse query =
        (Url.Form.parse (u.query.getD [])).filter (fun pair => pair.1 ≠ param) ++
          [(param, locale)] ∧
      (Url.Form.parse query).filter (fun pair => pair.1 = param) = [(param, locale)] ∧
      r.url.scheme = u.scheme ∧ r.url.location = u.location ∧ r.url.fragment = u.fragment := by
  have hquery := Url.Form.parse_render (setParam param locale (Url.Form.parse (u.query.getD [])))
  refine ⟨_, _, make_eq_ok_iff.2 ⟨u, h, rfl⟩, rfl, rfl, hquery, ?_, rfl, rfl, rfl⟩
  rw [hquery]
  exact filter_setParam param locale _

/-- The parameter stands twice in the base, once with a letter encoded; other names are repeated,
empty, or have an empty value. -/
theorem make_carries_locale_repeated :
    Url.parse "https://[::1]:8443/a/../b?x=1&l%61ng=fr&&x=&=%20+&lang=de#f" =
      .ok ⟨"https".toList, .served ⟨[], [], .ipv6 [0, 0, 0, 0, 0, 0, 0, 1], some 8443⟩ ["b".toList],
        some "x=1&l%61ng=fr&&x=&=%20+&lang=de".toList, some "f".toList⟩ ∧
    ∃ r query,
      make "https://[::1]:8443/a/../b?x=1&l%61ng=fr&&x=&=%20+&lang=de#f" "lang" "sr Latn&é" =
        .ok r ∧
      r.url.query = some query ∧
      Url.Form.parse query = [("x", "1"), ("x", ""), ("", "  "), ("lang", "sr Latn&é")] ∧
      r.url.fragment = some "f".toList := by
  have hbase : Url.parse "https://[::1]:8443/a/../b?x=1&l%61ng=fr&&x=&=%20+&lang=de#f" =
      .ok ⟨"https".toList, .served ⟨[], [], .ipv6 [0, 0, 0, 0, 0, 0, 0, 1], some 8443⟩ ["b".toList],
        some "x=1&l%61ng=fr&&x=&=%20+&lang=de".toList, some "f".toList⟩ := by decide +kernel
  obtain ⟨r, query, hmake, -, hquery, hpairs, -, -, -, hfragment⟩ :=
    make_carries_locale _ "lang" "sr Latn&é" hbase
  -- Both pairs for the parameter are dropped, one of which is spelled with an encoded letter.
  have hkept : (Url.Form.parse "x=1&l%61ng=fr&&x=&=%20+&lang=de".toList).filter
      (fun pair => pair.1 ≠ "lang") = [("x", "1"), ("x", ""), ("", "  ")] := by decide +kernel
  exact ⟨hbase, r, query, hmake, hquery, by rw [hpairs, Option.getD_some, hkept]; rfl, hfragment⟩

/-! ### The bytes of the other pairs -/

open Url.Form

/-- The pairs of a query in bytes whose names are read as something else than `param`. -/
def otherPairs (param : String) (query : List Char) : List RawPair :=
  (parseRaw query).filter fun pair => pair.text.1 ≠ param

/-- In bytes, a query in which a parameter has been set has the other pairs as they are written when
they have been read as texts. -/
theorem parseRaw_render_setParam (param value : String) (query : List Char) :
    parseRaw (render (setParam param value (parse query))) =
      (otherPairs param query).map RawPair.repair ++ [.ofText (param, value)] := by
  have hrepair : RawPair.repair = RawPair.ofText ∘ RawPair.text :=
    funext fun pair => (RawPair.ofText_text pair).symm
  rw [parseRaw_render, parse_eq_map_text, hrepair]
  unfold setParam otherPairs
  rw [List.map_append, List.filter_map, List.map_map]
  rfl

/-- The bytes of the other pairs of the base are lost if they are not UTF-8: reading the query puts
the replacement character in their place. -/
theorem make_keeps_bytes_fails :
    ¬ ∀ (base param locale : String) (u : Url) (r : Request), Url.parse base = .ok u →
      u.scheme = "http".toList ∨ u.scheme = "https".toList → make base param locale = .ok r →
      ∀ pair ∈ parseRaw (u.query.getD []), pair.text.1 ≠ param →
        pair ∈ parseRaw (r.url.query.getD []) := by
  intro h
  have hbase : Url.parse "https://[::1]/a?x=%ff" =
      .ok ⟨"https".toList, .served ⟨[], [], .ipv6 [0, 0, 0, 0, 0, 0, 0, 1], none⟩ ["a".toList],
        some "x=%ff".toList, none⟩ := by decide +kernel
  have hmem := h _ "lang" "fr" _ _ hbase (Or.inr rfl) (make_eq_ok_iff.2 ⟨_, hbase, rfl⟩)
    ⟨[0x78], [0xFF]⟩ (by decide +kernel) (by decide +kernel)
  change _ ∈ parseRaw (render (setParam "lang" "fr" (parse "x=%ff".toList))) at hmem
  rw [parseRaw_render_setParam] at hmem
  exact absurd hmem (by decide +kernel)

/-- **The bytes of the other pairs are kept if and only if they are UTF-8.**  If the base is a URL,
then the request has the bytes of each pair with another name as they are written when they have
been read as texts, in the order of the base, and the pair of the parameter and the locale behind
them.  The bytes of a pair are the same then if its name and its value are those of texts, and only
then; so the query has kept all other pairs of the base if and only if this holds of each of
them. -/
theorem make_keeps_bytes_iff (base param locale : String) {u : Url} (h : Url.parse base = .ok u) :
    ∃ r query, make base param locale = .ok r ∧ r.url.query = some query ∧
      parseRaw query =
        (otherPairs param (u.query.getD [])).map RawPair.repair ++ [.ofText (param, locale)] ∧
      (∀ pair : RawPair, pair.repair = pair ↔ pair.IsText) ∧
      (parseRaw query = otherPairs param (u.query.getD []) ++ [.ofText (param, locale)] ↔
        ∀ pair ∈ otherPairs param (u.query.getD []), pair.IsText) := by
  have hraw := parseRaw_render_setParam param locale (u.query.getD [])
  have hself : ∀ pair : RawPair, pair.repair = pair ↔ pair.IsText :=
    fun _ => RawPair.repair_eq_self_iff
  refine ⟨_, _, make_eq_ok_iff.2 ⟨u, h, rfl⟩, rfl, hraw, hself, ?_⟩
  generalize otherPairs param (u.query.getD []) = others at hraw ⊢
  have hmap : others.map RawPair.repair = others ↔ ∀ pair ∈ others, pair.repair = pair := by
    have hinj := List.map_inj_left (l := others) (f := RawPair.repair) (g := id)
    rwa [List.map_id] at hinj
  rw [hraw, List.append_left_inj, hmap]
  exact forall₂_congr fun pair _ => hself pair

/-- One value of the base is not UTF-8 and becomes the replacement character; the others, one of
them with a plus sign and a letter outside ASCII, are kept. -/
theorem make_keeps_bytes_iff_token :
    Url.parse "https://[::1]/a?x=%ff&lang=de&n+n=%C3%A9" =
      .ok ⟨"https".toList, .served ⟨[], [], .ipv6 [0, 0, 0, 0, 0, 0, 0, 1], none⟩ ["a".toList],
        some "x=%ff&lang=de&n+n=%C3%A9".toList, none⟩ ∧
    ∃ r query, make "https://[::1]/a?x=%ff&lang=de&n+n=%C3%A9" "lang" "fr" = .ok r ∧
      r.url.query = some query ∧
      otherPairs "lang" "x=%ff&lang=de&n+n=%C3%A9".toList =
        [⟨[0x78], [0xFF]⟩, ⟨[0x6E, 0x20, 0x6E], [0xC3, 0xA9]⟩] ∧
      parseRaw query = [⟨[0x78], [0xEF, 0xBF, 0xBD]⟩, ⟨[0x6E, 0x20, 0x6E], [0xC3, 0xA9]⟩,
        .ofText ("lang", "fr")] ∧
      ¬ RawPair.IsText ⟨[0x78], [0xFF]⟩ := by
  have hbase : Url.parse "https://[::1]/a?x=%ff&lang=de&n+n=%C3%A9" =
      .ok ⟨"https".toList, .served ⟨[], [], .ipv6 [0, 0, 0, 0, 0, 0, 0, 1], none⟩ ["a".toList],
        some "x=%ff&lang=de&n+n=%C3%A9".toList, none⟩ := by decide +kernel
  have hothers : otherPairs "lang" "x=%ff&lang=de&n+n=%C3%A9".toList =
      [⟨[0x78], [0xFF]⟩, ⟨[0x6E, 0x20, 0x6E], [0xC3, 0xA9]⟩] := by decide +kernel
  obtain ⟨r, query, hmake, hquery, hraw, hself, -⟩ := make_keeps_bytes_iff _ "lang" "fr" hbase
  rw [Option.getD_some, hothers] at hraw
  -- The byte FF is no text, and is written as the replacement character.
  have hlost : RawPair.repair ⟨[0x78], [0xFF]⟩ ≠ ⟨[0x78], [0xFF]⟩ := by decide +kernel
  exact ⟨hbase, r, query, hmake, hquery, hothers, hraw, mt (hself _).2 hlost⟩

/-! ### Requests to the URL of a request -/

/-- Of two settings of a parameter, the last one counts. -/
theorem setParam_setParam (param value value' : String) (pairs : List (String × String)) :
    setParam param value' (setParam param value pairs) = setParam param value' pairs := by
  unfold setParam
  rw [List.filter_append, List.filter_filter]
  simp

theorem withParam_withParam (u : Url) (param value value' : String) :
    withParam (withParam u param value) param value' = withParam u param value' := by
  have hpairs : parse ((withParam u param value).query.getD []) =
      setParam param value (parse (u.query.getD [])) :=
    parse_render _
  show ({ u with query := some (render (setParam param value'
    (parse ((withParam u param value).query.getD [])))) } : Url) = _
  rw [hpairs, setParam_setParam]
  rfl

/-- The URL of a request is one that is kept, if its base is. -/
theorem isKept_withParam {u : Url} (h : u.IsKept) (param value : String) :
    (withParam u param value).IsKept where
  special := h.special
  web := h.web
  location := h.location
  query := by
    intro query hquery
    obtain rfl := Option.some.inj hquery
    exact Url.Form.isEncoded_render _
  fragment := h.fragment

/-- The URL of a request is read as it has been written, unless its host is refused, and then the
parameter is set anew. -/
theorem make_toString_withParam {u : Url} (h : Url.parse base = .ok u)
    (hscheme : u.scheme = "http".toList ∨ u.scheme = "https".toList) (param locale value : String) :
    make (withParam u param locale).toString param value =
      if u.isReadable then .ok ⟨value, withParam u param value⟩
      else .error (.invalidUrl (withParam u param locale).toString .invalidDomain) := by
  have hspecial : ∀ scheme ∈ ["http".toList, "https".toList],
      Url.isSpecial scheme = true ∧ scheme ≠ Url.fileScheme := by decide
  obtain ⟨hspecial, hweb⟩ := hspecial u.scheme (by simpa using hscheme)
  obtain ⟨hkept, hhost⟩ := Url.isKept_of_parse hspecial hweb h
  have hparse := (isKept_withParam hkept param locale).parse_toString hhost
  have hreadable : (withParam u param locale).isReadable = u.isReadable := rfl
  rw [hreadable] at hparse
  split_ifs at hparse ⊢ with hread
  · exact make_eq_ok_iff.2 ⟨_, hparse, by rw [withParam_withParam]⟩
  · exact make_eq_error_iff.2 ⟨_, hparse, rfl⟩

/-- **A request to the URL of a request overrides its locale, if its host can be read.**  If the
base is a URL with the scheme `http` or `https`, then there is a request for every parameter and
every locale.  If no label of the host has become too long, then its URL as it is written is a base,
too, and the request for any other locale to this base is the same as the one to the first base, so
that a second request for the same locale changes nothing.  Otherwise every further request is
refused for its host. -/
theorem make_overrides (base param locale locale' : String) {u : Url}
    (h : Url.parse base = .ok u)
    (hscheme : u.scheme = "http".toList ∨ u.scheme = "https".toList) :
    ∃ r r', make base param locale = .ok r ∧ make base param locale' = .ok r' ∧
      (u.isReadable = true →
        make r.url.toString param locale' = .ok r' ∧ make r.url.toString param locale = .ok r) ∧
      (u.isReadable = false → ∀ value,
        make r.url.toString param value =
          .error (.invalidUrl r.url.toString .invalidDomain)) := by
  have hagain := make_toString_withParam h hscheme param locale
  refine ⟨_, _, make_eq_ok_iff.2 ⟨u, h, rfl⟩, make_eq_ok_iff.2 ⟨u, h, rfl⟩, fun hread => ?_,
    fun hread value => ?_⟩
  · exact ⟨(hagain locale').trans (if_pos hread), (hagain locale).trans (if_pos hread)⟩
  · exact (hagain value).trans (if_neg (by rw [hread]; exact Bool.false_ne_true))

/-- A request to the URL of a request fails if the host of the base has a label of so many
characters that it cannot be decoded any more. -/
theorem make_overrides_fails :
    ¬ ∀ (base param locale locale' : String) (u : Url), Url.parse base = .ok u →
      u.scheme = "http".toList ∨ u.scheme = "https".toList →
      ∃ r r', make base param locale = .ok r ∧ make base param locale' = .ok r' ∧
        make r.url.toString param locale' = .ok r' := by
  intro h
  obtain ⟨hbase, hlong⟩ := Url.parse_longLabel
  obtain ⟨r, r', hmake, -, hagain⟩ := h _ "lang" "de" "fr" _ hbase (Or.inl rfl)
  obtain ⟨u, hu, rfl⟩ := make_eq_ok_iff.1 hmake
  obtain rfl := Except.ok.inj (hbase.symm.trans hu)
  rw [make_toString_withParam hbase (Or.inl rfl), if_neg (by rw [hlong]; exact Bool.false_ne_true)]
    at hagain
  exact nomatch hagain

/-- A base with credentials, an address, a socket, dot segments and a fragment, and a locale that
looks like a part of a query; and a base with a long label. -/
theorem make_overrides_address :
    (Url.parse "HTTPS://me:p@[0:0::1]:8443/a/../b c?lang=de&x=%26#f" =
      .ok ⟨"https".toList,
        .served ⟨"me".toList, "p".toList, .ipv6 [0, 0, 0, 0, 0, 0, 0, 1], some 8443⟩
          ["b%20c".toList],
        some "lang=de&x=%26".toList, some "f".toList⟩ ∧
    ∃ r r', make "HTTPS://me:p@[0:0::1]:8443/a/../b c?lang=de&x=%26#f" "lang" "a&lang=b" = .ok r ∧
      r.url.toString = "https://me:p@[::1]:8443/b%20c?x=%26&lang=a%26lang%3Db#f" ∧
      make "HTTPS://me:p@[0:0::1]:8443/a/../b c?lang=de&x=%26#f" "lang" "fr" = .ok r' ∧
      make "https://me:p@[::1]:8443/b%20c?x=%26&lang=a%26lang%3Db#f" "lang" "fr" = .ok r') ∧
    ∃ r, make (Url.ideographUrl Url.longLabel).toString "lang" "de" = .ok r ∧
      make r.url.toString "lang" "fr" =
        .error (.invalidUrl r.url.toString .invalidDomain) := by
  have hbase : Url.parse "HTTPS://me:p@[0:0::1]:8443/a/../b c?lang=de&x=%26#f" =
      .ok ⟨"https".toList,
        .served ⟨"me".toList, "p".toList, .ipv6 [0, 0, 0, 0, 0, 0, 0, 1], some 8443⟩
          ["b%20c".toList],
        some "lang=de&x=%26".toList, some "f".toList⟩ := by decide +kernel
  obtain ⟨r, r', hmake, hmake', hagain, -⟩ :=
    make_overrides _ "lang" "a&lang=b" "fr" hbase (Or.inr rfl)
  obtain ⟨u, hu, rfl⟩ := make_eq_ok_iff.1 hmake
  obtain rfl := Except.ok.inj (hbase.symm.trans hu)
  -- The URL of the first request is written out, so that it is a base like any other.
  have htext : (withParam ⟨"https".toList,
      .served ⟨"me".toList, "p".toList, .ipv6 [0, 0, 0, 0, 0, 0, 0, 1], some 8443⟩
        ["b%20c".toList],
      some "lang=de&x=%26".toList, some "f".toList⟩ "lang" "a&lang=b").toString =
        "https://me:p@[::1]:8443/b%20c?x=%26&lang=a%26lang%3Db#f" := by decide +kernel
  obtain ⟨hlong, hreadable⟩ := Url.parse_longLabel
  obtain ⟨long, -, hfirst, -, -, hrefused⟩ := make_overrides _ "lang" "de" "fr" hlong (Or.inl rfl)
  exact ⟨⟨hbase, _, r', hmake, htext, hmake', htext ▸ (hagain rfl).1⟩, long, hfirst,
    hrefused hreadable "fr"⟩

end Phrasebook.Request
