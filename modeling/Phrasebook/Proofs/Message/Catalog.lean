import Phrasebook.Proofs.Message.Document

/-!
# Reading catalogs

A catalog that is well formed as JSON is judged by its depth and then by its values.

* `MessageTree.parse_eq_of_written`: what is read from a text that says a document, in terms of the
  document alone.
* `MessageTree.parse_written_catalog`: within the limit of depth a text is accepted if it consists
  of texts and tables, and otherwise the fault is one of data.
* `MessageTree.parse_print`: a keyed tree is read back from what is printed for it, up to the limit
  of depth, and none is read beyond it.
-/

namespace Phrasebook.MessageTree

/-- What a text says decides what is read from it. -/
theorem parse_eq_of_written {d : Document} {text : String} (h : Json.Written d text.toList) :
    parse text =
      if depthLimit < d.depth then .error .syntactic
      else (ofDocument? d).elim (.error .data) .ok := by
  have hreadable : d.isReadable = true := h.isPlain.isReadable
  rw [parse, Json.parse_of_written h]
  by_cases hdepth : depthLimit < d.depth
  · simp [hdepth]
  · simp only [hdepth, hreadable, decide_false, Bool.not_true, Bool.or_false]
    cases ofDocument? d <;> rfl

/-- **Acceptance**: a document that is nested at most 127 deep, however it is laid out and spelled,
is accepted if all its values are texts and tables.  What is read has a child for each key of a
table, at the first place of the key and built from its last value.  In all other documents there
is a fault of data. -/
theorem parse_written_catalog {d : Document} {text : String} (h : Json.Written d text.toList)
    (hdepth : d.depth ≤ 127) :
    ((∃ t, parse text = .ok t) ↔ d.IsCatalog) ∧
      (∀ t, parse text = .ok t → t.BuiltFrom d) ∧
      (¬ d.IsCatalog → parse text = .error .data) := by
  have hlimit : ¬ depthLimit < d.depth := Nat.not_lt.2 hdepth
  have hparse := parse_eq_of_written h
  rw [if_neg hlimit] at hparse
  -- The text is read as the document, which is a catalog if it can be taken for a tree.
  cases hd : ofDocument? d with
  | some t =>
    obtain ⟨hcatalog, hbuilt⟩ := ofDocument?_eq_some_iff.1 hd
    rw [hd] at hparse
    refine ⟨⟨fun _ => hcatalog, fun _ => ⟨t, hparse⟩⟩, ?_, fun hnot => absurd hcatalog hnot⟩
    intro u hu
    obtain rfl := Except.ok.inj (hparse.symm.trans hu)
    exact hbuilt
  | none =>
    have hnot : ¬ d.IsCatalog := by
      rw [← ofDocument?_isSome_iff, hd]
      exact Bool.false_ne_true
    rw [hd] at hparse
    have hfails : ∀ t, parse text ≠ .ok t := fun t ht => nomatch hparse.symm.trans ht
    refine ⟨⟨fun ⟨t, ht⟩ => absurd ht (hfails t), fun hcatalog => absurd hcatalog hnot⟩, ?_, ?_⟩
    · exact fun t ht => absurd ht (hfails t)
    · exact fun _ => hparse

/-- In the first text the key is repeated with a text, and in the second what stands there first is
no text. -/
theorem parse_written_catalog_repeated :
    (∃ t, parse "\x7b\"a\" : \"1\",\n\"a\":\"\\u0062\"\x7d" = .ok t ∧
        t.BuiltFrom (.table [("a", .text "1"), ("a", .text "b")])) ∧
      parse "\x7b\"a\" : 1,\n\"a\":\"\\u0062\"\x7d" = .error .data := by
  have hnone : ∀ c ∈ ([] : List Char), Json.isSpace c = true := fun _ hc => nomatch hc
  have hspace : ∀ c ∈ [' '], Json.isSpace c = true := List.forall_mem_singleton.2 rfl
  have hfeed : ∀ c ∈ ['\n'], Json.isSpace c = true := List.forall_mem_singleton.2 rfl
  have hkey : Json.Token.WrittenAs (.text "a".toList) "\"a\"".toList :=
    .text (.plain (by decide) (by decide) (by decide) .nil)
  have hb : Json.Token.WrittenAs (.text "b".toList) "\"\\u0062\"".toList :=
    .text (.unit (by decide) .nil)
  -- Both texts end alike, and differ in the value of the first key.
  have hrest : Json.Spaced
      [.comma, .text "a".toList, .colon, .text "b".toList, .closeBrace]
      ",\n\"a\":\"\\u0062\"\x7d".toList :=
    .cons hnone .comma (.cons hfeed hkey (.cons hnone .colon (.cons hnone hb
      (.cons hnone .closeBrace (.nil hnone)))))
  constructor
  · have hone : Json.Token.WrittenAs (.text "1".toList) "\"1\"".toList :=
      .text (.plain (by decide) (by decide) (by decide) .nil)
    have hwritten : Json.Written (.table [("a", .text "1"), ("a", .text "b")])
        "\x7b\"a\" : \"1\",\n\"a\":\"\\u0062\"\x7d".toList :=
      .cons hnone .openBrace (.cons hnone hkey (.cons hspace .colon (.cons hspace hone hrest)))
    have hcatalog : (Document.table [("a", .text "1"), ("a", .text "b")]).IsCatalog := by
      rw [← ofDocument?_isSome_iff]
      decide
    obtain ⟨haccepted, hbuilt, -⟩ := parse_written_catalog hwritten (by decide)
    obtain ⟨t, ht⟩ := haccepted.2 hcatalog
    exact ⟨t, ht, hbuilt t ht⟩
  · have hdigits : Text.decimal 1 = "1".toList := by decide +kernel
    have hone : Json.Token.WrittenAs (.number (.ofNat 1)) "1".toList := by
      rw [← hdigits]
      exact .number ⟨rfl, rfl, by decide⟩
    have hwritten : Json.Written (.table [("a", .number (.ofNat 1)), ("a", .text "b")])
        "\x7b\"a\" : 1,\n\"a\":\"\\u0062\"\x7d".toList :=
      .cons hnone .openBrace (.cons hnone hkey (.cons hspace .colon (.cons hspace hone hrest)))
    have hnot : ¬ (Document.table [("a", .number (.ofNat 1)), ("a", .text "b")]).IsCatalog := by
      rw [← ofDocument?_isSome_iff]
      decide
    exact (parse_written_catalog hwritten (by decide)).2.2 hnot

/-! ### What is printed -/

/-- What is printed for a tree says its document. -/
theorem written_print (t : MessageTree) : Json.Written t.toDocument t.print.toList := by
  rw [print, Json.print, String.toList_ofList]
  exact Json.written_render t.isCatalog_toDocument.isPlain

/-- **Round trip**: a keyed tree of at most 127 nested nodes is read back from what is printed for
it, with all children in their order; where more nodes are nested there is a fault of syntax. -/
theorem parse_print (t : MessageTree) :
    (t.Keyed → t.depth ≤ 127 → parse t.print = .ok t) ∧
      (127 < t.depth → parse t.print = .error .syntactic) := by
  have hparse := parse_eq_of_written t.written_print
  rw [depth_toDocument] at hparse
  constructor
  · intro hkeyed hdepth
    have hlimit : ¬ depthLimit < t.depth := Nat.not_lt.2 hdepth
    rw [hparse, if_neg hlimit, hkeyed.ofDocument?_toDocument]
    rfl
  · intro hdepth
    have hlimit : depthLimit < t.depth := hdepth
    rw [hparse, if_pos hlimit]

theorem depth_nest (key : String) (n : Nat) (t : MessageTree) :
    (nest key n t).depth = n + t.depth := by
  induction n generalizing t with
  | zero => exact (Nat.zero_add _).symm
  | succ n ih =>
    have hnode : (node [(key, t)]).depth = 1 + t.depth := by
      rw [depth, depthAll, depthAll, Nat.max_zero]
    rw [nest, ih, hnode, Nat.add_assoc]

/-- Quotes, escapes and characters of all planes are read back, and the order of the children; one
node too many is refused. -/
theorem parse_print_sample :
    parse (node [("b\"\\/", .text "1\n\x01"),
        ("", .node [("é", .text "☃𝄞"), ("a", .node [])])]).print =
      .ok (node [("b\"\\/", .text "1\n\x01"), ("", .node [("é", .text "☃𝄞"), ("a", .node [])])]) ∧
    parse (nest "k" 128 (.text "v")).print = .error .syntactic := by
  constructor
  · have hkeyed : (node [("b\"\\/", .text "1\n\x01"),
        ("", .node [("é", .text "☃𝄞"), ("a", .node [])])]).Keyed := by
      simp [Keyed, KeyedAll, Entries.keys]
    exact (parse_print _).1 hkeyed (by decide)
  · have hdepth : 127 < (nest "k" 128 (.text "v")).depth := by
      rw [depth_nest]
      decide
    exact (parse_print _).2 hdepth

end Phrasebook.MessageTree
