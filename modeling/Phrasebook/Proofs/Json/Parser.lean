import Phrasebook.Json.Parser
import Phrasebook.Json.Printer
import Phrasebook.Proofs.Document
import Phrasebook.Proofs.Json.Token

/-!
# Reading written documents

A JSON text is a document if it is laid out from the tokens of the document, which stand in the
order in which the printer writes them (`Written`).

* `readBehind`: from the place before a value, the reader comes to the place behind it, in the same
  frames and with the tokens that follow it left.
* `endsBefore`: in a document a number has a mark behind it, so that it is told from what follows.
* `parse_of_written`: so a text is read as the document that it is written for.
* `written_render`: what is written for a document is such a text.
-/

namespace Phrasebook.Json

/-- `Written d s`: the text `s` says `d`, with any spelling of its strings and with any white space
between its tokens. -/
def Written (d : Document) (s : List Char) : Prop :=
  Spaced (tokensOf d) s

/-! ### The tokens of lists and tables -/

section Tokens

variable (rest : List Token)

theorem tokensOf_list_append (items : List Document) :
    tokensOf (.list items) ++ rest =
      .openBracket :: (tokensOfItems items ++ .closeBracket :: rest) := by
  simp [tokensOf]

theorem tokensOf_table_append (entries : List (String × Document)) :
    tokensOf (.table entries) ++ rest =
      .openBrace :: (tokensOfEntries entries ++ .closeBrace :: rest) := by
  simp [tokensOf]

theorem tokensOfItems_cons_append (d : Document) {items : List Document} (h : items ≠ []) :
    tokensOfItems (d :: items) ++ rest =
      tokensOf d ++ .comma :: (tokensOfItems items ++ rest) := by
  rw [tokensOfItems, List.append_assoc, List.cons_append]
  exact h

theorem tokensOfEntries_singleton_append (entry : String × Document) :
    tokensOfEntries [entry] ++ rest =
      .text entry.1.toList :: .colon :: (tokensOf entry.2 ++ rest) := by
  simp [tokensOfEntries]

theorem tokensOfEntries_cons_append (entry : String × Document)
    {entries : List (String × Document)} (h : entries ≠ []) :
    tokensOfEntries (entry :: entries) ++ rest =
      .text entry.1.toList :: .colon ::
        (tokensOf entry.2 ++ .comma :: (tokensOfEntries entries ++ rest)) := by
  obtain ⟨key, d⟩ := entry
  rw [tokensOfEntries]
  · simp
  · exact h

end Tokens

/-! ### The way of the reader -/

/-- `ReadBehind d`: from the place before `d` the reader comes to the place behind it, in any frames
and with the tokens that follow it left. -/
def ReadBehind (d : Document) : Prop :=
  ∀ frames rest, run .value frames (tokensOf d ++ rest) = run (.after d) frames rest

/-- The items of a list are read in order, and the list is closed behind the last. -/
theorem run_tokensOfItems {items : List Document} (h : ∀ d ∈ items, ReadBehind d)
    (hne : items ≠ []) (before : List Document) (frames : List Frame) (rest : List Token) :
    run .value (.list before :: frames) (tokensOfItems items ++ .closeBracket :: rest) =
      run (.after (.list (before.reverse ++ items))) frames rest := by
  -- each item goes to those that have been read before it, so these are free in the induction
  induction items generalizing before with
  | nil => exact absurd rfl hne
  | cons d items ih =>
    have hd := h d List.mem_cons_self
    by_cases hitems : items = []
    · subst hitems
      rw [tokensOfItems, hd]
      show run (.after (.list (d :: before).reverse)) frames rest = _
      rw [List.reverse_cons]
    · have hrest := ih (fun e he => h e (List.mem_cons_of_mem d he)) hitems (d :: before)
      rw [tokensOfItems_cons_append _ _ hitems, hd]
      show run .value (.list (d :: before) :: frames) (tokensOfItems items ++ _) = _
      rw [hrest, List.reverse_cons, List.append_assoc, List.singleton_append]

/-- The first token of an item is one that begins a value, so the first item of a list is read like
any other. -/
theorem run_firstItem (d : Document) (frames : List Frame) (rest : List Token) :
    run .firstItem frames (tokensOf d ++ rest) =
      run .value (.list [] :: frames) (tokensOf d ++ rest) := by
  cases d <;> rfl

theorem run_openBracket {items : List Document} (hne : items ≠ []) (frames : List Frame)
    (rest : List Token) :
    run .firstItem frames (tokensOfItems items ++ rest) =
      run .value (.list [] :: frames) (tokensOfItems items ++ rest) := by
  obtain ⟨d, items, rfl⟩ := List.exists_cons_of_ne_nil hne
  by_cases hitems : items = []
  · subst hitems
    exact run_firstItem d frames rest
  · rw [tokensOfItems_cons_append _ _ hitems]
    exact run_firstItem d frames _

/-- Entries with their keys, as the reader collects them. -/
def membersOf (entries : List (String × Document)) : Members :=
  entries.map fun entry => (some entry.1, entry.2)

/-- The entry that a member is, if its key is a text. -/
def entry? (member : Option String × Document) : Option (String × Document) :=
  member.1.map fun key => (key, member.2)

theorem tableOf_eq (members : Members) :
    tableOf members = (members.reverse.mapM entry?).elim .unreadable .table := by
  unfold tableOf
  split
  · rename_i entries h
    have hentries : members.reverse.mapM entry? = some entries := h
    rw [hentries, Option.elim_some]
  · rename_i h
    have hentries : members.reverse.mapM entry? = none := h
    rw [hentries, Option.elim_none]

theorem tableOf_membersOf (entries : List (String × Document)) :
    tableOf (membersOf entries).reverse = .table entries := by
  have hentries : (membersOf entries).mapM entry? = some entries := by
    induction entries with
    | nil => rfl
    | cons entry entries ih =>
      rw [membersOf, List.map_cons, List.mapM_cons]
      rw [membersOf] at ih
      rw [ih]
      rfl
  rw [tableOf_eq, List.reverse_reverse, hentries, Option.elim_some]

/-- A key and the colon behind it take the reader to the value, in the frame of the table. -/
theorem run_key (key : String) (before : Members) (frames : List Frame) (rest : List Token) :
    run (.key before) frames (.text key.toList :: .colon :: rest) =
      run .value (.table before (some key) :: frames) rest := by
  show run .value (.table before (some (String.ofList key.toList)) :: frames) rest = _
  rw [String.ofList_toList]

/-- The entries of a table are read in order, and the table is closed behind the last. -/
theorem run_tokensOfEntries {entries : List (String × Document)}
    (h : ∀ entry ∈ entries, ReadBehind entry.2) (hne : entries ≠ []) (before : Members)
    (frames : List Frame) (rest : List Token) :
    run (.key before) frames (tokensOfEntries entries ++ .closeBrace :: rest) =
      run (.after (tableOf ((membersOf entries).reverse ++ before))) frames rest := by
  induction entries generalizing before with
  | nil => exact absurd rfl hne
  | cons entry entries ih =>
    have hd := h entry List.mem_cons_self
    -- Behind the last entry comes the brace, and behind any other a comma.
    by_cases hentries : entries = []
    · subst hentries
      rw [tokensOfEntries_singleton_append, run_key, hd]
      rfl
    · have hrest := ih (fun e he => h e (List.mem_cons_of_mem entry he)) hentries
        ((some entry.1, entry.2) :: before)
      have hmembers : (membersOf (entry :: entries)).reverse ++ before =
          (membersOf entries).reverse ++ (some entry.1, entry.2) :: before := by
        simp [membersOf]
      rw [tokensOfEntries_cons_append _ _ hentries, run_key, hd, hmembers]
      exact hrest

/-- From the place before a value the reader comes to the place behind it. -/
theorem readBehind (d : Document) : ReadBehind d := by
  induction d using Document.induct with
  | null | bool | number | unreadable => exact fun _ _ => rfl
  | text s =>
    intro frames rest
    show run (.after (.text (String.ofList s.toList))) frames rest = _
    rw [String.ofList_toList]
  | list items ih =>
    intro frames rest
    rw [tokensOf_list_append]
    show run .firstItem frames (tokensOfItems items ++ _) = _
    by_cases hitems : items = []
    · subst hitems
      rfl
    · rw [run_openBracket hitems]
      exact run_tokensOfItems ih hitems [] frames rest
  | table entries ih =>
    intro frames rest
    rw [tokensOf_table_append]
    show run .firstKey frames (tokensOfEntries entries ++ _) = _
    by_cases hentries : entries = []
    · subst hentries
      rfl
    · -- the first key is read like any other, since the table is not closed before it
      have hfirst : run .firstKey frames (tokensOfEntries entries ++ .closeBrace :: rest) =
          run (.key []) frames (tokensOfEntries entries ++ .closeBrace :: rest) := by
        obtain ⟨entry, _ | _, rfl⟩ := List.exists_cons_of_ne_nil hentries <;> rfl
      rw [hfirst, run_tokensOfEntries ih hentries [], List.append_nil, tableOf_membersOf]

/-! ### Written documents -/

/-- What follows a document in a text: tokens of which the first is a mark, if there are any. -/
structure Tail (rest : List Token) : Prop where
  chain : rest.IsChain Token.MayPrecede
  mark : ∀ u ∈ rest.head?, u.isMark = true

theorem Tail.nil : Tail [] :=
  ⟨.nil, fun _ hu => nomatch hu⟩

theorem mayPrecede_of_ne_number {t : Token} (h : ∀ n, t ≠ .number n) (u : Token) :
    t.MayPrecede u :=
  fun n hn => absurd hn (h n)

/-- A token that is no number may stand before anything. -/
theorem isChain_cons_of_ne_number {t : Token} (h : ∀ n, t ≠ .number n) {rest : List Token}
    (hrest : rest.IsChain Token.MayPrecede) : (t :: rest).IsChain Token.MayPrecede :=
  hrest.cons fun u _ => mayPrecede_of_ne_number h u

theorem Tail.cons {t : Token} (h : t.isMark = true) {rest : List Token}
    (hrest : rest.IsChain Token.MayPrecede) : Tail (t :: rest) := by
  refine ⟨isChain_cons_of_ne_number ?_ hrest, ?_⟩
  · rintro n rfl
    exact nomatch h
  · intro u hu
    exact Option.some.inj hu ▸ h

/-- `EndsBefore d`: nothing in `d` runs into what follows it. -/
def EndsBefore (d : Document) : Prop :=
  ∀ rest, Tail rest → (tokensOf d ++ rest).IsChain Token.MayPrecede

theorem isChain_tokensOfItems {items : List Document} (h : ∀ d ∈ items, EndsBefore d)
    {rest : List Token} (hrest : Tail rest) :
    (tokensOfItems items ++ rest).IsChain Token.MayPrecede := by
  induction items with
  | nil => exact hrest.chain
  | cons d items ih =>
    have hd := h d List.mem_cons_self
    by_cases hitems : items = []
    · subst hitems
      exact hd rest hrest
    · rw [tokensOfItems_cons_append _ _ hitems]
      exact hd _ (.cons rfl (ih fun e he => h e (List.mem_cons_of_mem d he)))

theorem isChain_tokensOfEntries {entries : List (String × Document)}
    (h : ∀ entry ∈ entries, EndsBefore entry.2) {rest : List Token} (hrest : Tail rest) :
    (tokensOfEntries entries ++ rest).IsChain Token.MayPrecede := by
  induction entries with
  | nil => exact hrest.chain
  | cons entry entries ih =>
    have hd := h entry List.mem_cons_self
    have hkey : ∀ {after : List Token}, after.IsChain Token.MayPrecede →
        (.text entry.1.toList :: .colon :: after).IsChain Token.MayPrecede := fun hafter =>
      isChain_cons_of_ne_number (by simp) (isChain_cons_of_ne_number (by simp) hafter)
    by_cases hentries : entries = []
    · subst hentries
      rw [tokensOfEntries_singleton_append]
      exact hkey (hd rest hrest)
    · rw [tokensOfEntries_cons_append _ _ hentries]
      exact hkey (hd _ (.cons rfl (ih fun e he => h e (List.mem_cons_of_mem entry he))))

/-- In a document a number has a mark behind it, if it has anything. -/
theorem endsBefore (d : Document) : EndsBefore d := by
  induction d using Document.induct with
  | null | bool | text | unreadable =>
    exact fun _ hrest => isChain_cons_of_ne_number (by simp) hrest.chain
  | number n => exact fun _ hrest => hrest.chain.cons fun u hu _ _ => hrest.mark u hu
  | list items ih =>
    intro rest hrest
    rw [tokensOf_list_append]
    exact isChain_cons_of_ne_number (by simp) (isChain_tokensOfItems ih (.cons rfl hrest.chain))
  | table entries ih =>
    intro rest hrest
    rw [tokensOf_table_append]
    exact isChain_cons_of_ne_number (by simp) (isChain_tokensOfEntries ih (.cons rfl hrest.chain))

/-- A text is read as the document that it says. -/
theorem parse_of_written {d : Document} {s : List Char} (h : Written d s) :
    parse s = some (d, false) := by
  have hchain := endsBefore d [] .nil
  rw [List.append_nil] at hchain
  have hrun := readBehind d [] []
  rw [List.append_nil] at hrun
  rw [parse, tokens_of_spaced h hchain, hrun]
  rfl

/-! ### Documents that can be written -/

/-- The document has nothing unreadable in it, and all its numbers are integers that fit a word. -/
def IsPlain (d : Document) : Prop :=
  d.All fun v => v ≠ .unreadable ∧ ∀ n, v = .number n → n.IsWord

theorem forall_mem_tokensOfItems {P : Token → Prop} (hcomma : P .comma) {items : List Document} :
    (∀ t ∈ tokensOfItems items, P t) ↔ ∀ d ∈ items, ∀ t ∈ tokensOf d, P t := by
  induction items with
  | nil => simp [tokensOfItems]
  | cons d items ih =>
    by_cases hitems : items = []
    · subst hitems
      simp [tokensOfItems]
    · rw [tokensOfItems, List.forall_mem_append, List.forall_mem_cons, ih, List.forall_mem_cons]
      · simp [hcomma]
      · exact hitems

theorem forall_mem_tokensOfEntries {P : Token → Prop} (hcolon : P .colon) (hcomma : P .comma)
    (htext : ∀ s, P (.text s)) {entries : List (String × Document)} :
    (∀ t ∈ tokensOfEntries entries, P t) ↔
      ∀ entry ∈ entries, ∀ t ∈ tokensOf entry.2, P t := by
  induction entries with
  | nil => simp [tokensOfEntries]
  | cons entry entries ih =>
    obtain ⟨key, d⟩ := entry
    by_cases hentries : entries = []
    · subst hentries
      simp [tokensOfEntries, hcolon, htext]
    · rw [tokensOfEntries, List.forall_mem_append, List.forall_mem_cons, List.forall_mem_cons,
        List.forall_mem_cons, ih, List.forall_mem_cons]
      · simp [hcolon, hcomma, htext]
      · exact hentries

/-- The documents of which all tokens can be written are the plain ones. -/
theorem forall_writable_iff (d : Document) : (∀ t ∈ tokensOf d, t.Writable) ↔ IsPlain d := by
  have hcomma : Token.comma.Writable := writable_of_isMark rfl
  have hcolon : Token.colon.Writable := writable_of_isMark rfl
  unfold IsPlain
  -- A document is plain if each of its parts is, and its tokens are those of its parts and marks,
  -- which can be written in any case.
  induction d using Document.induct with
  | null =>
    have hnull : Token.null.Writable := ⟨_, .null⟩
    rw [Document.all_iff_self] <;> simp [tokensOf, hnull]
  | bool b =>
    have hbool : (Token.bool b).Writable := ⟨_, .bool b⟩
    rw [Document.all_iff_self] <;> simp [tokensOf, hbool]
  | number n => rw [Document.all_iff_self] <;> simp [tokensOf, writable_number_iff]
  | text s => rw [Document.all_iff_self] <;> simp [tokensOf, writable_text]
  | list items ih =>
    have hopen : Token.openBracket.Writable := ⟨_, .openBracket⟩
    have hclose : Token.closeBracket.Writable := writable_of_isMark rfl
    rw [Document.all_list_iff, ← List.append_nil (tokensOf _), tokensOf_list_append,
      List.forall_mem_cons, List.forall_mem_append, forall_mem_tokensOfItems hcomma]
    simpa [hopen, hclose] using forall₂_congr ih
  | table entries ih =>
    have hopen : Token.openBrace.Writable := ⟨_, .openBrace⟩
    have hclose : Token.closeBrace.Writable := writable_of_isMark rfl
    rw [Document.all_table_iff, ← List.append_nil (tokensOf _), tokensOf_table_append,
      List.forall_mem_cons, List.forall_mem_append,
      forall_mem_tokensOfEntries hcolon hcomma writable_text]
    simpa [hopen, hclose] using forall₂_congr ih
  | unreadable => rw [Document.all_iff_self] <;> simp [tokensOf, not_writable_brokenText]

theorem Written.isPlain {d : Document} {s : List Char} (h : Written d s) : IsPlain d :=
  (forall_writable_iff d).1 h.writable

/-- What is printed for a plain document says it. -/
theorem written_render {d : Document} (h : IsPlain d) : Written d (render d) :=
  spaced_render ((forall_writable_iff d).2 h)

/-- A plain document can be read. -/
theorem IsPlain.isReadable {d : Document} (h : IsPlain d) : d.isReadable = true := by
  unfold IsPlain at h
  induction d using Document.induct with
  | null | bool | text => rfl
  | number n =>
    have hword := (h _ (.self _)).2 n rfl
    simp [Document.isReadable, hword.not_overflows]
  | list items ih =>
    rw [Document.isReadable, Document.areReadableItems_iff]
    exact fun d hd => ih d hd ((Document.all_list_iff.1 h).2 d hd)
  | table entries ih =>
    rw [Document.isReadable, Document.areReadableEntries_iff]
    exact fun entry hentry => ih entry hentry ((Document.all_table_iff.1 h).2 entry hentry)
  | unreadable => exact absurd rfl (h _ (.self _)).1

end Phrasebook.Json
