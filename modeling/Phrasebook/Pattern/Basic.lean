/-!
## Patterns

A pattern describes texts: characters of given sets, one after the other, with choices and
repetitions, and with conditions on the place between two characters.

* `Pattern.heads` lists, in order of preference, what a pattern can begin with: a character of a set
  with the pattern that describes what follows it, or nothing at all.
* `Pattern.covers` decides whether a pattern describes a text as a whole.  Choices are in order of
  preference, and a choice that has been completed rules out those behind it; so `a|ab` does not
  cover "ab".
-/

namespace Phrasebook

/-! ### Sets of characters -/

/-- A set of characters. -/
inductive CharSet where
  /-- The code points from one up to another. -/
  | range (first last : Nat)
  /-- What is in one set or the other. -/
  | union (a b : CharSet)
  /-- What is in both sets. -/
  | inter (a b : CharSet)
  /-- What is not in the set. -/
  | compl (a : CharSet)
  deriving DecidableEq, Repr

namespace CharSet

/-- Whether a code point is in a set. -/
def mem (n : Nat) : CharSet → Bool
  | range first last => first ≤ n && n ≤ last
  | union a b => a.mem n || b.mem n
  | inter a b => a.mem n && b.mem n
  | compl a => !a.mem n

/-- The set of one character. -/
def single (c : Char) : CharSet :=
  range c.toNat c.toNat

/-- The set of no character. -/
def none : CharSet :=
  range 1 0

/-- The set of the characters in ranges. -/
def ofRanges (ranges : List (Char × Char)) : CharSet :=
  ranges.foldl (fun acc (first, last) => acc.union (range first.toNat last.toNat)) none

/-- What is in the first set and not in the second. -/
def diff (a b : CharSet) : CharSet :=
  a.inter b.compl

/-- What is in just one of two sets. -/
def symmDiff (a b : CharSet) : CharSet :=
  (a.diff b).union (b.diff a)

/-- Whether a set has ASCII characters only, as far as code points of one byte go. -/
def isAscii (a : CharSet) : Bool :=
  (List.range 0x80).all fun n => !a.mem (n + 0x80)

/-- The other case of an ASCII letter, and any other code point itself. -/
def otherCase (n : Nat) : Nat :=
  if 0x41 ≤ n && n ≤ 0x5A then n + 0x20 else if 0x61 ≤ n && n ≤ 0x7A then n - 0x20 else n

/-- A set with the other case of each ASCII letter in it. -/
def foldCase (a : CharSet) : CharSet :=
  (List.range 0x80).foldl (fun acc n =>
    if a.mem (otherCase n) && !a.mem n then acc.union (range n n) else acc) a

end CharSet

/-! ### Patterns -/

/-- A condition on the place between two characters. -/
inductive Assertion where
  | textStart
  | textEnd
  /-- At the start of a line, which ends with a line feed, or also with a carriage return. -/
  | lineStart (returns : Bool)
  /-- At the end of a line. -/
  | lineEnd (returns : Bool)
  /-- Between a character of an ASCII word and one of none. -/
  | wordEdge
  /-- At no edge of an ASCII word. -/
  | noWordEdge
  | wordStart
  | wordEnd
  deriving DecidableEq, Repr

/-- A place in a text: the character before it and the one behind it. -/
structure Place where
  before : Option Char
  behind : Option Char

namespace Assertion

/-- Whether a character belongs to an ASCII word. -/
def isWord (c : Char) : Bool :=
  c.isAlphanum || c == '_'

/-- Whether a condition holds at a place. -/
def holds (p : Place) : Assertion → Bool
  | textStart => p.before.isNone
  | textEnd => p.behind.isNone
  | lineStart false => p.before.all (· == '\n')
  | lineEnd false => p.behind.all (· == '\n')
  | lineStart true =>
    p.before.all fun c => c == '\n' || (c == '\r' && p.behind != some '\n')
  | lineEnd true =>
    p.behind.all fun c => c == '\r' || (c == '\n' && p.before != some '\r')
  | wordEdge => p.before.any isWord != p.behind.any isWord
  | noWordEdge => p.before.any isWord == p.behind.any isWord
  | wordStart => !p.before.any isWord && p.behind.any isWord
  | wordEnd => p.before.any isWord && !p.behind.any isWord

end Assertion

/-- A pattern for texts. -/
inductive Pattern where
  /-- The empty text. -/
  | empty
  /-- One character of a set. -/
  | char (set : CharSet)
  /-- The empty text, at a place where a condition holds. -/
  | look (a : Assertion)
  /-- One pattern and then another. -/
  | seq (p q : Pattern)
  /-- One pattern or another, rather the first. -/
  | alt (p q : Pattern)
  /-- A pattern any number of times, rather often if it is `greedy`. -/
  | star (p : Pattern) (greedy : Bool)
  deriving DecidableEq, Repr

namespace Pattern

/-- What a pattern can begin with. -/
inductive Head where
  /-- Nothing: it describes the empty text here. -/
  | done
  /-- A character of a set, and then another pattern. -/
  | step (set : CharSet) (rest : Pattern)
  deriving DecidableEq, Repr

/-- What a pattern can begin with at a place, in order of preference. -/
def heads (place : Place) : Pattern → List Head
  | empty => [.done]
  | char set => [.step set .empty]
  | look a => if a.holds place then [.done] else []
  | seq p q => (heads place p).flatMap fun
    | .done => heads place q
    | .step set rest => [.step set (rest.seq q)]
  | alt p q => heads place p ++ heads place q
  | star p greedy =>
    let more := (heads place p).map fun
      | .done => Head.done
      | .step set rest => .step set (rest.seq (p.star greedy))
    if greedy then more ++ [.done] else .done :: more

/-- The heads up to the first that completes the pattern. -/
def untilDone : List Head → List Head
  | [] => []
  | .done :: _ => [.done]
  | h :: rest => h :: untilDone rest

/-- A list with each member only where it comes first. -/
def firsts (seen : List Pattern) : List Pattern → List Pattern
  | [] => []
  | p :: rest => if seen.contains p then firsts seen rest else p :: firsts (p :: seen) rest

/-- What the patterns can begin with at a place; the first is preferred. -/
def headsOf (place : Place) (ps : List Pattern) : List Head :=
  untilDone (ps.flatMap (heads place))

/-- Whether one of the patterns describes what follows a character, as a whole.  A pattern that is
complete earlier rules out those behind it. -/
def coversRest : List Pattern → Option Char → List Char → Bool
  | ps, before, [] => (headsOf ⟨before, none⟩ ps).contains .done
  | ps, before, c :: rest =>
    let next := (headsOf ⟨before, some c⟩ ps).filterMap fun
      | .step set p => if set.mem c.toNat then some p else none
      | .done => none
    coversRest (firsts [] next) (some c) rest

/-- Whether a pattern describes a text as a whole. -/
def covers (p : Pattern) (s : List Char) : Bool :=
  coversRest [p] none s

end Pattern

end Phrasebook
