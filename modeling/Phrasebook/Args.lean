import Phrasebook.Decimal.Shortest
import Phrasebook.Entries

/-!
## Placeholder arguments

Named values for the placeholders of a phrase, in the order in which their names were first given.
A name that is given again keeps its place and takes the new value.  Values are kept as the texts
that are put in.
-/

namespace Phrasebook

/-- A value that can be given to a placeholder. -/
inductive ArgValue where
  | text (s : String)
  | flag (b : Bool)
  | integer (n : Int)
  | float (x : Float)

/-- The text that stands for a value in a phrase. -/
def ArgValue.render : ArgValue → String
  | .text s => s
  | .flag b => if b then "true" else "false"
  | .integer n => String.ofList (Text.decimalInt n)
  | .float x => Decimal.ofFloat x

/-- Named placeholder values in order of their first mention. -/
structure Args where
  /-- The values as texts, by name. -/
  params : OrderedMap String

namespace Args

/-- No arguments. -/
def empty : Args :=
  ⟨OrderedMap.empty⟩

instance : EmptyCollection Args := ⟨empty⟩

/-- The arguments with `value` for `name`. -/
def insert (args : Args) (name : String) (value : ArgValue) : Args :=
  ⟨args.params.insert name value.render⟩

/-- The text for a name. -/
def get? (args : Args) (name : String) : Option String :=
  args.params.find? name

/-- The arguments with `value` for `name`, and the text that the name had before. -/
def exchange (args : Args) (name : String) (value : ArgValue) : Option String × Args :=
  let (old, params) := args.params.exchange name value.render
  (old, ⟨params⟩)

theorem exchange_eq (args : Args) (name : String) (value : ArgValue) :
    args.exchange name value = (args.get? name, args.insert name value) := by
  unfold exchange
  rw [OrderedMap.exchange_eq]
  rfl

/-- The arguments with all these values inserted in order. -/
def extend (args : Args) (pairs : List (String × ArgValue)) : Args :=
  pairs.foldl (fun args pair => args.insert pair.1 pair.2) args

/-- The arguments with these values inserted in order. -/
def ofList (pairs : List (String × ArgValue)) : Args :=
  empty.extend pairs

/-- The arguments with these texts inserted in order. -/
def ofTexts (pairs : List (String × String)) : Args :=
  ofList (pairs.map fun pair => (pair.1, .text pair.2))

/-- The name of the placeholder for a count. -/
def countName : String :=
  "count"

/-- The arguments that hold a count and nothing else. -/
def ofCount (count : Int64) : Args :=
  empty.insert countName (.integer count.toInt)

/-- The names with their texts in order. -/
def toList (args : Args) : List (String × String) :=
  args.params.toList

/-- The number of names. -/
def size (args : Args) : Nat :=
  args.params.size

/-- Whether there is no name. -/
def isEmpty (args : Args) : Bool :=
  args.params.isEmpty

end Args

end Phrasebook
