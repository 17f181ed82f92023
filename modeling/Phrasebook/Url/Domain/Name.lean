import Phrasebook.Url.Domain.Direction
import Phrasebook.Url.Domain.Joining
import Phrasebook.Url.Domain.Mapping
import Phrasebook.Url.Domain.Punycode

/-!
## Domain names in ASCII

Whatever alphabet a domain name is written in, it is looked up in ASCII.  Its characters are put
into one spelling and its labels are checked; a label with characters beyond ASCII is then encoded
behind `xn--`.  A label that is encoded already has to be one that could have been written in clear.
Only labels of some length are decoded at all, and so the name that is given for long labels cannot
be read itself.

* `toAscii?` gives the name in ASCII.
-/

namespace Phrasebook.Url.Domain

open Phrasebook.Text

/-- What an encoded label begins with. -/
def encodedMark : List Char :=
  "xn--".toList

/-- Whether a text has ASCII characters only. -/
def isAscii (s : List Char) : Bool :=
  s.all fun c => c.toNat < 0x80

/-- How many characters a label in clear can have, if some are beyond ASCII. -/
def clearLimit : Nat :=
  1000

/-- How many characters an encoded label can have behind its mark. -/
def encodedLimit : Nat :=
  2000

/-- Whether a label in clear can stand in a name: its characters are in the spelling of domain
names, and if some are beyond ASCII, it is in composed form, does not begin with a mark, has its
joiners where they are allowed, and is not too long. -/
def isLabel (s : List Char) : Bool :=
  s.all isValid &&
    (isAscii s ||
      (compose s = s && !s.head?.any isMark && joinersFit s && s.length ≤ clearLimit))

/-- The label in clear that an encoded one stands for, without its mark. -/
def decodeLabel? (s : List Char) : Option (List Char) :=
  if isAscii s && s.length ≤ encodedLimit then (Punycode.decode? s).filter isLabel else none

/-- The label in clear, for one in the spelling of domain names. -/
def clearLabel? (s : List Char) : Option (List Char) :=
  if encodedMark.isPrefixOf s then decodeLabel? (s.drop encodedMark.length)
  else if isLabel s then some s
  else none

/-- A label in ASCII. -/
def encodeLabel (s : List Char) : List Char :=
  if isAscii s then s else encodedMark ++ Punycode.encode s

/-- A name in the spelling of domain names. -/
def spell? (s : List Char) : Option (List Char) :=
  (s.mapM mapping?).map fun pieces =>
    if isAscii pieces.flatten then pieces.flatten else compose pieces.flatten

/-- The labels in clear of a name in the spelling of domain names, if they can stand together. -/
def clearLabels? (name : List Char) : Option (List (List Char)) :=
  ((splitAt '.' name).mapM clearLabel?).filter directionsFit

/-- Labels in clear as a name in ASCII. -/
def encodeLabels (labels : List (List Char)) : List Char :=
  joinWith ['.'] (labels.map encodeLabel)

/-- A domain name in ASCII. -/
def toAscii? (s : List Char) : Option (List Char) :=
  ((spell? s).bind clearLabels?).map encodeLabels

end Phrasebook.Url.Domain
