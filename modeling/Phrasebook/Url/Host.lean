import Phrasebook.Text.Split
import Phrasebook.Url.Domain.Name
import Phrasebook.Url.Percent

/-!
## Hosts

The host of a URL with a special scheme is a domain name or an address; that of any other URL is a
name without further structure.

* `readIpv4?` reads an address of one to four numbers in decimal, octal or hexadecimal notation, the
  last of which fills the remaining bytes.
* `readIpv6?` reads eight pieces, of which one run of zeros may be left out and the last two may be
  written as an address of version 4.
* `Host.parseSpecial` decides between them.  A name whose last label is a number has to be an
  address.
* `Host.render` writes a host.
-/

namespace Phrasebook.Url

open Phrasebook.Text

/-- Why a text is not a URL. -/
inductive Fault where
  /-- It has no scheme. -/
  | relative
  | emptyHost
  | invalidSocket
  | invalidIpv4
  | invalidIpv6
  /-- The host is no domain name. -/
  | invalidDomain
  /-- The host of a URL without special scheme has a character that no host can have. -/
  | invalidHostCharacter
  deriving DecidableEq, Repr

/-- The fault in words. -/
def Fault.reason : Fault → String
  | .relative => "relative URL without a base"
  | .emptyHost => "empty host"
  | .invalidSocket => "invalid port number"
  | .invalidIpv4 => "invalid IPv4 address"
  | .invalidIpv6 => "invalid IPv6 address"
  | .invalidDomain => "invalid international domain name"
  | .invalidHostCharacter => "invalid domain character"

/-- A host. -/
inductive Host where
  /-- A domain name in lower case. -/
  | domain (name : List Char)
  /-- An address of 32 bits. -/
  | ipv4 (address : Nat)
  /-- An address of eight pieces of 16 bits. -/
  | ipv6 (pieces : List Nat)
  /-- A name without further structure, empty if there is no host. -/
  | plain (name : List Char)
  deriving DecidableEq, Repr

/-! ### Addresses of version 4 -/

/-- The value of a run of octal digits, if it has no other characters. -/
def octalNumber? (ds : List Char) : Option Nat :=
  if ds.all fun c => '0' ≤ c && c ≤ '7' then
    some (ds.foldl (fun value d => 8 * value + digitValue d) 0)
  else none

/-- One number of an address: hexadecimal behind `0x`, octal behind `0`, decimal otherwise. -/
def ipv4Number? : List Char → Option Nat
  | [] => none
  | '0' :: 'x' :: ds => hexNumber? ds
  | '0' :: 'X' :: ds => hexNumber? ds
  | '0' :: d :: ds => octalNumber? (d :: ds)
  | ds => if ds.all isDigit then some (digitsValue ds) else none

/-- The labels of a name, without an empty one at the end. -/
def labels (name : List Char) : List (List Char) :=
  let parts := splitAt '.' name
  if 1 < parts.length && parts.getLast? == some [] then parts.dropLast else parts

/-- Whether the last label of a name is a number. -/
def endsInNumber (name : List Char) : Bool :=
  match (labels name).getLast? with
  | none => false
  | some label =>
    (!label.isEmpty && label.all isDigit) || (ipv4Number? label).isSome

/-- The address whose numbers these are: every number but the last is one byte. -/
def ipv4OfNumbers? (numbers : List Nat) : Option Nat :=
  match numbers.reverse with
  | [] => none
  | last :: before =>
    -- The last number fills the bytes that the others leave.
    let room := Nat.pow 256 (5 - numbers.length)
    if numbers.length ≤ 4 && before.all (· ≤ 255) && last < room then
      some (before.reverse.foldl (fun address n => 256 * address + n) 0 * room + last)
    else none

/-- The address that a name is. -/
def readIpv4? (name : List Char) : Option Nat :=
  ((labels name).mapM ipv4Number?).bind ipv4OfNumbers?

/-- The four bytes of an address in decimal. -/
def renderIpv4 (address : Nat) : List Char :=
  joinWith ['.'] <| [3, 2, 1, 0].map fun i => decimal (address / Nat.pow 256 i % 256)

/-! ### Addresses of version 6 -/

/-- One piece: one to four hexadecimal digits. -/
def ipv6Piece? (s : List Char) : Option Nat :=
  if s.isEmpty || 4 < s.length then none else hexNumber? s

/-- One byte of an embedded address of version 4: decimal, without leading zeros. -/
def strictByte? (s : List Char) : Option Nat :=
  if s.isEmpty || 3 < s.length || !s.all isDigit || (s.head? == some '0' && 1 < s.length) then none
  else if digitsValue s ≤ 255 then some (digitsValue s) else none

/-- The two pieces of an embedded address of version 4. -/
def embeddedIpv4? (s : List Char) : Option (List Nat) :=
  match (splitAt '.' s).mapM strictByte? with
  | some [a, b, c, d] => some [256 * a + b, 256 * c + d]
  | _ => none

/-- The pieces written between colons; the last may be an embedded address if `embedded` holds. -/
def ipv6Pieces? (embedded : Bool) : List (List Char) → Option (List Nat)
  | [] => some []
  | [s] =>
    if embedded && s.contains '.' then embeddedIpv4? s else (ipv6Piece? s).map ([·])
  | s :: rest => do return (← ipv6Piece? s) :: (← ipv6Pieces? embedded rest)

/-- The pieces of a text that may be empty. -/
def ipv6Side? (embedded : Bool) (s : List Char) : Option (List Nat) :=
  if s.isEmpty then some [] else ipv6Pieces? embedded (splitAt ':' s)

/-- What stands before and after the first double colon. -/
def cutDoubleColon? : List Char → Option (List Char × List Char)
  | ':' :: ':' :: rest => some ([], rest)
  | [] => none
  | c :: rest => (cutDoubleColon? rest).map fun (before, after) => (c :: before, after)

/-- The pieces of an address. -/
def readIpv6? (s : List Char) : Option (List Nat) :=
  match cutDoubleColon? s with
  | none => do
    let pieces ← ipv6Side? true s
    if pieces.length = 8 then some pieces else none
  | some (before, after) => do
    let left ← ipv6Side? false before
    let right ← ipv6Side? true after
    if left.length + right.length ≤ 7 then
      some (left ++ List.replicate (8 - left.length - right.length) 0 ++ right)
    else none

/-- The number of zeros at the start of a list of pieces. -/
def leadingZeros : List Nat → Nat
  | 0 :: rest => leadingZeros rest + 1
  | _ => 0

/-- The place and length of the longest run of zeros, the first of several; the length is zero if
there is no zero. -/
def longestZeros : List Nat → Nat × Nat
  | [] => (0, 0)
  | n :: rest =>
    let (start, length) := longestZeros rest
    if n = 0 && length ≤ leadingZeros (n :: rest) then (0, leadingZeros (n :: rest))
    else (start + 1, length)

/-- An address with its longest run of two or more zeros left out. -/
def renderIpv6 (pieces : List Nat) : List Char :=
  let (start, length) := longestZeros pieces
  let write (ps : List Nat) := joinWith [':'] (ps.map hexadecimal)
  if length < 2 then write pieces
  else write (pieces.take start) ++ [':', ':'] ++ write (pieces.drop (start + length))

/-! ### Any host -/

/-- The ASCII letters in lower case. -/
def lower (s : List Char) : List Char :=
  s.map Char.toLower

/-- The characters that no domain name has. -/
def isForbiddenInDomain (c : Char) : Bool :=
  c.toNat ≤ 0x20 || 0x7F ≤ c.toNat || "%#/:<>?@[\\]^|".toList.contains c

/-- The characters that no host has. -/
def isForbiddenInHost (c : Char) : Bool :=
  "\x00\t\n\r #/:<>?@[\\]^|".toList.contains c

/-- The address between brackets, or a fault if the closing bracket or the address is missing. -/
def parseBracketed (s : List Char) : Except Fault Host :=
  match s.reverse with
  | ']' :: inner =>
    match readIpv6? inner.reverse with
    | some pieces => .ok (.ipv6 pieces)
    | none => .error .invalidIpv6
  | _ => .error .invalidIpv6

/-- The host of a URL with a special scheme. -/
def Host.parseSpecial (s : List Char) : Except Fault Host :=
  match s with
  | '[' :: inner => parseBracketed inner
  | _ =>
    match Domain.toAscii? (Utf8.decodeLossy (decodeBytes s)) with
    | none => .error .invalidDomain
    | some name =>
      if name.any isForbiddenInDomain then .error .invalidDomain
      else if name.isEmpty then .error .emptyHost
      else if endsInNumber name then
        match readIpv4? name with
        | some address => .ok (.ipv4 address)
        | none => .error .invalidIpv4
      else .ok (.domain name)

/-- The host of a URL without special scheme. -/
def Host.parsePlain (s : List Char) : Except Fault Host :=
  match s with
  | '[' :: inner => parseBracketed inner
  | _ =>
    if s.any isForbiddenInHost then .error .invalidHostCharacter
    else .ok (.plain (encodeWith isControl s))

/-- A host as it is written. -/
def Host.render : Host → List Char
  | .domain name => name
  | .ipv4 address => renderIpv4 address
  | .ipv6 pieces => '[' :: renderIpv6 pieces ++ [']']
  | .plain name => name

end Phrasebook.Url
