import Phrasebook.Url.Basic

/-!
## Reading URLs

URLs are read as the URL standard lays down, without a base.  White space around the text and line
breaks inside it are dropped, the scheme and the host are put in lower case, dot segments are
resolved, and the characters that a part cannot hold are percent-encoded.

* `Url.parse` reads a URL.
* `Trail.follow` resolves dot segments.
-/

namespace Phrasebook.Url

open Phrasebook.Text

/-! ### Around the parts -/

/-- Whether a character is dropped at both ends of a URL: a space or a control character below it.
-/
def isOuter (c : Char) : Bool :=
  c.toNat ≤ 0x20

/-- Whether a character is dropped anywhere in a URL. -/
def isBreak (c : Char) : Bool :=
  c == '\t' || c == '\n' || c == '\r'

/-- The text without what is dropped. -/
def clean (s : List Char) : List Char :=
  ((s.dropWhile isOuter).reverse.dropWhile isOuter).reverse.filter fun c => !isBreak c

/-- Whether a character is an ASCII letter. -/
def isLetter (c : Char) : Bool :=
  ('a' ≤ c && c ≤ 'z') || ('A' ≤ c && c ≤ 'Z')

/-- Whether a character can stand in a scheme, behind the first. -/
def isSchemeChar (c : Char) : Bool :=
  isLetter c || isDigit c || c == '+' || c == '-' || c == '.'

/-- The scheme in lower case, and what follows its colon. -/
def readScheme (s : List Char) : Option (List Char × List Char) :=
  match cut? ':' s with
  | some (c :: cs, rest) =>
    if isLetter c && cs.all isSchemeChar then some (lower (c :: cs), rest) else none
  | _ => none

/-- A text up to the first `sign`, and what follows it, if it is there. -/
def cutOff (sign : Char) (s : List Char) : List Char × Option (List Char) :=
  match cut? sign s with
  | some (before, after) => (before, some after)
  | none => (s, none)

/-! ### Authorities -/

/-- Credentials, encoded. -/
def readCredentials (s : List Char) : List Char × List Char :=
  let (username, password) := cutOff ':' s
  (encodeWith userinfoSet username, encodeWith userinfoSet (password.getD []))

/-- A host up to the colon before the number of a socket, and that number.  Colons between brackets
belong to the host. -/
def cutSocket (inBrackets : Bool) : List Char → List Char × Option (List Char)
  | [] => ([], none)
  | c :: cs =>
    if c == ':' && !inBrackets then ([], some cs)
    else
      let inBrackets := if c == '[' then true else if c == ']' then false else inBrackets
      let (host, socket) := cutSocket inBrackets cs
      (c :: host, socket)

/-- The number of a socket; the usual one of the scheme and an empty one are left out. -/
def readSocket (scheme digits : List Char) : Except Fault (Option Nat) :=
  if digits.isEmpty then .ok none
  else if digits.all isDigit && digitsValue digits ≤ 65535 then
    let socket := some (digitsValue digits)
    .ok (if usualSocket scheme = socket then none else socket)
  else .error .invalidSocket

/-- A host by the rules for its scheme; without a special scheme it may be empty, but then there
can be neither credentials nor a socket. -/
def readHost (special bound : Bool) (s : List Char) : Except Fault Host :=
  if special then
    if s.isEmpty then .error .emptyHost else Host.parseSpecial s
  else if s.isEmpty && bound then .error .emptyHost
  else Host.parsePlain s

/-- An authority, and what stands behind the socket: a backslash ends its digits.  A sign for
credentials that has nothing on either side is left out, but only if nothing follows at all. -/
def readAuthority (scheme s : List Char) (more : Bool) : Except Fault (Authority × List Char) := do
  -- The last `@` counts, so credentials may have others in them.
  let (credentials, server) := (cutLast? '@' s).getD ([], s)
  if s = ['@'] && more then .error .emptyHost
  let (username, password) := readCredentials credentials
  let (hostText, socketText) := cutSocket false server
  let bound := !username.isEmpty || !password.isEmpty || socketText.isSome
  let host ← readHost (isSpecial scheme) bound hostText
  let behind := socketText.getD []
  let socket ← readSocket scheme (behind.takeWhile (· != '\\'))
  return (⟨username, password, host, socket⟩, behind.dropWhile (· != '\\'))

/-! ### Paths -/

/-- Whether a segment means the same place. -/
def isSingleDot (segment : List Char) : Bool :=
  ["." , "%2e"].any fun dot => lower segment = dot.toList

/-- Whether a segment means the place above. -/
def isDoubleDot (segment : List Char) : Bool :=
  ["..", ".%2e", "%2e.", "%2e%2e"].any fun dots => lower segment = dots.toList

/-- Whether a segment is the letter of a drive: a letter with a colon or a bar. -/
def isDriveLetter : List Char → Bool
  | [c, d] => isLetter c && (d == ':' || d == '|')
  | _ => false

/-- Whether a segment begins with the letter of a drive, and with nothing else but a backslash. -/
def isDrive (segment : List Char) : Bool :=
  isDriveLetter (segment.take 2) && (segment.drop 2).head?.all (· == '\\')

/-- The segments of a path so far, last first, and whether the first was the drive of a file. -/
structure Trail where
  segments : List (List Char)
  onDrive : Bool

namespace Trail

/-- The place above.  Nothing is above a drive. -/
def up (t : Trail) : Trail :=
  match t.segments with
  | segment :: before => if isDrive segment then t else { t with segments := before }
  | [] => t

/-- One more segment, encoded.  The drive of a file is written with a colon. -/
def down (file : Bool) (segment : List Char) (t : Trail) : Trail :=
  let segment := encodeWith pathSet segment
  if file && t.segments.isEmpty && isDriveLetter segment then ⟨[segment.take 1 ++ [':']], true⟩
  else { t with segments := segment :: t.segments }

/-- One more segment or dot segment. -/
def enter (file : Bool) (t : Trail) (segment : List Char) : Trail :=
  if isDoubleDot segment then t.up
  else if isSingleDot segment then t
  else t.down file segment

/-- The last segment.  A dot segment at the end leaves an empty segment. -/
def finish (file : Bool) (t : Trail) (segment : List Char) : Trail :=
  let t' := t.enter file segment
  if isDoubleDot segment || isSingleDot segment then { t' with segments := [] :: t'.segments }
  else t'

/-- The trail of segments with the dot segments resolved. -/
def follow (file : Bool) : Trail → List (List Char) → Trail
  | t, [] => t
  | t, [segment] => t.finish file segment
  | t, segment :: rest => follow file (t.enter file segment) rest

/-- The segments in order. -/
def path (t : Trail) : List (List Char) :=
  t.segments.reverse

end Trail

/-- Whether a character separates the segments of a path. -/
def isSlash (special : Bool) (c : Char) : Bool :=
  c == '/' || (special && c == '\\')

/-- The trail of a path behind the slash that it begins with. -/
def readTrail (special file : Bool) (s : List Char) : Trail :=
  Trail.follow file ⟨[], false⟩ (pieces (isSlash special) s)

/-- The path that follows an authority.  Without a special scheme it may be missing. -/
def readServedPath (special : Bool) (s : List Char) : List (List Char) :=
  match s with
  | [] => if special then [[]] else []
  | c :: cs => (readTrail special false (if isSlash special c then cs else s)).path

/-! ### Files -/

/-- The path of a file: slashes at its start count as one. -/
def filePath (path : List (List Char)) : List (List Char) :=
  match path.dropWhile List.isEmpty with
  | [] => [[]]
  | segments => segments

/-- A file under a host, which a drive has not. -/
def fileLocation (host : Host) (t : Trail) : Location :=
  .served ⟨[], [], if t.onDrive then .plain [] else host, none⟩ (filePath t.path)

/-- The host of a file, if it has one: this computer has no name. -/
def readFileHost (s : List Char) : Except Fault (Option Host) := do
  if s.isEmpty then return none
  let host ← Host.parseSpecial s
  return if host = .domain "localhost".toList then none else some host

/-- The location of a file behind two slashes.  A drive in the place of the host belongs to the
path. -/
def readRemoteFile (s : List Char) : Except Fault Location := do
  let name := s.takeWhile fun c => !isSlash true c
  if isDriveLetter name then return fileLocation (.plain []) (readTrail true true s)
  let rest := s.dropWhile fun c => !isSlash true c
  match ← readFileHost name with
  | none => return fileLocation (.plain []) (readTrail true true rest)
  | some host => return fileLocation host (readTrail true true (rest.drop 1))

/-- The location of a file. -/
def readFileLocation (s : List Char) : Except Fault Location :=
  let here (path : List Char) := Except.ok (fileLocation (.plain []) (readTrail true true path))
  match s with
  | a :: b :: rest =>
    if isSlash true a && isSlash true b then readRemoteFile rest
    else here (if isSlash true a then b :: rest else s)
  | [a] => here (if isSlash true a then [] else s)
  | [] => here []

/-- A location by the rules for its scheme; `more` tells whether a query or fragment follows. -/
def readLocation (scheme s : List Char) (more : Bool) : Except Fault Location :=
  let served (special : Bool) (s : List Char) : Except Fault Location := do
    let rest := s.dropWhile fun c => !isSlash special c
    let (authority, behind) ←
      readAuthority scheme (s.takeWhile fun c => !isSlash special c) (more || !rest.isEmpty)
    return .served authority (readServedPath special (behind ++ rest))
  if scheme = fileScheme then readFileLocation s
  else if isSpecial scheme then served true (s.dropWhile (isSlash true))
  else match s with
    | '/' :: '/' :: rest => served false rest
    | '/' :: rest => .ok (.rooted (readTrail false false rest).path)
    | _ => .ok (.bare (encodeWith isControl s))

/-- The set of characters that are encoded in the query of a scheme. -/
def querySetOf (scheme : List Char) : Char → Bool :=
  if isSpecial scheme then specialQuerySet else querySet

/-- Reads a URL. -/
def parse (text : String) : Except Fault Url :=
  match readScheme (clean text.toList) with
  | none => .error .relative
  | some (scheme, rest) => do
    let (rest, fragment) := cutOff '#' rest
    let (rest, query) := cutOff '?' rest
    let location ← readLocation scheme rest (query.isSome || fragment.isSome)
    return ⟨scheme, location, query.map (encodeWith (querySetOf scheme)),
      fragment.map (encodeWith fragmentSet)⟩

end Phrasebook.Url
