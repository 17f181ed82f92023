import Phrasebook.Url.Host

/-!
## URLs

A URL is kept in its parts, each already in the spelling in which it is written.  `Url.render` puts
them together.
-/

namespace Phrasebook

open Phrasebook.Text

namespace Url

/-- Who serves a URL: credentials, a host, and the number of a socket there that is not the usual
one of the scheme. -/
structure Authority where
  username : List Char
  password : List Char
  host : Host
  socket : Option Nat
  deriving DecidableEq, Repr

/-- What stands between the scheme and the query. -/
inductive Location where
  /-- An authority and the segments of a path. -/
  | served (authority : Authority) (path : List (List Char))
  /-- The segments of a path from the root, without an authority. -/
  | rooted (path : List (List Char))
  /-- A path without segments. -/
  | bare (path : List Char)
  deriving DecidableEq, Repr

end Url

/-- A URL in its parts. -/
structure Url where
  scheme : List Char
  location : Url.Location
  query : Option (List Char)
  fragment : Option (List Char)
  deriving DecidableEq, Repr

namespace Url

/-- The schemes with an authority and a path of their own kind, with their usual sockets. -/
def specialSchemes : List (List Char × Option Nat) :=
  [("http".toList, some 80), ("https".toList, some 443), ("ws".toList, some 80),
   ("wss".toList, some 443), ("ftp".toList, some 21), ("file".toList, none)]

/-- Whether a scheme is special. -/
def isSpecial (scheme : List Char) : Bool :=
  specialSchemes.any fun entry => entry.1 = scheme

/-- The usual socket of a scheme. -/
def usualSocket (scheme : List Char) : Option Nat :=
  (specialSchemes.find? fun entry => entry.1 = scheme).bind Prod.snd

/-- The scheme of local files. -/
def fileScheme : List Char :=
  "file".toList

/-- Credentials as they are written, with the sign behind them. -/
def renderCredentials (username password : List Char) : List Char :=
  if username.isEmpty && password.isEmpty then []
  else if password.isEmpty then username ++ ['@']
  else username ++ ':' :: password ++ ['@']

/-- An authority as it is written. -/
def Authority.render (a : Authority) : List Char :=
  renderCredentials a.username a.password ++ a.host.render ++
    match a.socket with
    | some socket => ':' :: decimal socket
    | none => []

/-- Segments as they are written, each behind a slash. -/
def renderPath (path : List (List Char)) : List Char :=
  path.flatMap fun segment => '/' :: segment

/-- A location as it is written.  A path from the root that begins with an empty segment has a dot
put before it, so that it does not look like an authority. -/
def Location.render : Location → List Char
  | .served authority path => '/' :: '/' :: authority.render ++ renderPath path
  | .rooted path =>
    match path with
    | [] :: _ :: _ => '/' :: '.' :: renderPath path
    | _ => renderPath path
  | .bare path => path

/-- A part that may be missing, behind the sign that begins it. -/
def renderOptional (sign : Char) : Option (List Char) → List Char
  | some part => sign :: part
  | none => []

/-- A URL as it is written. -/
def render (u : Url) : List Char :=
  u.scheme ++ ':' :: u.location.render ++ renderOptional '?' u.query ++
    renderOptional '#' u.fragment

/-- An authority without credentials. -/
def Authority.withoutCredentials (a : Authority) : Authority :=
  { a with username := [], password := [] }

/-- Whether an encoded text stands for text. -/
def isEncodedText (s : List Char) : Bool :=
  (String.fromUTF8? ⟨(decodeBytes s).toArray⟩).isSome

/-- Whether credentials can be read: the user name, and there is either a user name or a password
that can be read. -/
def Authority.hasReadableCredentials (a : Authority) : Bool :=
  isEncodedText a.username && (!a.username.isEmpty || isEncodedText a.password)

/-- A URL without its credentials, if they can be read. -/
def withoutCredentials (u : Url) : Url :=
  match u.location with
  | .served authority path =>
    if authority.hasReadableCredentials then
      { u with location := .served authority.withoutCredentials path }
    else u
  | _ => u

/-- A URL as a string. -/
def toString (u : Url) : String :=
  String.ofList u.render

end Url

end Phrasebook
