import DropletClient.Http.Percent
import DropletClient.Text.Blank

namespace DropletClient.Http

/-!
# Addresses

The parts of a web address that a request needs. An address is read leniently:
control characters and blanks around it are dropped, backslashes count as
slashes, segments of dots are resolved, and characters that must not stand in an
address are percent-encoded.
-/

/--
Where a request goes: the scheme, the host, its port, the path, and the query if
there is one.
-/
structure Url where
  secure : Bool
  host : String
  port : Nat
  path : String
  query : Option String
  deriving Repr, DecidableEq

namespace Url

/--
A blank or a control character, which is dropped at both ends of an address.
-/
def isPadding (character : Char) : Bool :=
  character ≤ ' '

/-- A character that is dropped everywhere in an address. -/
def isDropped (character : Char) : Bool :=
  character == '\t' || character == '\n' || character == '\r'

/-- The text of an address without what is dropped. -/
def cleaned (text : List Char) : List Char :=
  let inner := ((text.dropWhile isPadding).reverse.dropWhile isPadding).reverse
  inner.filter fun character => !isDropped character

/-- What follows the scheme; true marks the secure one. -/
def scheme? (text : List Char) : Option (Bool × List Char) :=
  let name := (text.takeWhile (· != ':')).map Char.toLower
  let rest := text.dropWhile (· != ':')
  if rest.isEmpty then none
  else if name = "http".toList then some (false, rest.drop 1)
  else if name = "https".toList then some (true, rest.drop 1)
  else none

/-- A slash of either kind. -/
def isSlash (character : Char) : Bool :=
  character == '/' || character == '\\'

/-- What ends the authority of an address. -/
def endsAuthority (character : Char) : Bool :=
  isSlash character || character == '?' || character == '#'

/--
What follows the last occurrence of a character, or the whole text without one.
-/
def afterLast (mark : Char) (text : List Char) : List Char :=
  (text.reverse.takeWhile (· != mark)).reverse

/-- A character that cannot stand in the name of a host. -/
def isForbiddenInHost (character : Char) : Bool :=
  character ≤ ' ' || character == '\x7f' ||
    "#/<>?@[\\]^|%:".toList.contains character

/-- A host, which is not empty; brackets enclose a numeric one with colons. -/
def host? (text : List Char) : Option String :=
  match text with
  | [] => none
  | '[' :: rest =>
      if rest.getLast? = some ']' then some (String.ofList text) else none
  | _ =>
      if text.any isForbiddenInHost then none
      else some (String.ofList (text.map Char.toLower))

/--
The port in the text behind the colon; an empty text is the port of the scheme.
-/
def port? (secure : Bool) (text : List Char) : Option Nat :=
  if text.isEmpty then some (if secure then 443 else 80)
  else (Text.Decimal.value? text).filter fun port => port < 65536

/-- The host and the port of an authority, whose user is passed over. -/
def authority? (secure : Bool) (text : List Char) : Option (String × Nat) := do
  let address := afterLast '@' text
  let ending := afterLast ':' address
  if ending.length < address.length ∧ !ending.contains ']' then
    let host ← host? (address.take (address.length - ending.length - 1))
    let port ← port? secure ending
    some (host, port)
  else
    let host ← host? address
    let port ← port? secure []
    some (host, port)

/-- A character that stands in a path as itself. -/
def isKeptInPath (character : Char) : Bool :=
  ' ' < character && character < '\x7f' &&
    !"\"#<>?\x60\x7b\x7d".toList.contains character

/-- A character that stands in a query as itself. -/
def isKeptInQuery (character : Char) : Bool :=
  ' ' < character && character < '\x7f' && !"\"#<>'".toList.contains character

/-- The spellings of a segment that stays where it is. -/
def singleDots : List (List Char) :=
  [".".toList, "%2e".toList]

/-- The spellings of a segment that goes up. -/
def doubleDots : List (List Char) :=
  ["..".toList, ".%2e".toList, "%2e.".toList, "%2e%2e".toList]

/-- The segments of a path without dots; `kept` has the newest segment first. -/
def resolve (kept : List (List Char)) : List (List Char) → List (List Char)
  | [] => kept.reverse
  | segment :: rest =>
      let lowered := segment.map Char.toLower
      let next :=
        if doubleDots.contains lowered then kept.drop 1
        else if singleDots.contains lowered then kept
        else segment :: kept
      let isDots := doubleDots.contains lowered || singleDots.contains lowered
      if rest.isEmpty && isDots then ([] :: next).reverse else resolve next rest

/-- The path of an address: resolved, and encoded. -/
def normalPath (text : List Char) : List Char :=
  let slashed :=
    text.map fun character => if isSlash character then '/' else character
  let segments := Text.split '/' (slashed.drop 1)
  let encoded :=
    segments.map fun segment => segment.flatMap (percentEncode isKeptInPath)
  '/' :: Text.join ['/'] (resolve [] encoded)

/-- The address that a text spells. -/
def ofText? (text : String) : Option Url := do
  let (secure, rest) ← scheme? (cleaned text.toList)
  let rest := rest.dropWhile isSlash
  let (host, port) ← authority? secure
    (rest.takeWhile fun character => !endsAuthority character)
  let rest := rest.dropWhile fun character => !endsAuthority character
  let withoutFragment := rest.takeWhile (· != '#')
  let path := withoutFragment.takeWhile (· != '?')
  let query :=
    match withoutFragment.dropWhile (· != '?') with
    | [] => none
    | _ :: query =>
        some (String.ofList (query.flatMap (percentEncode isKeptInQuery)))
  some { secure, host, port, path := String.ofList (normalPath path), query }

/-- Adds names and values to the query. -/
def addQuery (url : Url) (pairs : List QueryPair) : Url :=
  let added := String.ofList (form pairs)
  let query :=
    match url.query.filter fun text => !text.isEmpty with
    | none => added
    | some before => if pairs.isEmpty then before else before ++ "&" ++ added
  { url with query := if query.isEmpty then none else some query }

/-- What a request line names: the path and the query. -/
def target (url : Url) : String :=
  match url.query with
  | none => url.path
  | some query => url.path ++ "?" ++ query

end Url

end DropletClient.Http
