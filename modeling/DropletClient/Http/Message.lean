import DropletClient.Http.Url
import DropletClient.Text.Hexadecimal

namespace DropletClient

/-- A response: its status and its body. -/
structure HttpResponse where
  status : Nat
  body : List UInt8
  deriving Repr, DecidableEq

namespace Http

/-!
# Messages

A request is one line and a few headers. A response is a line with the status,
headers, and a body, whose end is told by its length, by chunks, or by the end
of the connection.
-/

/--
The host of an address, and its port unless that is the one of the scheme.
-/
def Url.authority (url : Url) : String :=
  if url.port = (if url.secure then 443 else 80) then url.host
  else url.host ++ ":" ++ Text.Decimal.ofNat url.port

/-- What is sent to ask for the thing at an address. -/
def requestText (url : Url) : String :=
  "GET " ++ url.target ++ " HTTP/1.1\r\naccept: */*\r\nhost: " ++
    url.authority ++ "\r\nconnection: close\r\n\r\n"

/-- The bytes in front of the first end of a line, and those behind it. -/
def splitLine? : List UInt8 → Option (List UInt8 × List UInt8)
  | 13 :: 10 :: rest => some ([], rest)
  | byte :: rest =>
      (splitLine? rest).map fun (line, later) => (byte :: line, later)
  | [] => none

/-- The lines in front of the first empty line, and the bytes behind it. -/
def splitHead? : (fuel : Nat) → List UInt8 → Option (List String × List UInt8)
  | 0, _ => none
  | fuel + 1, bytes => do
      let (line, rest) ← splitLine? bytes
      if line.isEmpty then
        some ([], rest)
      else
        let (lines, body) ← splitHead? fuel rest
        some (String.ofList (Text.Utf8.decodeLossy line) :: lines, body)

/--
The status in the first line of a response: three digits behind the version.
-/
def status? (line : String) : Option Nat :=
  match Text.split ' ' line.toList with
  | version :: status :: _ =>
      if "HTTP/1.".toList.isPrefixOf version ∧
        status.length = 3 then Text.Decimal.value? status
      else none
  | _ => none

/--
The value of a header, without white space around it; names are the same in
either case.
-/
def header? (name : String) (lines : List String) : Option String :=
  lines.findSome? fun line =>
    let characters := line.toList
    if (characters.takeWhile (· != ':')).map Char.toLower = name.toList then
      some
        (String.ofList (Text.trim ((characters.dropWhile (· != ':')).drop 1)))
    else
      none

/-- The number that hexadecimal digits denote. -/
def hexadecimal? (digits : List Char) : Option Nat :=
  if digits.isEmpty then none
  else
    digits.foldl
      (fun value? digit => do
        return (← value?) * 16 + (← Text.hexValue? digit))
      (some 0)

/-- The first bytes, as many as asked for, and those behind them. -/
def takeExactly?
    (count : Nat)
    (bytes : List UInt8) :
    Option (List UInt8 × List UInt8) :=
  let taken := bytes.take count
  if taken.length = count then some (taken, bytes.drop count) else none

/--
The bytes of chunks up to the empty one; every chunk has its length in
front of it.
-/
def readChunks? : (fuel : Nat) → List UInt8 → Option (List UInt8)
  | 0, _ => none
  | fuel + 1, bytes => do
      let (line, rest) ← splitLine? bytes
      let digits := (Text.Utf8.decodeLossy line).takeWhile (· != ';')
      let size ← hexadecimal? (Text.trim digits)
      if size = 0 then
        some []
      else
        let (chunk, rest) ← takeExactly? size rest
        let (_, rest) ← splitLine? rest
        let later ← readChunks? fuel rest
        some (chunk ++ later)

/-- A status whose responses have no body. -/
def hasNoBody (status : Nat) : Bool :=
  status < 200 || status == 204 || status == 304

/-- The body among the bytes behind the headers. -/
def body?
    (status : Nat)
    (headers : List String)
    (bytes : List UInt8) :
    Option (List UInt8) :=
  if hasNoBody status then some []
  else if (header? "transfer-encoding" headers).isSome then
    readChunks? (bytes.length + 1) bytes
  else
    match header? "content-length" headers with
    | none => some bytes
    | some text => do
        let length ← Text.Decimal.value? text.toList
        let (body, _) ← takeExactly? length bytes
        some body

end Http

/-- The response that the bytes of a connection are, if they are a whole one. -/
def HttpResponse.ofBytes? (bytes : List UInt8) : Option HttpResponse := do
  let (lines, rest) ← Http.splitHead? (bytes.length + 1) bytes
  let first ← lines.head?
  let status ← Http.status? first
  let body ← Http.body? status lines.tail rest
  some { status, body }

end DropletClient
