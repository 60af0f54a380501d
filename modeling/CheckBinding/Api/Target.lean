import CheckBinding.Api.Http
import CheckBinding.Text.Pieces

/-!
Where a request goes: the host and port that its address names, and the path and query as they are
sent.

Addresses are read leniently, as browsers read them: white space around them and line breaks in
them do not count, backslashes separate like slashes, segments of one or two dots are walked, and
what cannot be sent as it is is written as percent signs and the octets in hexadecimal.
-/

namespace CheckBinding.Api.Http

structure Target where
  secure : Bool
  host : String
  port : Nat
  text : String
deriving DecidableEq

namespace Target

/-! ### Octets -/

def escapedOctet (octet : UInt8) : List Char :=
  ['%', (Text.hexDigit (octet.toNat / 16)).toUpper, (Text.hexDigit (octet.toNat % 16)).toUpper]

def escape (stands : Char → Bool) (characters : List Char) : List Char :=
  characters.flatMap (fun character =>
    if stands character then [character]
    else (String.singleton character).toUTF8.toList.flatMap escapedOctet)

def isPrintable (character : Char) : Bool :=
  0x21 ≤ character.toNat && character.toNat ≤ 0x7E

def standsInPath (character : Char) : Bool :=
  isPrintable character &&
    !List.contains ['"', '#', '<', '>', '?', '\x60', '\x7b', '\x7d'] character

def standsInQuery (character : Char) : Bool :=
  isPrintable character && !List.contains ['"', '#', '<', '>', '\''] character

def standsInForm (character : Char) : Bool :=
  character.isAlphanum || ['*', '-', '.', '_'].contains character

/-- One side of a pair in a form, where a space is a plus sign. -/
def formText (text : String) : List Char :=
  (escape (fun character => character = ' ' || standsInForm character) text.toList).map
    (fun character => if character = ' ' then '+' else character)

def formPairs (pairs : List (String × String)) : List (List Char) :=
  pairs.map (fun (name, value) => formText name ++ ['='] ++ formText value)

/-! ### Paths -/

def segments (path : List Char) : List (List Char) :=
  Text.splitChars '/' (path.map (fun character => if character = '\\' then '/' else character))

def withDots (segment : List Char) : String :=
  ".".intercalate ((String.ofList (segment.map Char.toLower)).splitOn "%2e")

/-- Walks a path, given the segments behind, latest first. A segment of one dot stays, one of two
dots goes back, and at the end either leaves an empty segment. -/
def walk (behind : List (List Char)) : List (List Char) → List (List Char)
  | [] => behind.reverse
  | segment :: rest =>
      let closing := if rest = [] then [[]] else []
      match withDots segment with
      | "." => walk (closing ++ behind) rest
      | ".." => walk (closing ++ behind.drop 1) rest
      | _ => walk (escape standsInPath segment :: behind) rest

def pathText (path : List Char) : List Char :=
  let inside := match path with
    | '/' :: rest => rest
    | '\\' :: rest => rest
    | other => other
  (walk [] (segments inside)).flatMap (fun segment => '/' :: segment)

/-! ### Hosts -/

def standsInHost (character : Char) : Bool :=
  isPrintable character &&
    !List.contains ['#', '/', '<', '>', '?', '@', '[', '\\', ']', '^', '|', '%', ':'] character

/-- The host and the port behind its colon, if there is one. Brackets keep their colons. -/
def hostAndPort (authority : List Char) : Option (String × List Char) :=
  match authority with
  | '[' :: rest => do
      let (host, after) ← Text.cutChars ']' rest
      return (String.ofList host, after)
  | other =>
      let host := other.takeWhile (fun character => character ≠ ':')
      if host = [] ∨ !host.all standsInHost then none
      else some (String.ofList (host.map Char.toLower), other.drop host.length)

def portOf (usual : Nat) : List Char → Option Nat
  | [] => some usual
  | [':'] => some usual
  | ':' :: digits =>
      if digits.all Text.isDigit ∧ Text.natOfDigits digits < Nat.pow 2 16 then
        some (Text.natOfDigits digits)
      else none
  | _ => none

def afterCredentials (authority : List Char) : List Char :=
  (authority.reverse.takeWhile (fun character => character ≠ '@')).reverse

/-! ### Addresses -/

def clean (url : String) : List Char :=
  (Text.stripChars (fun character => character.toNat ≤ 0x20) url.toList).filter
    (fun character => !List.contains ['\t', '\n', '\r'] character)

def scheme? (url : List Char) : Option (Bool × List Char) := do
  let (name, rest) ← Text.cutChars ':' url
  match String.ofList (name.map Char.toLower) with
  | "http" => return (false, rest)
  | "https" => return (true, rest)
  | _ => none

def cutBefore (test : Char → Bool) (characters : List Char) : List Char × List Char :=
  (characters.takeWhile (fun character => !test character),
    characters.dropWhile (fun character => !test character))

def ofRequest? (request : Request) : Option Target := do
  let (secure, rest) ← scheme? (clean request.url)
  let rest := rest.dropWhile (fun character => character = '/' || character = '\\')
  let (authority, rest) :=
    cutBefore (fun character => ['/', '\\', '?', '#'].contains character) rest
  let (host, after) ← hostAndPort (afterCredentials authority)
  let port ← portOf (if secure then 443 else 80) after
  let (rest, _) := cutBefore (fun character => character = '#') rest
  let (path, query) := cutBefore (fun character => character = '?') rest
  let given := escape standsInQuery (query.drop 1)
  let parts := (if given = [] then [] else [given]) ++ formPairs request.query
  let queryText := if parts = [] then [] else '?' :: ['&'].intercalate parts
  return ⟨secure, host, port, String.ofList (pathText path ++ queryText)⟩

end Target
end CheckBinding.Api.Http
