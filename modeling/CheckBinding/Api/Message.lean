import CheckBinding.Api.Target

/-!
Requests and responses as they are written on a connection that carries one of each.

A response has a first line with its status, headers, an empty line, and a body. The body is as
long as a header says, or comes in chunks that each say their length, or lasts to the end.
-/

namespace CheckBinding.Api.Http

def lineEnd : String := "\r\n"

/-! ### Requests -/

def Method.word : Method → String
  | .get => "GET"
  | .post => "POST"
  | .put => "PUT"

/-- The host as a header names it: with its port, unless it is the usual one. -/
def Target.hostHeader (target : Target) : String :=
  let shown := if target.host.contains ':' then "[" ++ target.host ++ "]" else target.host
  if target.port = (if target.secure then 443 else 80) then shown
  else shown ++ ":" ++ Text.decimal target.port

def Request.allHeaders (request : Request) (target : Target) : List (String × String) :=
  let length := match request.body with
    | some body => [("content-length", Text.decimal body.size)]
    | none => []
  ("host", target.hostHeader) :: request.headers ++ length ++ [("connection", "close")]

def Request.toBytes (request : Request) (target : Target) : ByteArray :=
  let first := request.method.word ++ " " ++ target.text ++ " HTTP/1.1" ++ lineEnd
  let headers := (request.allHeaders target).map (fun (name, value) =>
    name ++ ": " ++ value ++ lineEnd)
  (first ++ String.join headers ++ lineEnd).toUTF8 ++ request.body.getD ByteArray.empty

/-! ### Responses -/

def cutLine : List UInt8 → Option (List UInt8 × List UInt8)
  | [] => none
  | 13 :: 10 :: rest => some ([], rest)
  | head :: rest => (cutLine rest).map (fun (line, rest) => (head :: line, rest))

def lineText (line : List UInt8) : String :=
  Text.lossy (ByteArray.mk line.toArray)

def statusOf (line : String) : Option Nat := do
  let rest ← Text.after? "HTTP/1." line
  let digits := ((rest.toList.drop 2).takeWhile Text.isDigit)
  if digits.length = 3 then some (Text.natOfDigits digits) else none

def headerOf (line : String) : Option (String × String) := do
  let (name, value) ← Text.cutChars ':' line.toList
  return (String.ofList (name.map Char.toLower), Text.trim (String.ofList value))

def readHeaders : (fuel : Nat) → List UInt8 → Option (List (String × String) × List UInt8)
  | 0, _ => none
  | fuel + 1, bytes => do
      let (line, rest) ← cutLine bytes
      if line = [] then return ([], rest)
      else
        let header ← headerOf (lineText line)
        let (headers, rest) ← readHeaders fuel rest
        return (header :: headers, rest)

def chunkLength? (line : String) : Option Nat :=
  let digits := (Text.trim line).toList.takeWhile (fun character =>
    (Text.hexValue? character).isSome)
  if digits = [] then none
  else some (digits.foldl (fun value digit => value * 16 + (Text.hexValue? digit).getD 0) 0)

/-- A body that comes in chunks; an empty one ends it. -/
def readChunks : (fuel : Nat) → List UInt8 → Option (List UInt8)
  | 0, _ => none
  | fuel + 1, bytes => do
      let (line, rest) ← cutLine bytes
      let length ← chunkLength? (lineText line)
      if length = 0 then return []
      else if rest.length < length then none
      else
        let (_, after) ← cutLine (rest.drop length)
        return rest.take length ++ (← readChunks fuel after)

def bodyBytes (headers : List (String × String)) (bytes : List UInt8) : Option (List UInt8) :=
  if headers.lookup "transfer-encoding" = some "chunked" then
    readChunks (bytes.length + 1) bytes
  else
    match headers.lookup "content-length" with
    | none => some bytes
    | some digits =>
        let length := Text.natOfDigits digits.toList
        if bytes.length < length then none else some (bytes.take length)

def Response.ofBytes? (bytes : ByteArray) : Option Response := do
  let (first, rest) ← cutLine bytes.toList
  let status ← statusOf (lineText first)
  let (headers, rest) ← readHeaders (rest.length + 1) rest
  let body ← bodyBytes headers rest
  return ⟨status, ByteArray.mk body.toArray⟩

end CheckBinding.Api.Http
