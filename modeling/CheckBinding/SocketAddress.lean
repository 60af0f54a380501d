import CheckBinding.Text.Pieces

/-!
Addresses to listen on: a host of one of the two Internet families, and a port.

Reading works from the front: each reader takes what it can off the characters and leaves the
rest. Printing has one form for each address: lower case, no leading zeros, and the first longest
run of zero groups left out.
-/

namespace CheckBinding
namespace SocketAddress

structure IPv4 where
  first : UInt8
  second : UInt8
  third : UInt8
  fourth : UInt8
deriving DecidableEq

structure IPv6 where
  groups : Vector UInt16 8
deriving DecidableEq

end SocketAddress

open SocketAddress in
inductive SocketAddress where
  | v4 (host : IPv4) (port : UInt16)
  | v6 (host : IPv6) (scope : UInt32) (port : UInt16)
deriving DecidableEq

namespace SocketAddress

abbrev Reader (Value : Type) : Type := List Char → Option (Value × List Char)

/-! ### Numbers -/

def decimalDigit? (character : Char) : Option Nat :=
  if Text.isDigit character then some (Text.digitValue character) else none

def takeDigits (digit? : Char → Option Nat) : List Char → List Nat × List Char
  | [] => ([], [])
  | head :: rest =>
      match digit? head with
      | some value =>
          let (values, rest) := takeDigits digit? rest
          (value :: values, rest)
      | none => ([], head :: rest)

def ofDigits (base : Nat) (digits : List Nat) : Nat :=
  digits.foldl (fun value digit => value * base + digit) 0

def readOctet : Reader UInt8 := fun characters =>
  match takeDigits decimalDigit? characters with
  | ([], _) => none
  | (0 :: _ :: _, _) => none
  | (digits, rest) =>
      if digits.length ≤ 3 ∧ ofDigits 10 digits < Nat.pow 2 8 then
        some (UInt8.ofNat (ofDigits 10 digits), rest)
      else none

def readGroup : Reader UInt16 := fun characters =>
  match takeDigits Text.hexValue? characters with
  | ([], _) => none
  | (digits, rest) =>
      if digits.length ≤ 4 then some (UInt16.ofNat (ofDigits 16 digits), rest) else none

def readBelow (bound : Nat) : Reader Nat := fun characters =>
  match takeDigits decimalDigit? characters with
  | ([], _) => none
  | (digits, rest) =>
      if ofDigits 10 digits < bound then some (ofDigits 10 digits, rest) else none

def expect (wanted : Char) : Reader Unit
  | [] => none
  | head :: rest => if head = wanted then some ((), rest) else none

/-! ### Hosts -/

/-- Four octets with dots between them. -/
def readIPv4 : Reader IPv4 := fun characters => do
  let (first, rest) ← readOctet characters
  let ((), rest) ← expect '.' rest
  let (second, rest) ← readOctet rest
  let ((), rest) ← expect '.' rest
  let (third, rest) ← readOctet rest
  let ((), rest) ← expect '.' rest
  let (fourth, rest) ← readOctet rest
  return (⟨first, second, third, fourth⟩, rest)

def IPv4.pair (host : IPv4) : List UInt16 :=
  [host.first.toUInt16 * 256 + host.second.toUInt16,
    host.third.toUInt16 * 256 + host.fourth.toUInt16]

def afterColon (first : Bool) (characters : List Char) : Option (List Char) :=
  if first then some characters else (expect ':' characters).map Prod.snd

/-- At most `room` groups with colons between them; the last two may be given as four octets. The
truth value says whether they were. -/
def readGroups (first : Bool) : (room : Nat) → List Char → (List UInt16 × Bool) × List Char
  | 0, characters => (([], false), characters)
  | room + 1, characters =>
      let host? := if room = 0 then none else (afterColon first characters).bind readIPv4
      match host? with
      | some (host, rest) => ((host.pair, true), rest)
      | none =>
          match (afterColon first characters).bind readGroup with
          | none => (([], false), characters)
          | some (group, rest) =>
              let ((groups, octets), rest) := readGroups false room rest
              ((group :: groups, octets), rest)

def hostOf? (groups : List UInt16) : Option IPv6 :=
  if exact : groups.length = 8 then some ⟨⟨groups.toArray, by simp [exact]⟩⟩ else none

/-- Eight groups, where one run of zero groups may be left out between two colons. Octets stand
only at the very end. -/
def readIPv6 : Reader IPv6 := fun characters => do
  let ((front, octets), rest) := readGroups true 8 characters
  if front.length = 8 then
    let host ← hostOf? front
    return (host, rest)
  else if octets then none
  else
    let ((), rest) ← expect ':' rest
    let ((), rest) ← expect ':' rest
    let ((back, _), rest) := readGroups true (7 - front.length) rest
    let host ← hostOf? (front ++ List.replicate (8 - front.length - back.length) 0 ++ back)
    return (host, rest)

/-! ### Addresses -/

def readPort : Reader UInt16 := fun characters => do
  let ((), rest) ← expect ':' characters
  let (port, rest) ← readBelow (Nat.pow 2 16) rest
  return (UInt16.ofNat port, rest)

def readScope (characters : List Char) : UInt32 × List Char :=
  match (expect '%' characters).bind (fun ((), rest) => readBelow (Nat.pow 2 32) rest) with
  | some (scope, rest) => (UInt32.ofNat scope, rest)
  | none => (0, characters)

def readV4 : Reader SocketAddress := fun characters => do
  let (host, rest) ← readIPv4 characters
  let (port, rest) ← readPort rest
  return (.v4 host port, rest)

def readV6 : Reader SocketAddress := fun characters => do
  let ((), rest) ← expect '[' characters
  let (host, rest) ← readIPv6 rest
  let (scope, rest) := readScope rest
  let ((), rest) ← expect ']' rest
  let (port, rest) ← readPort rest
  return (.v6 host scope port, rest)

def parse? (text : String) : Option SocketAddress :=
  match readV4 text.toList with
  | some (address, []) => some address
  | some _ => none
  | none =>
      match readV6 text.toList with
      | some (address, []) => some address
      | _ => none

/-! ### Printing -/

def IPv4.toText (host : IPv4) : String :=
  ".".intercalate ([host.first, host.second, host.third, host.fourth].map (fun octet =>
    Text.decimal octet.toNat))

structure ZeroRun where
  start : Nat
  length : Nat
deriving DecidableEq

def leadingZeros (groups : List UInt16) : Nat :=
  (groups.takeWhile (fun group => group = 0)).length

/-- The first of the longest runs of zero groups, counting from `start`. -/
def longestRun (start : Nat) : List UInt16 → ZeroRun
  | [] => ⟨start, 0⟩
  | group :: rest =>
      let here : ZeroRun := ⟨start, leadingZeros (group :: rest)⟩
      let later := longestRun (start + 1) rest
      if later.length > here.length then later else here

def groupsText (groups : List UInt16) : String :=
  ":".intercalate (groups.map (fun group => Text.hexadecimal group.toNat))

/-- Writes eight groups. The last two of a host that stands for one with four octets are written
as octets; else a run of at least two zero groups is left out. -/
def IPv6.toText (host : IPv6) : String :=
  match host.groups.toList with
  | [0, 0, 0, 0, 0, 0xffff, high, low] =>
      "::ffff:" ++ IPv4.toText ⟨(high / 256).toUInt8, high.toUInt8, (low / 256).toUInt8,
        low.toUInt8⟩
  | groups =>
      let run := longestRun 0 groups
      if run.length > 1 then
        groupsText (groups.take run.start) ++ "::" ++
          groupsText (groups.drop (run.start + run.length))
      else groupsText groups

def toText : SocketAddress → String
  | .v4 host port => IPv4.toText host ++ ":" ++ Text.decimal port.toNat
  | .v6 host scope port =>
      let shown := if scope = 0 then "" else "%" ++ Text.decimal scope.toNat
      "[" ++ IPv6.toText host ++ shown ++ "]:" ++ Text.decimal port.toNat

def isLocal : SocketAddress → Bool
  | .v4 host _ => host.first = 127 || host = ⟨0, 0, 0, 0⟩
  | .v6 host _ _ =>
      (host.groups.toList.take 7).all (fun group => group = 0) &&
        (host.groups.toList.drop 7).all (fun group => group ≤ 1)

end SocketAddress
end CheckBinding
