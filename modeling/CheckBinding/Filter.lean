import CheckBinding.Json.Decode
import CheckBinding.Json.Writer
import CheckBinding.Pattern.Engine

/-!
Metric filters: ordered rules that allow or deny metric names by pattern.

A rule is written as a list of two or three texts. A list of rules is read from the front, and the
first thing that is wrong decides the fault: a bad rule before a broken end of the text is
reported as a bad rule.
-/

namespace CheckBinding

inductive FilterAction where
  | allow
  | deny
deriving DecidableEq

def FilterAction.word : FilterAction → String
  | .allow => "allow"
  | .deny => "deny"

structure Filter where
  action : FilterAction
  pattern : String
  comment : String
deriving DecidableEq

namespace Filter

inductive Fault where
  | unknownAction (word : String)
  | badPattern (pattern refusal : String)
  | wrongLength (length : Nat)
  | document (fault : Json.Fault)
  | inList (fault : Fault)
deriving DecidableEq

/-- The wording of a fault. A bad rule inside of a list names what it is once more. -/
def Fault.message (fault : Fault) : String :=
  "invalid metric filter: " ++
    match fault with
    | .unknownAction word => "unknown action '" ++ word ++ "' (expected allow or deny)"
    | .badPattern pattern refusal => "pattern '" ++ pattern ++ "': " ++ refusal
    | .wrongLength length =>
        "expected [action, pattern, comment], got " ++ Text.decimal length ++ " element(s)"
    | .document fault => fault.message
    | .inList inner => inner.message

def action? (word : String) : Except Fault FilterAction :=
  if word = "allow" then .ok .allow
  else if word = "deny" then .ok .deny
  else .error (.unknownAction word)

section Reading

variable [Pattern.Engine]

/-- A filter of an action, a pattern and a comment; the action is looked at first. -/
def make (action pattern comment : String) : Except Fault Filter := do
  let action ← action? action
  match Pattern.Engine.refusal? pattern with
  | some refusal => .error (.badPattern pattern refusal)
  | none => .ok ⟨action, pattern, comment⟩

def ofTexts : List String → Except Fault Filter
  | [action, pattern] => make action pattern ""
  | [action, pattern, comment] => make action pattern comment
  | texts => .error (.wrongLength texts.length)

def ofDocument (document : Json) : Except Fault Filter :=
  match Json.asList Json.asText document with
  | .ok texts => (ofTexts texts).mapError .inList
  | .error fault => .error (.document fault)

def ofJson : Json.Decoder Filter := fun document =>
  (ofDocument document).mapError (fun fault => .rejected fault.message)

/-- Reads the rules of a list up to and with its closing bracket; there is at least one. -/
def readRules : Nat → List Char → Except Fault (List Filter × List Char)
  | 0, _ => .error (.document .malformed)
  | steps + 1, text =>
      match Json.readFront text with
      | none => .error (.document .malformed)
      | some (document, rest) => do
          let filter ← ofDocument document
          match Json.skipSpace rest with
          | ',' :: rest =>
              let (filters, rest) ← readRules steps rest
              return (filter :: filters, rest)
          | ']' :: rest => return ([filter], rest)
          | _ => .error (.document .malformed)

def parseList (text : String) : Except Fault (List Filter) := do
  let (filters, rest) ←
    match Json.skipSpace text.toList with
    | '[' :: rest =>
        match Json.skipSpace rest with
        | ']' :: rest => .ok ([], rest)
        | rest => readRules (Json.stepsFor rest) rest
    | _ => .error (.document .malformed)
  if (Json.skipSpace rest).isEmpty then return filters else .error (.document .malformed)

end Reading

def toTexts (filter : Filter) : List String :=
  [filter.action.word, filter.pattern, filter.comment]

def toJson (filter : Filter) : Json :=
  .ofTexts filter.toTexts

/-- The rules of a bundle without rules of its own: deny the empty name, then allow every other,
so that filtering begins with the first rule added. -/
def defaults : List Filter :=
  [⟨.deny, "^$", ""⟩, ⟨.allow, "^.+$", ""⟩]

end Filter
end CheckBinding
