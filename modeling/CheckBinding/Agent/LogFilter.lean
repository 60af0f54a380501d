import CheckBinding.Pattern.Engine
import CheckBinding.Text.Blank
import CheckBinding.Text.Letters
import CheckBinding.Text.Pieces

/-!
Filters that say which events are logged.

A filter is a list of directives with commas between them, such as `info,agent=debug`. A directive
is a level, or names a target, a span in brackets with fields in braces, and a level behind an
equals sign.
-/

namespace CheckBinding

inductive LogLevel where
  | off
  | error
  | warn
  | info
  | debug
  | trace
deriving DecidableEq

namespace LogLevel

def words : List (String × LogLevel) :=
  [("off", .off), ("error", .error), ("warn", .warn), ("info", .info), ("debug", .debug),
    ("trace", .trace)]

def numbered : List LogLevel :=
  [.off, .error, .warn, .info, .debug, .trace]

/-- The digits of a number, which a plus sign may precede. -/
def digits? (text : List Char) : Option (List Char) :=
  let digits := match text with
    | '+' :: rest => rest
    | other => other
  if digits ≠ [] ∧ digits.all Text.isDigit then some digits else none

/-- The level that a text stands for: a word in either case, or a number up to five. -/
def parse? (text : String) : Option LogLevel :=
  match digits? text.toList with
  | some digits => numbered[Text.natOfDigits digits]?
  | none => words.lookup (String.ofList (text.toList.map Char.toLower))

end LogLevel

structure LogField where
  name : String
  pattern : Option String
deriving DecidableEq

structure LogDirective where
  target : Option String
  span : Option String
  fields : List LogField
  level : LogLevel
deriving DecidableEq

namespace LogDirective

def ofLevel (level : LogLevel) : LogDirective where
  target := none
  span := none
  fields := []
  level := level

/-- The level behind an equals sign; none given means everything. -/
def levelAfter? (text : List Char) : Option LogLevel :=
  if text = [] then some .trace else LogLevel.parse? (String.ofList text)

def field? [Pattern.Engine] (text : List Char) : Option LogField :=
  match Text.splitChars '=' text with
  | [] => none
  | [name] => if name = [] then none else some ⟨String.ofList name, none⟩
  | name :: value :: _ =>
      if Pattern.Engine.takes (String.ofList value) then
        some ⟨String.ofList name, some (String.ofList value)⟩
      else none

def afterSpan (directive : LogDirective) : List Char → Option LogDirective
  | [] => some directive
  | '=' :: rest => (levelAfter? rest).map (fun level => { directive with level })
  | _ => none

def readSpan [Pattern.Engine] (target : Option String) (text : List Char) : Option LogDirective :=
  let named (name : List Char) : LogDirective :=
    { ofLevel .trace with target, span := some (String.ofList name) }
  let name := text.takeWhile (fun character => character ≠ ']' ∧ character ≠ '\x7b')
  match text.drop name.length with
  | ']' :: rest => (named name).afterSpan rest
  | '\x7b' :: rest => do
      let (inside, rest) ← Text.cutChars '\x7d' rest
      let fields ← field? inside
      let rest ← Text.afterChars? [']'] rest
      let span := if name = [] then none else some (String.ofList name)
      ({ named name with span, fields := [fields] }).afterSpan rest
  | _ => none

def startsName (character : Char) : Bool :=
  character = '-' || character = ':' || character = '_' || Text.isAlphanumeric character

def readName [Pattern.Engine] (text : List Char) : Option LogDirective :=
  let name := text.takeWhile (fun character => character ≠ '=' ∧ character ≠ '[')
  let target := some (String.ofList name)
  match text.drop name.length with
  | '=' :: rest => (levelAfter? rest).map (fun level => { ofLevel level with target })
  | _ :: rest => readSpan target rest
  | [] =>
      match LogLevel.parse? (String.ofList name) with
      | some level => some (ofLevel level)
      | none => some { ofLevel .trace with target }

def parse? [Pattern.Engine] (text : String) : Option LogDirective :=
  match (Text.trim text).toList with
  | '[' :: rest => readSpan none rest
  | head :: rest => if startsName head then readName (head :: rest) else none
  | [] => none

end LogDirective

abbrev LogFilter : Type := List LogDirective

/-- The filter that a text stands for; nothing need stand between two commas. -/
def LogFilter.parse? [Pattern.Engine] (text : String) : Option LogFilter :=
  ((Text.split ',' text).filter (fun piece => piece ≠ "")).mapM LogDirective.parse?

end CheckBinding
