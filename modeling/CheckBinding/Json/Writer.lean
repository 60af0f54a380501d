import CheckBinding.Json.Token

/-!
Writing JSON documents, without white space.
-/

namespace CheckBinding.Json

mutual

def render : Json → List Char
  | .null => ['n', 'u', 'l', 'l']
  | .boolean true => ['t', 'r', 'u', 'e']
  | .boolean false => ['f', 'a', 'l', 's', 'e']
  | .number numeral => numeral.render
  | .string token => token.render
  | .array [] => ['[', ']']
  | .array (item :: items) => '[' :: render item ++ renderItems items
  | .object [] => ['{', '}']
  | .object ((name, value) :: members) =>
      '{' :: name.render ++ ':' :: render value ++ renderMembers members

/-- The items after the first one, each after a comma, and the closing bracket. -/
def renderItems : List Json → List Char
  | [] => [']']
  | item :: items => ',' :: render item ++ renderItems items

def renderMembers : List (StringToken × Json) → List Char
  | [] => ['}']
  | (name, value) :: members =>
      ',' :: name.render ++ ':' :: render value ++ renderMembers members

end

def toText (document : Json) : String :=
  String.ofList document.render

def toBytes (document : Json) : ByteArray :=
  document.toText.toUTF8

def ofText (text : String) : Json :=
  .string (StringToken.ofText text)

def ofNat (value : Nat) : Json :=
  .number (Numeral.ofNat value)

def ofTexts (texts : List String) : Json :=
  .array (texts.map ofText)

def ofFields (fields : List (String × Json)) : Json :=
  .object (fields.map (fun (name, value) => (StringToken.ofText name, value)))

end CheckBinding.Json
