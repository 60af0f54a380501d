/-!
White space and what is cut off around a text.

`isBlank` is Unicode's `White_Space` property: twenty-five characters, among them the no-break
space and the ideographic space, but neither the zero-width space nor the byte order mark.
-/

namespace CheckBinding.Text

def isBlank (character : Char) : Bool :=
  let point := character.toNat
  (9 ≤ point && point ≤ 13) || point == 0x20 || point == 0x85 || point == 0xA0 ||
    point == 0x1680 || (0x2000 ≤ point && point ≤ 0x200A) || point == 0x2028 ||
    point == 0x2029 || point == 0x202F || point == 0x205F || point == 0x3000

def dropTail (test : Char → Bool) (characters : List Char) : List Char :=
  (characters.reverse.dropWhile test).reverse

def stripChars (test : Char → Bool) (characters : List Char) : List Char :=
  dropTail test (characters.dropWhile test)

def trim (text : String) : String :=
  String.ofList (stripChars isBlank text.toList)

def trimmed? (text : Option String) : Option String :=
  (text.map trim).filter (fun rest => rest ≠ "")

end CheckBinding.Text
