/-!
JSON documents as trees.

The tree keeps strings and numbers as they were written. What such a token means depends on the
field that reads it: a field that nobody reads may hold half a surrogate pair or a number beyond
every machine type, and the document around it is still good.
-/

namespace CheckBinding

/-- A string as it stands between its quotes, with its escapes unresolved. -/
structure StringToken where
  raw : List Char
deriving DecidableEq

structure Numeral where
  negative : Bool
  whole : List Char
  fraction : List Char
  exponent : Option (Bool × List Char)
deriving DecidableEq

inductive Json where
  | null
  | boolean (value : Bool)
  | number (numeral : Numeral)
  | string (token : StringToken)
  | array (items : List Json)
  | object (members : List (StringToken × Json))

namespace Json

instance : Inhabited Json := ⟨.null⟩

end Json
end CheckBinding
