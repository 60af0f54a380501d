/-!
Regular expressions as trees.

Only what decides whether an expression is accepted is kept: a literal knows how it was written,
an assertion and a dot have no further content, a group knows the flags it sets.
-/

namespace CheckBinding.Pattern

inductive Flag where
  | caseless
  | multiLine
  | dotMatchesNewline
  | swapGreed
  | unicode
  | carriageReturn
  | spaced
deriving DecidableEq

abbrev Setting := List (Flag × Bool)

structure Literal where
  character : Char
  asByte : Bool

inductive PropertyQuery where
  | letter (name : Char)
  | named (name : String)
  | valued (name value : String)

inductive ShortClass where
  | digit
  | space
  | word
deriving DecidableEq

inductive SetOperation where
  | intersection
  | difference
  | symmetricDifference
deriving DecidableEq

inductive ClassSet where
  | empty
  | literal (literal : Literal)
  | range (low high : Literal)
  | posix (negated : Bool)
  | property (query : PropertyQuery)
  | short (kind : ShortClass) (negated : Bool)
  | bracketed (negated : Bool) (set : ClassSet)
  | union (items : List ClassSet)
  | combined (operation : SetOperation) (left right : ClassSet)

inductive Node where
  | empty
  | setting (setting : Setting)
  | literal (literal : Literal)
  | dot
  | assertion
  | property (query : PropertyQuery)
  | short (kind : ShortClass) (negated : Bool)
  | bracketed (negated : Bool) (set : ClassSet)
  | repetition (least : Nat) (most : Option Nat) (body : Node)
  | group (setting : Setting) (body : Node)
  | alternation (branches : List Node)
  | sequence (items : List Node)

end CheckBinding.Pattern
