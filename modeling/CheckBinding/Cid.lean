import CheckBinding.Text.Pieces

/-!
Identifiers of check bundles and brokers.

The canonical form of an identifier is the path of its kind followed by decimal digits. A bare
number is accepted too and completed; anything else is refused before it can reach the service.
-/

namespace CheckBinding.Cid

open Text

inductive Kind where
  | checkBundle
  | broker
deriving DecidableEq

def Kind.path : Kind → String
  | .checkBundle => "/check_bundle/"
  | .broker => "/broker/"

def rosterPath : String := "/check_bundle_metrics/"

/-- A text refused as an identifier; the empty text is shown by a word. -/
structure Fault where
  kind : Kind
  shown : String
deriving DecidableEq

def Fault.message (fault : Fault) : String :=
  match fault.kind with
  | .checkBundle => "invalid cid (" ++ fault.shown ++ ")"
  | .broker => "invalid broker id (" ++ fault.shown ++ ")"

/-- A number: at least one digit and nothing else. -/
def isNumber (text : String) : Bool :=
  !text.toList.isEmpty && text.toList.all isDigit

def isCanonical (kind : Kind) (text : String) : Bool :=
  match after? kind.path text with
  | some rest => isNumber rest
  | none => false

/-- A bare number is put below the path of the kind; other texts stay as they are. -/
def completed (kind : Kind) (text : String) : String :=
  if isNumber text then kind.path ++ text else text

def normalize (kind : Kind) (text : String) : Except Fault String :=
  if text = "" then .error ⟨kind, "empty"⟩
  else if isCanonical kind (completed kind text) then .ok (completed kind text)
  else .error ⟨kind, text⟩

def rosterOf (bundle : String) : String :=
  replaceFirst Kind.checkBundle.path rosterPath bundle

end CheckBinding.Cid
