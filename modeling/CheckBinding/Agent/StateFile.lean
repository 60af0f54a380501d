import CheckBinding.Fault
import CheckBinding.Program
import CheckBinding.Storage.Path

/-!
The file that keeps the status of every known metric across restarts.

The state is written beside its place and then moved there, so that a stop in the middle of writing
leaves the file that was there before.
-/

namespace CheckBinding.StateFile

abbrev States := NameMap String

def fileName : String := "metrics.json"

def probeName : String := ".hostagent-write-probe"

def probeContent : ByteArray := "probe".toUTF8

def draftExtension : String := "json.tmp"

/-! ### The text of the file -/

def memberLines : List (String × String) → List Char
  | [] => []
  | [(name, status)] => memberLine name status
  | (name, status) :: rest => memberLine name status ++ [',', '\n'] ++ memberLines rest
where
  /-- One member. -/
  memberLine (name status : String) : List Char :=
    [' ', ' '] ++ (StringToken.ofText name).render ++ [':', ' '] ++
      (StringToken.ofText status).render

/-- The text of a state: one member a line, in the order of the names. -/
def textChars (states : States) : List Char :=
  match states.toList with
  | [] => ['\x7b', '\x7d']
  | members => ['\x7b', '\n'] ++ memberLines members ++ ['\n', '\x7d']

def bytes (states : States) : ByteArray :=
  (String.ofList (textChars states)).toUTF8

def ofBytes (bytes : ByteArray) : Except Json.Fault States :=
  Json.decodeBytes Json.asTextMap bytes

/-! ### Reading and writing -/

/-- Reads a state file; there is no state where there is no file. -/
def load (path : String) : Program (Except CheckFault (Option States)) := do
  match ← Program.storage (.read path) with
  | .error .notFound => return .ok none
  | .error fault => return .error (.state path (.storage fault))
  | .ok content =>
      match ofBytes content with
      | .ok states => return .ok (some states)
      | .error fault => return .error (.state path (.parseFailed fault))

def draftPath (path : String) : String :=
  Storage.Path.withExtension draftExtension path

/-- Writes a state file: a draft is opened empty, filled, brought to the disk and moved. -/
def save (path : String) (states : States) : Program (Except CheckFault Unit) := do
  let draft := draftPath path
  match ← Program.storage (.openEmpty draft) with
  | .error fault => return .error (.state draft (.openFailed fault))
  | .ok () =>
      match ← Program.storage (.append draft (bytes states)) with
      | .error fault => return .error (.state draft (.writeFailed fault))
      | .ok () =>
          match ← Program.storage (.sync draft) with
          | .error fault => return .error (.state draft (.syncFailed fault))
          | .ok () =>
              match ← Program.storage (.rename draft path) with
              | .error fault => return .error (.state path (.renameFailed fault))
              | .ok () => return .ok ()

def writeProbe (path : String) : Program (Except Storage.Fault Unit) := do
  match ← Program.storage (.openEmpty path) with
  | .error fault => return .error fault
  | .ok () => Program.storage (.append path probeContent)

def verify (directory : String) : Program (Except CheckFault Unit) := do
  match ← Program.storage (.inspect directory) with
  | .error fault => return .error (.state directory (.storage fault))
  | .ok .file => return .error (.state directory .notDirectory)
  | .ok .directory =>
      let probe := Storage.Path.join directory probeName
      match ← writeProbe probe with
      | .error fault => return .error (.state directory (.notWritable fault))
      | .ok () =>
          match ← Program.storage (.remove probe) with
          | .error fault => return .error (.state directory (.probeNotRemoved fault))
          | .ok () => return .ok ()

end CheckBinding.StateFile
