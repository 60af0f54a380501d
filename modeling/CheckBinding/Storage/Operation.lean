/-!
What a program may ask of a file system, and how such a request may fail.
-/

namespace CheckBinding.Storage

inductive Fault where
  | notFound
  | notDirectory
  | isDirectory
  | busy
  | nameTooLong
  | badName
  | notText
  | other (text : String)
deriving DecidableEq

def Fault.message : Fault → String
  | .notFound => "No such file or directory (os error 2)"
  | .notDirectory => "Not a directory (os error 20)"
  | .isDirectory => "Is a directory (os error 21)"
  | .busy => "Device or resource busy (os error 16)"
  | .nameTooLong => "File name too long (os error 36)"
  | .badName => "file name contained an unexpected NUL byte"
  | .notText => "stream did not contain valid UTF-8"
  | .other text => text

inductive EntryKind where
  | file
  | directory
deriving DecidableEq

/-- One request. A file is written in steps: it is opened empty, bytes are added at its end, and
it is brought to the disk. -/
inductive Operation where
  | inspect (path : String)
  | read (path : String)
  | openEmpty (path : String)
  | append (path : String) (bytes : ByteArray)
  | sync (path : String)
  | rename (source target : String)
  | remove (path : String)

@[reducible] def Operation.Result : Operation → Type
  | .inspect _ => EntryKind
  | .read _ => ByteArray
  | _ => Unit

end CheckBinding.Storage
