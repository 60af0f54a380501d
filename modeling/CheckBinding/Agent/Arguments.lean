import CheckBinding.Text.Pieces

/-!
The command line of the agent.

Every option has a long name and a value, which follows as the next word or after an equals sign.
A value of its own word may not look like an option. Words are read from the left and the first
fault ends the reading, with one exception in its order: a value in a word of its own is looked at
when the next known option comes or the words end, so an unknown word behind it is reported first.
-/

namespace CheckBinding

structure Arguments where
  configFile : String
  checkId : Option String
  stateDir : Option String
  logLevel : String
  promExporter : Option String
deriving DecidableEq

namespace Arguments

inductive Choice where
  | configFile
  | checkId
  | stateDir
  | logLevel
  | promExporter
deriving DecidableEq

def Choice.name : Choice → String
  | .configFile => "config-file"
  | .checkId => "check-id"
  | .stateDir => "state-dir"
  | .logLevel => "log-level"
  | .promExporter => "prom-exporter"

def Choice.all : List Choice :=
  [.configFile, .checkId, .stateDir, .logLevel, .promExporter]

def Choice.named? (name : String) : Option Choice :=
  Choice.all.find? (fun choice => choice.name = name)

/-- Whether the value of an option is a path, which cannot be empty. -/
def Choice.takesPath : Choice → Bool
  | .configFile => true
  | .stateDir => true
  | _ => false

def defaultLogLevel : String := "info"

inductive Fault where
  | configFileMissing
  | unknown (word : String)
  | valueMissing (choice : Choice)
  | repeated (choice : Choice)
  | helpWithValue
  | helpRequested
deriving DecidableEq

def Fault.message : Fault → String
  | .configFileMissing => "the following required arguments were not provided: --config-file"
  | .unknown word => "unexpected argument '" ++ word ++ "' found"
  | .valueMissing choice =>
      "a value is required for '--" ++ choice.name ++ "' but none was supplied"
  | .repeated choice =>
      "the argument '--" ++ choice.name ++ "' cannot be used multiple times"
  | .helpWithValue => "unexpected value for '--help' found; no more were expected"
  | .helpRequested =>
      "Usage: --config-file <CONFIG_FILE> [--check-id <CHECK_ID>] [--state-dir <STATE_DIR>] " ++
        "[--log-level <LOG_LEVEL>] [--prom-exporter <PROM_EXPORTER>]"

/-! ### Words -/

inductive Word where
  | separator
  | long (name : String) (value : Option String)
  | short (letters : List Char)
  | plain
deriving DecidableEq

def longWord (rest : List Char) : Word :=
  match Text.cutChars '=' rest with
  | some (name, value) => .long (String.ofList name) (some (String.ofList value))
  | none => .long (String.ofList rest) none

/-- Tells options from other words; a single dash is no option. -/
def wordOf (word : String) : Word :=
  match word.toList with
  | ['-', '-'] => .separator
  | '-' :: '-' :: rest => longWord rest
  | '-' :: letter :: rest => .short (letter :: rest)
  | _ => .plain

/-! ### Reading -/

/-- What has been read: the values taken over, and the option last named by a word of its own,
whose value may still have to come. -/
structure Reading where
  values : List (Choice × String)
  pending : Option (Choice × Option String)
deriving DecidableEq

def Reading.assign (reading : Reading) (choice : Choice) (value : String) :
    Except Fault Reading :=
  if (reading.values.lookup choice).isSome then .error (.repeated choice)
  else if choice.takesPath ∧ value = "" then .error (.valueMissing choice)
  else .ok { reading with values := (choice, value) :: reading.values }

def Reading.settle (reading : Reading) : Except Fault Reading :=
  let settled := { reading with pending := none }
  match reading.pending with
  | none => .ok settled
  | some (choice, none) => .error (.valueMissing choice)
  | some (choice, some value) => settled.assign choice value

def Reading.option (reading : Reading) (choice : Choice) (value : Option String) :
    Except Fault Reading := do
  let reading ← reading.settle
  match value with
  | some value => reading.assign choice value
  | none => return { reading with pending := some (choice, none) }

def Reading.help (reading : Reading) : Except Fault Reading := do
  let _ ← reading.settle
  .error .helpRequested

def Reading.long (reading : Reading) (word name : String) (value : Option String) :
    Except Fault Reading :=
  match Choice.named? name with
  | some choice => reading.option choice value
  | none =>
      if name = "help" then
        if value.isSome then .error .helpWithValue else reading.help
      else .error (.unknown word)

def Reading.plain (reading : Reading) (word : String) : Except Fault Reading :=
  match reading.pending with
  | some (choice, none) => .ok { reading with pending := some (choice, some word) }
  | _ => .error (.unknown word)

/-- Reads the words of a command line. Nothing may follow the separator. -/
def Reading.words (reading : Reading) : List String → Except Fault Reading
  | [] => reading.settle
  | word :: rest =>
      match wordOf word with
      | .separator =>
          match rest with
          | [] => reading.settle
          | next :: _ => .error (.unknown next)
      | .long name value => do (← reading.long word name value).words rest
      | .short letters =>
          if letters.head? = some 'h' then do (← reading.help).words rest
          else .error (.unknown word)
      | .plain => do (← reading.plain word).words rest

def parse (words : List String) : Except Fault Arguments := do
  let reading ← Reading.words ⟨[], none⟩ words
  let given (choice : Choice) : Option String := reading.values.lookup choice
  match given .configFile with
  | none => .error .configFileMissing
  | some configFile =>
      return {
        configFile
        checkId := given .checkId
        stateDir := given .stateDir
        logLevel := (given .logLevel).getD defaultLogLevel
        promExporter := given .promExporter }

end Arguments
end CheckBinding
