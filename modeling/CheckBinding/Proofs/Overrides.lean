import CheckBinding.Agent.Startup
import CheckBinding.Proofs.Cids
import CheckBinding.Proofs.Courses
import CheckBinding.Proofs.Json.Documents
import CheckBinding.Proofs.Json.Values
import CheckBinding.Proofs.Resolution
import CheckBinding.Proofs.Searches

/-!
What the command line gives beside what the config file gives.

Each override can be written into the config file instead. A state directory and the address of an
exporter come to the same in both places. An identifier does not: in the file blanks around it are
taken off and a blank one counts as not given, on the command line it is taken as it stands. So the
two agree on identifiers without blanks around them that are not empty, and with every other
identifier the agent ends where it resolves its bundle, without a request.
-/

namespace CheckBinding

open Program

/-! ### Trimmed texts -/

namespace Text

variable {test : Char → Bool}

theorem exists_dropTail_append (text : List Char) : ∃ behind, dropTail test text ++ behind = text :=
  List.rdropWhile_prefix test text

/-- Nothing is left to be taken off. -/
theorem stripChars_stripChars (text : List Char) :
    stripChars test (stripChars test text) = stripChars test text := by
  rw [stripChars_eq_self_iff]
  constructor
  · intro first leads
    obtain ⟨behind, whole⟩ := @exists_dropTail_append test (text.dropWhile test)
    have led : (text.dropWhile test).head? = some first := by
      rw [← whole, List.head?_append]
      exact Option.or_of_isSome (Option.isSome_of_mem leads) |>.trans leads
    simpa [led] using List.head?_dropWhile_not test text
  · exact dropTail_eq_self_iff.mp (List.rdropWhile_idempotent test _)

theorem trim_trim (text : String) : trim (trim text) = trim text := by
  rw [trim, trim, String.toList_ofList, stripChars_stripChars]

theorem trimmed?_eq_some {text : Option String} {rest : String} :
    trimmed? text = some rest ↔ ∃ whole, text = some whole ∧ trim whole = rest ∧ rest ≠ "" := by
  simp only [trimmed?, Option.filter_eq_some_iff, Option.map_eq_some_iff, decide_eq_true_eq]
  tauto

theorem trimmed?_trimmed? (text : Option String) : trimmed? (trimmed? text) = trimmed? text := by
  cases trimmed : trimmed? text with
  | none => rfl
  | some rest =>
      obtain ⟨whole, -, rfl, left⟩ := trimmed?_eq_some.mp trimmed
      exact trimmed?_eq_some.mpr ⟨_, rfl, trim_trim whole, left⟩

theorem trimmed?_some_eq_self {text : String} :
    trimmed? (some text) = some text ↔ trim text = text ∧ text ≠ "" := by
  simp [trimmed?_eq_some]

theorem isBlank_of_isDigit {character : Char} (digit : isDigit character = true) :
    isBlank character = false := by
  rw [isDigit, Bool.and_eq_true, decide_eq_true_eq, decide_eq_true_eq] at digit
  have least : 48 ≤ character.toNat := digit.1
  have most : character.toNat ≤ 57 := digit.2
  simp only [isBlank, Bool.or_eq_false_iff, Bool.and_eq_false_iff, beq_eq_false_iff_ne,
    decide_eq_false_iff_not]
  omega

end Text

/-! ### Identifiers -/

namespace Cid

open Text

theorem trim_append_number {front number : String}
    (led : ∀ first ∈ front.toList.head?, isBlank first = false) (digits : isNumber number = true) :
    trim (front ++ number) = front ++ number := by
  rw [isNumber, Bool.and_eq_true, List.all_eq_true] at digits
  obtain ⟨some, digits⟩ := digits
  have kept : stripChars isBlank (front ++ number).toList = (front ++ number).toList := by
    rw [String.toList_append, stripChars_eq_self_iff]
    constructor
    · intro first leads
      rw [List.head?_append, Option.mem_def, Option.or_eq_some_iff] at leads
      rcases leads with own | ⟨-, behind⟩
      · exact led first own
      · exact isBlank_of_isDigit (digits first (List.mem_of_mem_head? behind))
    · intro last ends
      have nonempty : number.toList ≠ [] := by simpa using some
      rw [List.getLast?_append_of_ne_nil _ nonempty] at ends
      exact isBlank_of_isDigit (digits last (List.mem_of_mem_getLast? ends))
  rw [trim, kept, String.ofList_toList]

/-- What is accepted as an identifier has no blanks around it. -/
theorem trim_of_normalize {kind : Kind} {text cid : String}
    (accepted : normalize kind text = .ok cid) : trim text = text := by
  rcases normalize_eq_ok.mp accepted with ⟨number, -⟩ | ⟨canonical, -⟩
  · simpa using @trim_append_number "" text (by simp) number
  · obtain ⟨number, digits, rfl⟩ := exists_number_of_isCanonical canonical
    refine trim_append_number (fun first leads => ?_) digits
    cases kind <;> cases leads <;> rfl

theorem normalize_of_untrimmed {kind : Kind} {text : String}
    (untrimmed : trimmed? (some text) ≠ some text) :
    normalize kind text = .error ⟨kind, shown text⟩ := by
  cases normal : normalize kind text with
  | error fault => rw [eq_of_normalize_error normal]
  | ok cid =>
      refine absurd (trimmed?_some_eq_self.mpr ⟨trim_of_normalize normal, ?_⟩) untrimmed
      rintro rfl
      cases normal

/-- Of a text and what is left of it when it is trimmed, a fault shows the same only when nothing is
taken off. -/
theorem trimmed?_of_shown {text rest : String} (trimmed : trimmed? (some text) = some rest)
    (same : shown text = shown rest) : rest = text := by
  obtain ⟨whole, given, cut, left⟩ := trimmed?_eq_some.mp trimmed
  cases given
  have nonempty : text ≠ "" := by
    rintro rfl
    exact left cut.symm
  rw [shown, shown, if_neg nonempty, if_neg left] at same
  exact same.symm

end Cid

/-- Naming a fault differently leaves a result alone. -/
theorem mapError_eq_ok {Problem Other Value : Type} {read : Except Problem Value}
    {wrap : Problem → Other} {value : Value} :
    read.mapError wrap = .ok value ↔ read = .ok value := by
  cases read <;> simp [Except.mapError]

theorem map_mapError {Problem Other Value : Type} (read : Except Problem Value)
    (wrap : Problem → Other) (change : Value → Value) :
    (read.mapError wrap).map change = (read.map change).mapError wrap := by
  cases read <;> rfl

theorem map_mapError_eq_self_iff {Problem Other Value : Type} {read : Except Problem Value}
    {wrap : Problem → Other} {change : Value → Value} :
    (read.mapError wrap).map change = read.mapError wrap ↔ read.map change = read := by
  cases read <;> simp [Except.map, Except.mapError]

theorem eq_ok_of_toOption {Problem Value : Type} {read : Except Problem Value} {value : Value}
    (found : read.toOption = some value) : read = .ok value := by
  cases read with
  | error fault => cases found
  | ok given =>
      cases found
      rfl

/-! ### Overrides -/

def Arguments.bare (arguments : Arguments) : Arguments :=
  { arguments with checkId := none, stateDir := none, promExporter := none }

/-- An identifier on the command line, if there is one, has no blanks around it and is not empty. -/
def Arguments.Trimmed (arguments : Arguments) : Prop :=
  ∀ id, arguments.checkId = some id → Text.trim id = id ∧ id ≠ ""

theorem Arguments.exists_untrimmed {arguments : Arguments} (untrimmed : ¬ arguments.Trimmed) :
    ∃ id, arguments.checkId = some id ∧ Text.trimmed? (some id) ≠ some id := by
  simpa [Trimmed, Text.trimmed?_some_eq_self] using untrimmed

def Arguments.ExporterRefused (arguments : Arguments) : Prop :=
  ∃ text, arguments.promExporter = some text ∧ SocketAddress.parse? text = none

def AgentSettings.override (arguments : Arguments) (settings : AgentSettings) : AgentSettings :=
  { settings with
    check := {
      settings.check with
      bundleId := arguments.checkId.orElse (fun _ => settings.check.bundleId)
      metricStateDir := arguments.stateDir.orElse (fun _ => settings.check.metricStateDir) }
    promExporter := arguments.promExporter.orElse (fun _ => settings.promExporter) }

/-- The configuration with its identifier taken as one of a config file. -/
def AgentConfig.retrimmed (config : AgentConfig) : AgentConfig :=
  { config with
    check := { config.check with bundleId := Text.trimmed? config.check.bundleId } }

namespace Config

variable {readFile : FileReader} {settings : Settings} {config : Config}

/-- Neither the identifier nor the state directory has a say in whether settings are accepted. -/
theorem ofSettings_of_accepted [Pattern.Engine]
    (accepted : ofSettings readFile settings = .ok config)
    (bundleId metricStateDir : Option String) :
    ofSettings readFile { settings with bundleId, metricStateDir } =
      .ok { config with bundleId := Text.trimmed? bundleId, stateDir := metricStateDir } := by
  unfold ofSettings at accepted
  simp only [Json.bind_eq_ok] at accepted
  obtain ⟨broker, chosen, filters, read, ttl, refreshed, response, waiting, made⟩ := accepted
  cases made
  -- Each step reads fields that stay, so it gives the same once more.
  unfold ofSettings
  simp only [Json.bind_eq_ok]
  exact ⟨broker, chosen, filters, read, ttl, refreshed, response, waiting, rfl⟩

theorem ofSettings_identified [Pattern.Engine]
    (accepted : ofSettings readFile settings = .ok config) :
    config.bundleId = Text.trimmed? settings.bundleId ∧
      config.stateDir = settings.metricStateDir := by
  have again := ofSettings_of_accepted accepted settings.bundleId settings.metricStateDir
  rw [accepted] at again
  have same := Except.ok.inj again
  rw [same]
  exact ⟨rfl, rfl⟩

end Config

namespace AgentConfig

variable {readFile : Config.FileReader} {settings : AgentSettings} {config : AgentConfig}
  {arguments : Arguments}

/-- A command line without overrides changes nothing. -/
theorem bind_override_bare (loaded : Except AgentFault AgentConfig) :
    loaded.bind (override arguments.bare) = loaded := by
  cases loaded <;> rfl

theorem override_eq : config.override arguments =
    (arguments.promExporter.mapM address).map (fun given => {
      config with
      check := {
        config.check with
        bundleId := arguments.checkId.orElse (fun _ => config.check.bundleId)
        stateDir := arguments.stateDir.orElse (fun _ => config.check.stateDir) }
      promExporter := given.orElse (fun _ => config.promExporter) }) := by
  rw [override]
  cases arguments.promExporter.mapM address <;> rfl

theorem mapM_address (text : String) : (some text).mapM address = (address text).map some := by
  rw [Option.mapM_some]
  rfl

/-- Overrides that are written into accepted settings come to what they come to on the command
line, the identifier trimmed. -/
theorem ofSettings_override [Pattern.Engine]
    (accepted : ofSettings readFile settings = .ok config) :
    ofSettings readFile (settings.override arguments) =
      (config.override arguments).map retrimmed := by
  unfold ofSettings at accepted
  simp only [Json.bind_eq_ok] at accepted
  obtain ⟨api, reached, check, managed, exporter, offered, made⟩ := accepted
  cases made
  replace managed := mapError_eq_ok.mp managed
  obtain ⟨named, kept⟩ := Config.ofSettings_identified managed
  have again := Config.ofSettings_of_accepted managed
    (arguments.checkId.orElse (fun _ => settings.check.bundleId))
    (arguments.stateDir.orElse (fun _ => settings.check.metricStateDir))
  have trimmed : Text.trimmed? (arguments.checkId.orElse (fun _ => settings.check.bundleId)) =
      Text.trimmed? (arguments.checkId.orElse (fun _ => check.bundleId)) := by
    rw [named]
    cases arguments.checkId with
    | none => exact (Text.trimmed?_trimmed? _).symm
    | some id => rfl
  rw [trimmed, ← kept] at again
  rw [override_eq]
  unfold ofSettings AgentSettings.override
  rw [reached, ← kept, again]
  cases given : arguments.promExporter with
  | none =>
      rw [Option.orElse_none, offered]
      rfl
  | some text =>
      rw [Option.orElse_some, mapM_address]
      cases address text <;> rfl

theorem retrimmed_eq_self_iff :
    config.retrimmed = config ↔ Text.trimmed? config.check.bundleId = config.check.bundleId := by
  constructor
  · intro same
    exact congrArg (fun config => config.check.bundleId) same
  · intro same
    rw [retrimmed, same]

/-- The identifier of an accepted configuration is trimmed. -/
theorem retrimmed_of_accepted [Pattern.Engine]
    (accepted : ofSettings readFile settings = .ok config) :
    config.retrimmed = config := by
  have again := @ofSettings_override _ _ _ ⟨"", none, none, "", none⟩ _ accepted
  exact (Except.ok.inj (accepted.symm.trans again)).symm

/-- Overrides are refused for the address of an exporter only, and otherwise taken. -/
theorem override_cases (config : AgentConfig) (arguments : Arguments) :
    (arguments.ExporterRefused ∧ ∃ fault, config.override arguments = .error fault) ∨
      (¬ arguments.ExporterRefused ∧ ∃ overridden, config.override arguments = .ok overridden ∧
        overridden.check.bundleId =
          arguments.checkId.orElse (fun _ => config.check.bundleId)) := by
  rw [override_eq]
  cases given : arguments.promExporter with
  | none =>
      refine Or.inr ⟨?_, _, rfl, rfl⟩
      rintro ⟨text, offered, -⟩
      rw [given] at offered
      cases offered
  | some text =>
      rw [mapM_address, address]
      cases parsed : SocketAddress.parse? text with
      | none => exact Or.inl ⟨⟨text, given, parsed⟩, _, rfl⟩
      | some found =>
          refine Or.inr ⟨?_, _, rfl, rfl⟩
          rintro ⟨other, offered, refused⟩
          cases given.symm.trans offered
          cases parsed.symm.trans refused

theorem retrimmed_override_iff {overridden : AgentConfig} (settled : config.retrimmed = config)
    (identified : overridden.check.bundleId =
      arguments.checkId.orElse (fun _ => config.check.bundleId)) :
    overridden.retrimmed = overridden ↔ arguments.Trimmed := by
  rw [retrimmed_eq_self_iff, identified, Arguments.Trimmed]
  cases given : arguments.checkId with
  | none => simpa using retrimmed_eq_self_iff.mp settled
  | some id => simpa using Text.trimmed?_some_eq_self

/-- The identifier on the command line is the one that an identifier in the file would be, just when
it is trimmed already; a refused address leaves no configuration to compare. -/
theorem map_retrimmed_override_iff (settled : config.retrimmed = config) :
    (config.override arguments).map retrimmed = config.override arguments ↔
      arguments.ExporterRefused ∨ arguments.Trimmed := by
  rcases override_cases config arguments with
    ⟨refused, fault, failed⟩ | ⟨listened, overridden, taken, identified⟩
  · rw [failed]
    exact ⟨fun _ => Or.inl refused, fun _ => rfl⟩
  · rw [taken, or_iff_right listened, ← retrimmed_override_iff settled identified]
    simp [Except.map]

theorem exists_untrimmed_override (settled : config.retrimmed = config)
    (changed : (config.override arguments).map retrimmed ≠ config.override arguments) :
    ∃ id overridden, arguments.checkId = some id ∧ config.override arguments = .ok overridden ∧
      overridden.check.bundleId = some id ∧ Text.trimmed? (some id) ≠ some id := by
  rw [Ne, map_retrimmed_override_iff settled, not_or] at changed
  rcases override_cases config arguments with
    ⟨refused, -⟩ | ⟨-, overridden, taken, identified⟩
  · exact absurd refused changed.1
  · obtain ⟨id, given, untrimmed⟩ := Arguments.exists_untrimmed changed.2
    rw [given] at identified
    exact ⟨id, overridden, given, taken, identified, untrimmed⟩

end AgentConfig

/-! ### Refused identifiers -/

namespace Resolution

variable {config : Config} {transcript : Transcript} {fault : DataFault}

theorem brokerFor_ne_invalid {brokers : List Broker}
    (course : Course (brokerFor config brokers) transcript (.error (.invalid fault))) : False := by
  rw [brokerFor] at course
  cases choice : config.broker with
  | id cid =>
      rw [choice] at course
      dsimp only at course
      split at course
      · cases (course_pure.mp course).2
      · cases (course_pure.mp course).2
  | select =>
      rw [choice] at course
      obtain ⟨selected, first, rest, rfl, selecting, done⟩ := course_bind.mp course
      have failed := (course_pure.mp done).2
      cases selected with
      | ok broker => cases failed
      | error fault =>
          cases failed
          rw [Selection.select] at selecting
          split at selecting
          · cases (course_pure.mp selecting).2
          · obtain ⟨found, racing, choosing, rfl, -, chosen⟩ := course_bind.mp selecting
            rcases found with _ | ⟨only, _ | ⟨second, others⟩⟩
            · cases (course_pure.mp chosen).2
            · cases (course_pure.mp chosen).2
            · obtain ⟨index, asked, rest, rfl, -, picked⟩ := course_bind.mp chosen
              cases (course_pure.mp picked).2

theorem ensureActive_ne_invalid {bundle : Bundle} :
    ensureActive bundle ≠ .error (.invalid fault) := by
  rw [ensureActive]
  split <;> simp

theorem asked_ne_invalid {activity : Activity} {answer : Except Api.Fault Bundle} :
    (answer.mapError (.api activity)).bind ensureActive ≠ .error (.invalid fault) := by
  cases answer with
  | error refused => simp [Except.mapError, Except.bind]
  | ok bundle => exact ensureActive_ne_invalid

/-- A resolution reports a value as invalid only when it is the identifier configured. -/
theorem Path.invalid {method : ResolutionMethod} {outcome : Except CheckFault Bundle}
    (path : Path config transcript method outcome) (invalid : outcome = .error (.invalid fault)) :
    ∃ text refused, config.bundleId = some text ∧
      Cid.normalize .checkBundle text = .error refused ∧ fault = .cid refused := by
  cases path with
  | refused given refused =>
      cases invalid
      exact ⟨_, _, given, refused, rfl⟩
  | fetched given valid => exact absurd invalid asked_ne_invalid
  | untargeted free empty => cases invalid
  | searched free targeted settled =>
      unfold judged at invalid
      split at invalid
      · cases invalid
      · cases invalid
      · exact absurd invalid ensureActive_ne_invalid
      · cases invalid
  | unlisted free targeted creates => cases invalid
  | unchosen free targeted creates unchosen =>
      cases invalid
      exact (brokerFor_ne_invalid unchosen).elim
  | created free targeted creates chosen => exact absurd invalid asked_ne_invalid

end Resolution

namespace Agent

variable {config : Config} {transcript : Transcript} {bound : Except StartFault Controller}

/-- With an identifier that is refused, an agent ends without a request; the resolution is
counted. -/
theorem course_bind_refused {text : String} {fault : Cid.Fault}
    (given : config.bundleId = some text)
    (refused : Cid.normalize .checkBundle text = .error fault) :
    Course (bind config) transcript bound ↔
      transcript = [⟨.count (.resolutions .id false) 1, ()⟩] ∧
        bound = .error (.binding (.invalid (.cid fault))) := by
  have required : config.isRequired = true := by
    rw [Config.isRequired, given]
    exact Bool.or_true _
  have fetching : Resolution.fetchById text = return .error (.invalid (.cid fault)) := by
    rw [Resolution.fetchById, refused]
  have whole : bind config =
      .perform (.count (.resolutions .id false) 1)
        (fun _ => .done (.error (.binding (.invalid (.cid fault))))) := by
    rw [bind, Controller.start, Controller.unbound, required, Resolution.resolve,
      Resolution.attempt, given]
    simp only [fetching]
    rfl
  rw [whole, course_perform]
  constructor
  · rintro ⟨reply, rest, rfl, done⟩
    obtain ⟨rfl, same⟩ := course_done.mp done
    exact ⟨rfl, same⟩
  · rintro ⟨rfl, same⟩
    exact ⟨(), [], rfl, course_done.mpr ⟨rfl, same⟩⟩

theorem cid_of_bind {fault : Cid.Fault}
    (course : Course (bind config) transcript (.error (.binding (.invalid (.cid fault))))) :
    ∃ text, config.bundleId = some text ∧ Cid.normalize .checkBundle text = .error fault := by
  rw [bind] at course
  obtain ⟨⟨outcome, controller⟩, first, rest, rfl, starting, done⟩ := course_bind.mp course
  cases outcome with
  | ok value => cases (course_pure.mp done).2
  | error problem =>
      cases (course_pure.mp done).2
      cases Controller.starting_of_course starting with
      | unresolved resolving =>
          obtain ⟨path, method, taken, -⟩ := Resolution.exists_path resolving
          obtain ⟨text, refused, given, invalid, same⟩ := taken.invalid rfl
          cases same
          exact ⟨text, given, invalid⟩

/-- An identifier that is not as it stays when it is trimmed ends an agent that takes it as it
stands, with a fault that an agent that trims it does not end with. -/
theorem bind_of_untrimmed {config : AgentConfig} {id : String}
    (given : config.check.bundleId = some id) (untrimmed : Text.trimmed? (some id) ≠ some id) :
    (∀ transcript bound, Course (bind config.check) transcript bound ↔
      transcript = [⟨.count (.resolutions .id false) 1, ()⟩] ∧
        bound = .error (.binding (.invalid (.cid ⟨.checkBundle, Cid.shown id⟩)))) ∧
    ∀ transcript, ¬ Course (bind config.retrimmed.check) transcript
      (.error (.binding (.invalid (.cid ⟨.checkBundle, Cid.shown id⟩)))) := by
  constructor
  · intro transcript bound
    exact course_bind_refused given (Cid.normalize_of_untrimmed untrimmed)
  · intro transcript course
    obtain ⟨rest, left, refused⟩ := cid_of_bind course
    rw [AgentConfig.retrimmed, given] at left
    have same := congrArg Cid.Fault.shown (Cid.eq_of_normalize_error refused)
    rw [Cid.trimmed?_of_shown left same] at left
    exact untrimmed left

/-! ### The config file and the command line -/

variable {arguments : Arguments} {text edited : String} {settings : AgentSettings}
  {config : AgentConfig} {files : Transcript} {outcome : Except StartFault AgentConfig}

def reading (arguments : Arguments) (text : String) : Exchange :=
  ⟨.storage (.read arguments.configFile), .ok text.toUTF8⟩

theorem course_configure [Pattern.Engine] (parsed : AgentSettings.parse text = .ok settings) :
    Course (configure arguments) (reading arguments text :: files) outcome ↔
      ∃ readFile, Course (Config.namedFiles settings.check) files readFile ∧
        outcome = ((AgentConfig.ofSettings readFile settings).bind
          (AgentConfig.override arguments)).mapError .config := by
  rw [configure, configText, course_bind]
  constructor
  · rintro ⟨found, first, rest, split, reads, later⟩
    obtain ⟨answer, asking, nothing, rfl, asked, given⟩ := course_bind.mp reads
    obtain rfl := course_ask.mp asked
    obtain ⟨same, behind⟩ := List.cons.inj split
    cases same
    simp only [Json.fromUTF8?_toUTF8] at given
    obtain ⟨rfl, rfl⟩ := course_pure.mp given
    simp only [parsed] at later
    obtain ⟨loaded, loading, ended, rfl, load, done⟩ := course_bind.mp later
    obtain ⟨readFile, naming, void, rfl, named, made⟩ := course_bind.mp load
    obtain ⟨rfl, rfl⟩ := course_pure.mp made
    obtain ⟨rfl, rfl⟩ := course_pure.mp done
    refine ⟨readFile, ?_, rfl⟩
    rw [behind]
    simpa using named
  · rintro ⟨readFile, named, rfl⟩
    refine ⟨.ok text, [reading arguments text], files, rfl, ?_, ?_⟩
    · refine course_bind.mpr ⟨.ok text.toUTF8, _, [], (List.append_nil _).symm,
        course_ask.mpr rfl, ?_⟩
      simp only [Json.fromUTF8?_toUTF8]
      exact course_pure.mpr ⟨rfl, rfl⟩
    · simp only [parsed]
      refine course_bind.mpr ⟨_, files, [], (List.append_nil _).symm, ?_,
        course_pure.mpr ⟨rfl, rfl⟩⟩
      exact course_bind.mpr ⟨readFile, files, [], (List.append_nil _).symm, named,
        course_pure.mpr ⟨rfl, rfl⟩⟩

theorem course_configured [Pattern.Engine] {readFile : Config.FileReader}
    (parsed : AgentSettings.parse text = .ok settings)
    (named : Course (Config.namedFiles settings.check) files readFile)
    (outcome : Except StartFault AgentConfig) :
    Course (configure arguments) (reading arguments text :: files) outcome ↔
      outcome = ((AgentConfig.ofSettings readFile settings).bind
        (AgentConfig.override arguments)).mapError .config := by
  rw [course_configure parsed]
  constructor
  · rintro ⟨other, again, rfl⟩
    rw [named.unique again]
  · rintro rfl
    exact ⟨readFile, named, rfl⟩

/-- Overrides beside the config file that they are written into. The identifier is trimmed in the
file only; the two configurations are the same just when that changes nothing, or the address of an
exporter is refused in both. Otherwise the agent with the override ends at once with a fault that
shows the identifier as it was given, and the other one does not end with this fault. -/
theorem overrides_as_written_iff [Pattern.Engine]
    (parsed : AgentSettings.parse text = .ok settings)
    (reparsed : AgentSettings.parse edited = .ok (settings.override arguments))
    (accepted : Course (configure arguments.bare) (reading arguments text :: files) (.ok config)) :
    let given := (config.override arguments).mapError StartFault.config
    let expected := given.map AgentConfig.retrimmed
    (∀ outcome, Course (configure arguments) (reading arguments text :: files) outcome ↔
      outcome = given) ∧
    (∀ outcome, Course (configure arguments.bare) (reading arguments edited :: files) outcome ↔
      outcome = expected) ∧
    (given = expected ↔ arguments.ExporterRefused ∨ arguments.Trimmed) ∧
    (given ≠ expected → ∃ id overridden, arguments.checkId = some id ∧ given = .ok overridden ∧
      (∀ transcript bound, Course (bind overridden.check) transcript bound ↔
        transcript = [⟨.count (.resolutions .id false) 1, ()⟩] ∧
          bound = .error (.binding (.invalid (.cid ⟨.checkBundle, Cid.shown id⟩)))) ∧
      ∀ transcript, ¬ Course (bind overridden.retrimmed.check) transcript
        (.error (.binding (.invalid (.cid ⟨.checkBundle, Cid.shown id⟩))))) := by
  intro given expected
  obtain ⟨readFile, named, loaded⟩ := (course_configure parsed).mp accepted
  rw [AgentConfig.bind_override_bare] at loaded
  have valid := mapError_eq_ok.mp loaded.symm
  have settled := AgentConfig.retrimmed_of_accepted valid
  have onLine := @course_configured arguments _ _ _ _ _ parsed named
  have inFile := @course_configured arguments.bare _ _ _ _ _ reparsed named
  rw [valid] at onLine
  rw [AgentConfig.ofSettings_override valid, AgentConfig.bind_override_bare, ← map_mapError]
    at inFile
  refine ⟨onLine, inFile, ?_, fun different => ?_⟩
  · rw [eq_comm]
    exact map_mapError_eq_self_iff.trans (AgentConfig.map_retrimmed_override_iff settled)
  · have changed := fun same => different (map_mapError_eq_self_iff.mpr same).symm
    obtain ⟨id, overridden, called, taken, identified, untrimmed⟩ :=
      AgentConfig.exists_untrimmed_override settled changed
    obtain ⟨refuses, spares⟩ := bind_of_untrimmed identified untrimmed
    exact ⟨id, overridden, called, mapError_eq_ok.mpr taken, refuses, spares⟩

/-! ### Identifiers that are taken as they stand -/

def tokenText : String := "api:\n  token: abc\n"

def identifiedText (id : String) : String :=
  tokenText ++ "check:\n  bundle_id: '" ++ id ++ "'\n"

def identifying (id : String) : Arguments :=
  ⟨"agent.yaml", some id, none, Arguments.defaultLogLevel, none⟩

def tokenSettings : AgentSettings :=
  ⟨⟨"abc", none, none, none⟩, Settings.blank, none⟩

def tokenConfig : AgentConfig :=
  ⟨⟨Api.Http.defaultUrl, "abc", Api.Http.defaultApp, Api.Http.defaultTimeout⟩, Config.standard,
    none⟩

theorem parse_tokenText : AgentSettings.parse tokenText = .ok tokenSettings :=
  eq_ok_of_toOption (by decide +kernel)

theorem course_tokenText (id : String) :
    Course (configure (identifying id).bare) [reading (identifying id) tokenText]
      (.ok tokenConfig) := by
  refine (course_configure parse_tokenText).mpr ⟨_, course_pure.mpr ⟨rfl, rfl⟩, ?_⟩
  rfl

/-- An identifier with blanks around it is refused on the command line, and accepted in the file. -/
theorem overrides_as_written_iff_padded :
    AgentSettings.parse tokenText = .ok tokenSettings ∧
      AgentSettings.parse (identifiedText " 1 ") =
        .ok (tokenSettings.override (identifying " 1 ")) ∧
      ∃ given expected,
        Course (configure (identifying " 1 ")) [reading (identifying " 1 ") tokenText] (.ok given) ∧
        Course (configure (identifying " 1 ").bare)
          [reading (identifying " 1 ") (identifiedText " 1 ")] (.ok expected) ∧
        given.check.bundleId = some " 1 " ∧ expected.check.bundleId = some "1" ∧
        ∀ transcript bound, Course (bind given.check) transcript bound →
          bound = .error (.binding (.invalid (.cid ⟨.checkBundle, " 1 "⟩))) := by
  have reparsed : AgentSettings.parse (identifiedText " 1 ") =
      .ok (tokenSettings.override (identifying " 1 ")) :=
    eq_ok_of_toOption (by decide +kernel)
  obtain ⟨onLine, inFile, same, apart⟩ :=
    overrides_as_written_iff parse_tokenText reparsed (course_tokenText " 1 ")
  have untrimmed : ¬ ((identifying " 1 ").ExporterRefused ∨ (identifying " 1 ").Trimmed) := by
    rintro (⟨text, offered, -⟩ | trimmed)
    · cases offered
    · exact absurd (trimmed " 1 " rfl).1 (by decide +kernel)
  obtain ⟨id, overridden, identified, taken, refuses, -⟩ := apart (untrimmed ∘ same.mp)
  cases identified
  cases taken
  refine ⟨parse_tokenText, reparsed, _, _, (onLine _).mpr rfl, (inFile _).mpr rfl, rfl, ?_,
    fun transcript bound course => ((refuses transcript bound).mp course).2⟩
  decide +kernel

/-- An empty identifier on the command line ends the agent; in the file it counts as not given, and
the agent needs no bundle. -/
theorem empty_identifier_refused :
    AgentSettings.parse tokenText = .ok tokenSettings ∧
      AgentSettings.parse (identifiedText "") = .ok (tokenSettings.override (identifying "")) ∧
      ∃ given expected,
        Course (configure (identifying "").bare) [reading (identifying "") tokenText]
          (.ok tokenConfig) ∧
        Course (configure (identifying "")) [reading (identifying "") tokenText] (.ok given) ∧
        Course (configure (identifying "").bare) [reading (identifying "") (identifiedText "")]
          (.ok expected) ∧
        Course (bind given.check) [⟨.count (.resolutions .id false) 1, ()⟩]
          (.error (.binding (.invalid (.cid ⟨.checkBundle, "empty"⟩)))) ∧
        Course (bind expected.check) [] (.ok (Controller.unbound expected.check)) := by
  have reparsed : AgentSettings.parse (identifiedText "") =
      .ok (tokenSettings.override (identifying "")) :=
    eq_ok_of_toOption (by decide +kernel)
  refine ⟨parse_tokenText, reparsed,
    { tokenConfig with check := { Config.standard with bundleId := some "" } }, tokenConfig,
    course_tokenText "", ?_, ?_, ?_, ?_⟩
  · exact (course_configure parse_tokenText).mpr ⟨_, course_pure.mpr ⟨rfl, rfl⟩, rfl⟩
  · exact (course_configure reparsed).mpr ⟨_, course_pure.mpr ⟨rfl, rfl⟩, rfl⟩
  · exact (@course_bind_refused _ _ _ "" ⟨.checkBundle, "empty"⟩ rfl rfl).mpr ⟨rfl, rfl⟩
  · exact course_pure.mpr ⟨rfl, rfl⟩

end Agent
end CheckBinding
