import CheckBinding.Proofs.Providers

/-!
Lists of metric filters, from their text to the request that creates a bundle.

The rules that the text of the settings lists are those of the configuration, a resolution drafts
the bundle that it creates with them, and the request of the draft writes them out.
-/

namespace CheckBinding

open Json

theorem Resolution.Sequence.drafted {config : Config} {calls : List Api.Call}
    (sequence : Sequence config calls) {submitted : Bundle} (called : .create submitted ∈ calls) :
    ∃ broker, submitted = draft config broker := by
  cases sequence with
  | @create broker free targeted creates =>
      simp only [List.mem_cons, List.not_mem_nil, or_false, reduceCtorEq, false_or] at called
      cases called
      exact ⟨broker, rfl⟩
  | _ => simp [searchCall] at called

/-- A bundle that a resolution creates is the draft of its configuration. -/
theorem Resolution.drafted_of_course {config : Config} {transcript : Transcript}
    {outcome : Except CheckFault Bundle}
    (course : Program.Course (resolve config) transcript outcome) {submitted : Bundle}
    (called : .create submitted ∈ transcript.calls) :
    ∃ broker, submitted = draft config broker := by
  obtain ⟨path, method, taken, rfl⟩ := exists_path course
  rw [Transcript.calls_append] at called
  rcases List.mem_append.mp called with within | counted
  · exact taken.sequence.drafted within
  · cases counted

namespace Filter

/-- A text lists rules just when it is one array, with only white space around it, of arrays of two
or three strings, the first of which is a known action and the second an accepted pattern. It lists
one rule for each of them then, in their order. Rules survive being written and read, and those of
the settings are the rules of every bundle that is created for them, as the request has it. -/
theorem parseList_grammar [Pattern.Engine] (text : String) :
    ((∃ rules, parseList text = .ok rules) ↔
      ∃ lines, Document (Listed (Listed Quoted)) text lines ∧
        ∀ line ∈ lines, ∃ rule, Means line rule) ∧
    ∀ rules, parseList text = .ok rules →
      (∀ lines, Document (Listed (Listed Quoted)) text lines → List.Forall₂ Means lines rules) ∧
      parseList (Json.array (rules.map toJson)).toText = .ok rules ∧
      ∀ readFile settings config, Config.ofSettings readFile settings = .ok config →
        Config.filterText readFile settings = .ok (some text) →
        ∀ (transcript : Transcript) outcome,
        Program.Course (Resolution.resolve config) transcript outcome →
        ∀ draft, .create draft ∈ transcript.calls →
          draft.metricFilters = rules ∧
          ∀ client : Api.Http.Client, ∃ request body, client.request (.create draft) = .ok request ∧
            request.body = some body ∧ decodeBytes Bundle.ofJson body = .ok draft := by
  constructor
  · constructor
    · rintro ⟨rules, parsed⟩
      obtain ⟨lines, written, means⟩ := parseList_eq_ok.mp parsed
      exact ⟨lines, written, exists_forall₂_iff.mp ⟨rules, means⟩⟩
    · rintro ⟨lines, written, each⟩
      obtain ⟨rules, means⟩ := exists_forall₂_iff.mpr each
      exact ⟨rules, parseList_eq_ok.mpr ⟨lines, written, means⟩⟩
  · intro rules parsed
    refine ⟨fun lines written => ?_, parseList_toText (accepted_of_parseList parsed), ?_⟩
    · obtain ⟨others, alike, means⟩ := parseList_eq_ok.mp parsed
      have read := reads_line.list.decodeText_eq_ok.mpr written
      rw [reads_line.list.decodeText_eq_ok.mpr alike] at read
      cases read
      exact means
    · intro readFile settings config valid given transcript outcome course submitted called
      obtain ⟨broker, rfl⟩ := Resolution.drafted_of_course course called
      have listed : config.metricFilters = some rules := by
        have read := (Config.ofSettings_eq_ok.mp valid).filters
        rw [Config.filters_eq_ok.mpr (Or.inr ⟨text, rules, given, parsed, rfl⟩)] at read
        exact (Except.ok.inj read).symm
      have filtered : config.Filtered := by
        rw [Config.Filtered, listed]
        exact accepted_of_parseList parsed
      have transferable := Resolution.draft_transferable filtered broker
      refine ⟨?_, fun client => ⟨_, _, rfl, rfl, transferable.carries.decodeBytes⟩⟩
      rw [Resolution.draft, listed]
      rfl

/-- Two rules from a file, with white space around them and escapes in them, reach the service. -/
theorem parseList_grammar_file :
    let text := "\n[ [\"allow\", \"^c\\u0070u\", \"\\ud83d\\ude00\"] ,[\"deny\",\".*\"]]\t"
    let rules : List Filter := [⟨.allow, "^cpu", "😀"⟩, ⟨.deny, ".*", ""⟩]
    let readFile : Config.FileReader := fun _ => .ok text.toUTF8
    let settings := { Settings.blank with
      target := some "web1", create := true, broker := some "1",
      metricFilterFile := some "filters.json" }
    let config := { Config.standard with
      target := "web1", create := true, broker := .id "/broker/1", metricFilters := some rules }
    let world := World.quiet
      { Api.Memory.fresh with brokers := [⟨"/broker/1", "local", "enterprise", []⟩] }
      Storage.FileSystem.empty
    let draft := Resolution.draft config "/broker/1"
    parseList text = .ok rules ∧ Config.ofSettings readFile settings = .ok config ∧
      parseList (Json.array (rules.map toJson)).toText = .ok rules ∧
      .create draft ∈ (world.record Api.Memory.answer (Resolution.resolve config)).calls ∧
      draft.metricFilters = rules := by
  intro text rules readFile settings config world draft
  have parsed : parseList text = .ok rules := by decide +kernel
  have given : Config.filterText readFile settings = .ok (some text) := by decide +kernel
  have valid : Config.ofSettings readFile settings = .ok config := by decide +kernel
  have called : .create draft ∈
      (world.record Api.Memory.answer (Resolution.resolve config)).calls := by
    refine List.mem_of_getElem? (i := 2) ?_
    rfl
  obtain ⟨-, again, reaches⟩ := (parseList_grammar text).2 rules parsed
  exact ⟨parsed, valid, again, called, (reaches readFile settings config valid given _ _
    (world.course_run (Resolution.resolve config)) draft called).1⟩

end Filter
end CheckBinding
