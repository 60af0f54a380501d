import CheckBinding.Proofs.CidGrammar
import CheckBinding.Proofs.FilterLists
import CheckBinding.Proofs.Overrides
import CheckBinding.Proofs.Storage.Paths

/-!
A validated configuration is a normal form.

What settings are validated to says no more than its values: no text has blanks around it that
count, a tag is one tag, a broker is named in full, a rule is one that can be made. So a
configuration can be written back into the settings in the place of what gave it, and is validated
to itself then.
-/

namespace CheckBinding

/-! ### Texts -/

namespace Text

structure Trimmed (text : String) : Prop where
  front : ∀ first ∈ text.toList.head?, isBlank first = false
  back : ∀ last ∈ text.toList.getLast?, isBlank last = false

theorem trimmed_iff {text : String} : Trimmed text ↔ trim text = text := by
  have same : trim text = text ↔ stripChars isBlank text.toList = text.toList := by
    rw [trim, ← String.toList_inj, String.toList_ofList]
  rw [same, stripChars_eq_self_iff]
  exact ⟨fun trimmed => ⟨trimmed.front, trimmed.back⟩, fun ends => ⟨ends.1, ends.2⟩⟩

theorem trimmed_of_trimmed? {setting : Option String} {text : String}
    (given : trimmed? setting = some text) : text ≠ "" ∧ Trimmed text := by
  obtain ⟨whole, -, rfl, present⟩ := trimmed?_eq_some.mp given
  exact ⟨present, trimmed_iff.mpr (trim_trim whole)⟩

theorem trimmed_getD {setting : Option String} {absent : String}
    (normal : absent ≠ "" ∧ Trimmed absent) :
    (trimmed? setting).getD absent ≠ "" ∧ Trimmed ((trimmed? setting).getD absent) := by
  cases given : trimmed? setting with
  | none => exact normal
  | some text => exact trimmed_of_trimmed? given

theorem trimmed?_eq_self {text : String} (normal : text ≠ "" ∧ Trimmed text) :
    trimmed? (some text) = some text :=
  trimmed?_some_eq_self.mpr ⟨trimmed_iff.mp normal.2, normal.1⟩

theorem mem_of_mem_trim {text : String} {character : Char}
    (member : character ∈ (trim text).toList) : character ∈ text.toList := by
  rw [trim, String.toList_ofList] at member
  have within : stripChars isBlank text.toList <+: text.toList.dropWhile isBlank :=
    List.rdropWhile_prefix isBlank _
  exact (List.dropWhile_sublist isBlank).subset (within.subset member)

/-! ### Pieces -/

theorem not_mem_of_mem_splitChars {separator : Char} {text piece : List Char}
    (member : piece ∈ splitChars separator text) : separator ∉ piece := by
  induction text generalizing piece with
  | nil =>
      rw [List.mem_singleton.mp member]
      exact List.not_mem_nil
  | cons head rest ih =>
      rw [splitChars] at member
      split at member
      · rcases List.mem_cons.mp member with rfl | later
        · exact List.not_mem_nil
        · exact ih later
      · next different =>
        split at member
        · rw [List.mem_singleton.mp member, List.mem_singleton]
          exact Ne.symm different
        · next first others pieces =>
          rcases List.mem_cons.mp member with rfl | later
          · rw [List.mem_cons, not_or]
            exact ⟨Ne.symm different, ih (pieces ▸ List.mem_cons_self)⟩
          · exact ih (pieces ▸ List.mem_cons_of_mem first later)

/-- Pieces without the separator are what the text that joins them is split into. -/
theorem split_intercalate {joint : String} {separator : Char} (single : joint.toList = [separator])
    {first : String} {others : List String}
    (plain : ∀ piece ∈ first :: others, separator ∉ piece.toList) :
    split separator (joint.intercalate (first :: others)) = first :: others := by
  have here := splitChars_plain (plain first List.mem_cons_self)
  induction others generalizing first with
  | nil =>
      rw [String.intercalate_singleton, split, here]
      simp
  | cons second others ih =>
      have plainOthers := fun piece member => plain piece (List.mem_cons_of_mem first member)
      have later := ih plainOthers (splitChars_plain (plainOthers second List.mem_cons_self))
      rw [String.intercalate_cons_cons, split, String.toList_append, String.toList_append, single,
        List.append_assoc, List.singleton_append, splitChars_append, here, List.map_append]
      rw [split] at later
      rw [later]
      simp

end Text

/-! ### Documents -/

theorem Json.renderItems_ends (items : List Json) :
    ∃ front, renderItems items = front ++ [']'] := by
  induction items with
  | nil => exact ⟨[], rfl⟩
  | cons item items ih =>
      obtain ⟨front, ends⟩ := ih
      refine ⟨',' :: render item ++ front, ?_⟩
      rw [renderItems, ends, List.append_assoc]

theorem Json.trimmed_array (items : List Json) :
    (array items).toText ≠ "" ∧ Text.Trimmed (array items).toText := by
  have bracketed : ∃ inside, (array items).toText.toList = '[' :: (inside ++ [']']) := by
    rw [toText, String.toList_ofList]
    cases items with
    | nil => exact ⟨[], rfl⟩
    | cons item items =>
        obtain ⟨front, ends⟩ := renderItems_ends items
        refine ⟨render item ++ front, ?_⟩
        rw [render, ends, List.append_assoc]
        rfl
  obtain ⟨inside, whole⟩ := bracketed
  refine ⟨?_, ?_, ?_⟩
  · intro none
    rw [none] at whole
    cases whole
  · rw [whole]
    rintro first ⟨⟩
    rfl
  · rw [whole, ← List.cons_append, List.getLast?_concat]
    rintro last ⟨⟩
    rfl

def BrokerChoice.setting : BrokerChoice → String
  | .select => Config.selectWord
  | .id cid => cid

namespace Config

variable {readFile : FileReader} {settings : Settings} {config : Config}

/-! ### Tags -/

theorem mem_tagList {tags : Option String} {tag : String} (member : tag ∈ tagList tags) :
    tag ≠ "" ∧ ',' ∉ tag.toList ∧ Text.Trimmed tag := by
  obtain ⟨listed, present⟩ := List.mem_filter.mp member
  obtain ⟨piece, among, rfl⟩ := List.mem_map.mp listed
  obtain ⟨characters, split, rfl⟩ := List.mem_map.mp among
  refine ⟨of_decide_eq_true present, fun comma => ?_, Text.trimmed_iff.mpr (Text.trim_trim _)⟩
  have inside := Text.mem_of_mem_trim comma
  rw [String.toList_ofList] at inside
  exact Text.not_mem_of_mem_splitChars split inside

theorem tagList_intercalate {tags : List String}
    (normal : ∀ tag ∈ tags, tag ≠ "" ∧ ',' ∉ tag.toList ∧ Text.Trimmed tag) :
    tagList (some (",".intercalate tags)) = tags := by
  cases tags with
  | nil => rfl
  | cons tag tags =>
      have pieces : Text.split ',' (",".intercalate (tag :: tags)) = tag :: tags :=
        Text.split_intercalate rfl (fun piece member => (normal piece member).2.1)
      have trims : (tag :: tags).map Text.trim = tag :: tags := by
        refine (List.map_congr_left fun piece member => ?_).trans (List.map_id _)
        exact Text.trimmed_iff.mp (normal piece member).2.2
      rw [tagList, Option.getD_some, pieces, trims, List.filter_eq_self]
      intro piece member
      exact decide_eq_true (normal piece member).1

/-! ### Brokers -/

theorem brokerChoice_setting {broker : Option String} {choice : BrokerChoice}
    (chosen : brokerChoice broker = .ok choice) :
    brokerChoice (some choice.setting) = .ok choice := by
  rcases brokerChoice_eq_ok chosen with rfl | ⟨text, cid, normal, rfl⟩
  · decide
  · obtain ⟨digits, names, rfl⟩ := Cid.normalize_eq_ok_iff.mp normal
    have again := Cid.normalize_of_names (.full names.digits : Cid.Names .broker _ digits)
    have led : (Cid.Kind.broker.path ++ digits).toList.head? = some '/' := by
      rw [String.toList_append]
      rfl
    have present : Cid.Kind.broker.path ++ digits ≠ "" := by
      intro none
      rw [none] at led
      cases led
    have noWord : Cid.Kind.broker.path ++ digits ≠ selectWord := by
      intro same
      rw [same] at led
      cases led
    have trimmed := Text.trimmed?_some_eq_self.mpr ⟨Cid.trim_of_normalize again, present⟩
    simp only [BrokerChoice.setting, brokerChoice, trimmed, if_neg noWord, again]

/-! ### Normal configurations -/

/-- A configuration that says no more than its values. -/
structure Normal [Pattern.Engine] (config : Config) : Prop where
  refreshTtl : config.metricRefreshTtl ≠ Duration.zero
  tags : ∀ tag ∈ config.tags, tag ≠ "" ∧ ',' ∉ tag.toList ∧ Text.Trimmed tag
  checkType : config.checkType ≠ "" ∧ Text.Trimmed config.checkType
  status : config.activeMetricStatus ≠ "" ∧ Text.Trimmed config.activeMetricStatus
  target : Text.Trimmed config.target
  title : ∀ title, config.title = some title → title ≠ "" ∧ Text.Trimmed title
  bundleId : ∀ id, config.bundleId = some id → id ≠ "" ∧ Text.Trimmed id
  broker : config.broker = .select ∨
    ∃ digits, Cid.Digits digits ∧ config.broker = .id (Cid.Kind.broker.path ++ digits)
  filters : ∀ rules, config.metricFilters = some rules →
    ∀ rule ∈ rules, Filter.make rule.action.word rule.pattern rule.comment = .ok rule

theorem Validates.normal [Pattern.Engine] (validates : Validates readFile settings config) :
    config.Normal where
  refreshTtl := ne_zero_of_refreshTtl validates.refreshTtl
  tags := by
    rw [validates.tags]
    exact fun tag member => mem_tagList member
  checkType := by
    rw [validates.checkType]
    exact Text.trimmed_getD ⟨by decide, Text.trimmed_iff.mpr (by decide)⟩
  status := by
    rw [validates.status]
    exact Text.trimmed_getD ⟨by decide, Text.trimmed_iff.mpr (by decide)⟩
  target := by
    rw [validates.target]
    cases given : Text.trimmed? settings.target with
    | none => exact Text.trimmed_iff.mpr (by decide)
    | some text => exact (Text.trimmed_of_trimmed? given).2
  title := by
    rw [validates.title]
    exact fun title given => Text.trimmed_of_trimmed? given
  bundleId := by
    rw [validates.bundleId]
    exact fun id given => Text.trimmed_of_trimmed? given
  broker := by
    rcases brokerChoice_eq_ok validates.broker with select | ⟨text, cid, normal, named⟩
    · exact Or.inl select
    · obtain ⟨digits, names, rfl⟩ := Cid.normalize_eq_ok_iff.mp normal
      exact Or.inr ⟨digits, names.digits, named⟩
  filters := by
    intro rules given
    rcases filters_eq_ok.mp validates.filters with ⟨-, absent⟩ | ⟨text, listed, -, parsed, same⟩
    · rw [absent] at given
      cases given
    · rw [same] at given
      cases given
      exact Filter.accepted_of_parseList parsed

/-! ### Writing back -/

/-- The settings with what they are validated to in the place of what gave it; the spans of time and
what is taken as it is stay. -/
def writtenInto (config : Config) (settings : Settings) : Settings :=
  { settings with
    bundleId := config.bundleId
    target := some config.target
    checkType := some config.checkType
    title := config.title
    tags := some (",".intercalate config.tags)
    broker := some config.broker.setting
    metricFilters := config.metricFilters.map (fun rules =>
      (Json.array (rules.map Filter.toJson)).toText)
    metricFilterFile := none
    activeMetricStatus := some config.activeMetricStatus }

theorem filters_writtenInto [Pattern.Engine] (normal : config.Normal) (readFile : FileReader)
    (settings : Settings) :
    filters readFile (config.writtenInto settings) = .ok config.metricFilters := by
  refine filters_eq_ok.mpr ?_
  cases given : config.metricFilters with
  | none =>
      refine Or.inl ⟨?_, rfl⟩
      rw [filterText, writtenInto, given]
      rfl
  | some rules =>
      refine Or.inr ⟨_, rules, ?_, Filter.parseList_toText (normal.filters rules given), rfl⟩
      have trimmed := Text.trimmed?_eq_self (Json.trimmed_array (rules.map Filter.toJson))
      simp only [filterText, writtenInto, given, Option.map_some, trimmed]

theorem trimmed?_of_normal {setting : Option String}
    (normal : ∀ text, setting = some text → text ≠ "" ∧ Text.Trimmed text) :
    setting = Text.trimmed? setting := by
  cases setting with
  | none => rfl
  | some text => exact (Text.trimmed?_eq_self (normal text rfl)).symm

/-- Every accepted configuration is normal, and is what the settings are validated to once it is
written back into them, whatever the files hold then. -/
theorem ofSettings_normal [Pattern.Engine]
    (accepted : ofSettings readFile settings = .ok config) :
    config.Normal ∧
      ∀ other : FileReader, ofSettings other (config.writtenInto settings) = .ok config := by
  have validates := ofSettings_eq_ok.mp accepted
  have normal := validates.normal
  refine ⟨normal, fun other => ofSettings_eq_ok.mpr ?_⟩
  exact {
    enabled := validates.enabled
    bundleId := trimmed?_of_normal normal.bundleId
    target := by
      by_cases none : config.target = ""
      · rw [writtenInto, none]
        rfl
      · rw [writtenInto, Text.trimmed?_eq_self ⟨none, normal.target⟩]
        rfl
    checkType := by
      rw [writtenInto, Text.trimmed?_eq_self normal.checkType]
      rfl
    create := validates.create
    title := trimmed?_of_normal normal.title
    tags := (tagList_intercalate normal.tags).symm
    broker := brokerChoice_setting validates.broker
    filters := filters_writtenInto normal other settings
    refreshTtl := validates.refreshTtl
    enableNewMetrics := validates.enableNewMetrics
    stateDir := validates.stateDir
    responseTime := validates.responseTime
    retries := validates.retries
    status := by
      rw [writtenInto, Text.trimmed?_eq_self normal.status]
      rfl }

/-- Settings with blanks of several kinds, an empty tag and rules from a file, which are written
back in place. -/
theorem ofSettings_normal_blanks :
    let readFile : FileReader := fun _ => .ok "[ [\"deny\", \"^x\"] ]\n".toUTF8
    let settings := { Settings.blank with
      bundleId := some " \u00A0", target := some " web01\t", title := some "\u3000größe ",
      tags := some "env:prod, role:web,,", broker := some " 035",
      metricFilterFile := some "filters.json", metricRefreshTtl := some " 90s ",
      activeMetricStatus := some "" }
    let config := { Config.standard with
      target := "web01", title := some "größe", tags := ["env:prod", "role:web"],
      broker := .id "/broker/035", metricFilters := some [⟨.deny, "^x", ""⟩],
      metricRefreshTtl := Duration.ofSeconds 90 }
    let written := { settings with
      bundleId := none, target := some "web01", checkType := some "json:nad",
      title := some "größe", tags := some "env:prod,role:web", broker := some "/broker/035",
      metricFilters := some "[[\"deny\",\"^x\",\"\"]]", metricFilterFile := none,
      activeMetricStatus := some "active" }
    ofSettings readFile settings = .ok config ∧ config.writtenInto settings = written ∧
      ofSettings (fun _ => .error .notFound) written = .ok config := by
  intro readFile settings config written
  have accepted : ofSettings readFile settings = .ok config := by decide +kernel
  have same : config.writtenInto settings = written := by decide +kernel
  have again := (ofSettings_normal accepted).2 (fun _ => .error .notFound)
  rw [same] at again
  exact ⟨accepted, same, again⟩

end Config
end CheckBinding
