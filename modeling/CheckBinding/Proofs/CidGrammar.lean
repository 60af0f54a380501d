import CheckBinding.Pattern.Acceptance
import CheckBinding.Proofs.Cids
import CheckBinding.Proofs.Validation

/-!
Which texts are identifiers.

`Names` is the grammar: a number as it stands, or the number below the path of its kind. A text is
accepted just when it is of this form, and what it is completed to is the path and the same digits.
-/

namespace CheckBinding

namespace Text

theorem isDigit_iff {character : Char} :
    isDigit character = true ↔ character ∈ "0123456789".toList := by
  constructor
  · intro digit
    rw [isDigit, Bool.and_eq_true, decide_eq_true_eq, decide_eq_true_eq] at digit
    have least : 48 ≤ character.toNat := digit.1
    have most : character.toNat < 58 := Nat.lt_succ_of_le digit.2
    have listed : ∀ code, code < 58 → 48 ≤ code → Char.ofNat code ∈ "0123456789".toList := by
      decide
    rw [← Char.ofNat_toNat character]
    exact listed character.toNat most least
  · have each : "0123456789".toList.all isDigit = true := by decide
    exact List.all_eq_true.mp each character

end Text

namespace Cid

variable {kind : Kind} {text other cid : String}

/-- One or more of the ten digits, and nothing else. -/
def Digits (text : String) : Prop :=
  text ≠ "" ∧ ∀ character ∈ text.toList, character ∈ "0123456789".toList

inductive Names (kind : Kind) : String → String → Prop
  | bare {digits : String} (number : Digits digits) : Names kind digits digits
  | full {digits : String} (number : Digits digits) : Names kind (kind.path ++ digits) digits

theorem isNumber_iff : isNumber text = true ↔ Digits text := by
  have present : (!text.toList.isEmpty) = true ↔ text ≠ "" := by simp
  rw [isNumber, Bool.and_eq_true, present, List.all_eq_true, Digits]
  refine and_congr_right (fun _ => ?_)
  exact forall₂_congr (fun _ _ => Text.isDigit_iff)

theorem Names.digits {digits : String} (names : Names kind text digits) : Digits digits := by
  cases names with
  | bare number => exact number
  | full number => exact number

/-- What a text is completed to. -/
theorem normalize_eq_ok_iff :
    normalize kind text = .ok cid ↔
      ∃ digits, Names kind text digits ∧ cid = kind.path ++ digits := by
  rw [normalize_eq_ok]
  constructor
  · rintro (⟨number, rfl⟩ | ⟨canonical, rfl⟩)
    · exact ⟨text, .bare (isNumber_iff.mp number), rfl⟩
    · obtain ⟨digits, number, rfl⟩ := exists_number_of_isCanonical canonical
      exact ⟨digits, .full (isNumber_iff.mp number), rfl⟩
  · rintro ⟨digits, names, rfl⟩
    cases names with
    | bare number => exact Or.inl ⟨isNumber_iff.mpr number, rfl⟩
    | full number =>
        rw [isCanonical_path_append]
        exact Or.inr ⟨isNumber_iff.mpr number, rfl⟩

theorem normalize_of_names {digits : String} (names : Names kind text digits) :
    normalize kind text = .ok (kind.path ++ digits) :=
  normalize_eq_ok_iff.mpr ⟨digits, names, rfl⟩

/-- What is refused is shown as it is, and the empty text by a word. -/
theorem normalize_eq_error_iff {fault : Fault} :
    normalize kind text = .error fault ↔
      (∀ digits, ¬ Names kind text digits) ∧ fault = ⟨kind, shown text⟩ := by
  constructor
  · intro refused
    refine ⟨fun digits names => ?_, eq_of_normalize_error refused⟩
    rw [normalize_of_names names] at refused
    cases refused
  · rintro ⟨unnamed, rfl⟩
    cases normal : normalize kind text with
    | ok cid =>
        obtain ⟨digits, names, -⟩ := normalize_eq_ok_iff.mp normal
        exact absurd names (unnamed digits)
    | error fault => rw [eq_of_normalize_error normal]

/-- Texts that are completed to the same identifier name the same number. -/
theorem Names.eq_of_normalize {left right : String} (names : Names kind text left)
    (namesOther : Names kind other right) (same : normalize kind text = normalize kind other) :
    left = right := by
  rw [normalize_of_names names, normalize_of_names namesOther, Except.ok.injEq,
    ← String.toList_inj, String.toList_append, String.toList_append] at same
  exact String.toList_inj.mp (List.append_cancel_left same)

/-- No identifier is one of a bundle and of a broker. -/
theorem not_isCanonical_both (bundle : isCanonical .checkBundle text = true) :
    isCanonical .broker text = false := by
  obtain ⟨number, path⟩ := eq_of_isCanonical bundle
  rw [isCanonical, Text.after?, path]
  rfl

theorem accepted_by_both_iff :
    ((∃ bundle, normalize .checkBundle text = .ok bundle) ∧
      ∃ broker, normalize .broker text = .ok broker) ↔ Digits text := by
  constructor
  · rintro ⟨⟨bundle, asBundle⟩, ⟨broker, asBroker⟩⟩
    rcases normalize_eq_ok.mp asBundle with ⟨number, -⟩ | ⟨bundleForm, -⟩
    · exact isNumber_iff.mp number
    · rcases normalize_eq_ok.mp asBroker with ⟨number, -⟩ | ⟨brokerForm, -⟩
      · exact isNumber_iff.mp number
      · rw [not_isCanonical_both bundleForm] at brokerForm
        cases brokerForm
  · intro number
    exact ⟨⟨_, normalize_of_names (.bare number)⟩, ⟨_, normalize_of_names (.bare number)⟩⟩

end Cid

namespace Config

theorem brokerChoice_of_ofSettings [Pattern.Engine] {readFile : FileReader} {settings : Settings}
    {config : Config} (accepted : ofSettings readFile settings = .ok config) :
    brokerChoice settings.broker = .ok config.broker :=
  (ofSettings_eq_ok.mp accepted).broker

end Config

namespace Cid

/-- A text is accepted as an identifier just when it is a number or the path of the kind and a
number; the path and the same digits are what it becomes, and other texts are refused by what they
are. So identifiers stay as they are, none becomes what a different number does, a text is accepted
for both kinds just when it is a number, and a configured broker is always named in full. -/
theorem normalize_grammar [Pattern.Engine] (kind : Kind) (text : String) :
    (∀ cid, normalize kind text = .ok cid ↔
      ∃ digits, Names kind text digits ∧ cid = kind.path ++ digits) ∧
    (∀ fault, normalize kind text = .error fault ↔
      (∀ digits, ¬ Names kind text digits) ∧
        fault = ⟨kind, if text = "" then "empty" else text⟩) ∧
    (∀ other left right, Names kind text left → Names kind other right →
      normalize kind text = normalize kind other → left = right) ∧
    (∀ cid, normalize kind text = .ok cid → normalize kind cid = .ok cid) ∧
    ((∃ bundle, normalize .checkBundle text = .ok bundle) ∧
      (∃ broker, normalize .broker text = .ok broker) ↔ Digits text) ∧
    ∀ readFile settings config, Config.ofSettings readFile settings = .ok config →
      config.broker = .select ∨
        ∃ digits, Digits digits ∧ config.broker = .id (Kind.broker.path ++ digits) := by
  refine ⟨fun _ => normalize_eq_ok_iff, fun _ => normalize_eq_error_iff,
    fun _ _ _ names namesOther same => names.eq_of_normalize namesOther same, ?_,
    accepted_by_both_iff, ?_⟩
  · intro cid normal
    obtain ⟨digits, names, rfl⟩ := normalize_eq_ok_iff.mp normal
    exact normalize_of_names (.full names.digits)
  · intro readFile settings config accepted
    rcases Config.brokerChoice_eq_ok (Config.brokerChoice_of_ofSettings accepted) with
      select | ⟨given, cid, normal, chosen⟩
    · exact Or.inl select
    · obtain ⟨digits, names, rfl⟩ := normalize_eq_ok_iff.mp normal
      exact Or.inr ⟨digits, names.digits, chosen⟩

/-- A configured number keeps its zeros when blanks are taken off it; one that is given with a line
break names nothing. -/
theorem normalize_grammar_zeros :
    let settings : Settings := { Settings.blank with broker := some " 007\n" }
    let config : Config := { Config.standard with broker := .id "/broker/007" }
    normalize .broker "/broker/007" = .ok "/broker/007" ∧
      (∀ digits, ¬ Names .broker "7\n" digits) ∧
      Config.ofSettings (fun _ => .error .notFound) settings = .ok config ∧
      ∃ digits, Digits digits ∧ config.broker = .id ("/broker/" ++ digits) := by
  intro settings config
  have accepted : Config.ofSettings (fun _ => .error .notFound) settings = .ok config := by
    decide +kernel
  obtain ⟨-, -, -, stays, -, configured⟩ := normalize_grammar .broker "007"
  obtain ⟨-, refuses, -⟩ := normalize_grammar .broker "7\n"
  refine ⟨stays "/broker/007" (by decide +kernel), ?_, accepted, ?_⟩
  · exact ((refuses ⟨.broker, "7\n"⟩).mp (by decide +kernel)).1
  · exact (configured _ settings config accepted).resolve_left nofun

end Cid
end CheckBinding
