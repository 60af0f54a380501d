import CheckBinding.Filter
import CheckBinding.Proofs.Json.Grammar
import Mathlib.Control.Monad.Basic

/-!
Filters and lists of them as documents.

The text of a list is read rule by rule, each from what the one before left. It comes to the same as
reading the whole text as an array of arrays of texts and each of these as a rule, which is how the
grammar has it. Rules that can be made survive being written and read.
-/

namespace CheckBinding

open Json

namespace Filter

/-! ### The lines of a list -/

abbrev line : Form (List String) := Listed Quoted

theorem reads_line : Reads (asList asText) line :=
  reads_text.list

/-- A rule is read from the front of whatever follows it. -/
theorem readFront_line {gap body outer : List Char} {texts : List String} (blank : Gap gap)
    (written : line body texts) (outerBlank : Gap outer) {rest : List Char} (closed : Closed rest) :
    ∃ document, readFront (itemChars gap body outer ++ rest) = some (document, outer ++ rest) ∧
      asList asText document = .ok texts := by
  obtain ⟨document, spells, decoded⟩ := reads_line.complete written
  refine ⟨document, readValue_itemChars blank outerBlank spells ?_ closed, decoded⟩
  simp only [stepsFor, itemChars, List.length_append]
  omega

/-! ### One rule -/

theorem action?_eq_ok {word : String} {action : FilterAction} (known : action? word = .ok action) :
    word = action.word := by
  unfold action? at known
  split at known
  · next allows =>
    cases known
    exact allows
  · split at known
    · next denies =>
      cases known
      exact denies
    · cases known

variable [Pattern.Engine]

def Accepted (filter : Filter) : Prop :=
  make filter.action.word filter.pattern filter.comment = .ok filter

instance (filter : Filter) : Decidable filter.Accepted :=
  inferInstanceAs (Decidable (_ = _))

/-- What the texts of a rule stand for. -/
inductive Means : List String → Filter → Prop
  | bare {action : FilterAction} {pattern : String}
      (accepted : Pattern.Engine.refusal? pattern = none) :
      Means [action.word, pattern] ⟨action, pattern, ""⟩
  | commented {action : FilterAction} {pattern comment : String}
      (accepted : Pattern.Engine.refusal? pattern = none) :
      Means [action.word, pattern, comment] ⟨action, pattern, comment⟩

theorem make_eq_ok {word pattern comment : String} {filter : Filter} :
    make word pattern comment = .ok filter ↔
      word = filter.action.word ∧ pattern = filter.pattern ∧ comment = filter.comment ∧
        Pattern.Engine.refusal? pattern = none := by
  constructor
  · intro made
    unfold make at made
    obtain ⟨action, known, made⟩ := bind_eq_ok.mp made
    split at made
    · cases made
    · next accepted =>
      cases made
      exact ⟨action?_eq_ok known, rfl, rfl, accepted⟩
  · rintro ⟨rfl, rfl, rfl, accepted⟩
    have known : action? filter.action.word = .ok filter.action := by
      cases filter.action <;> rfl
    unfold make
    rw [known]
    simp only [bind, Except.bind, accepted]

theorem ofTexts_eq_ok {texts : List String} {filter : Filter} :
    ofTexts texts = .ok filter ↔ Means texts filter := by
  constructor
  · intro made
    unfold ofTexts at made
    split at made
    · obtain ⟨rfl, rfl, same, accepted⟩ := make_eq_ok.mp made
      cases filter
      cases same
      exact .bare accepted
    · obtain ⟨rfl, rfl, rfl, accepted⟩ := make_eq_ok.mp made
      exact .commented accepted
    · cases made
  · intro means
    cases means with
    | bare accepted => exact make_eq_ok.mpr ⟨rfl, rfl, rfl, accepted⟩
    | commented accepted => exact make_eq_ok.mpr ⟨rfl, rfl, rfl, accepted⟩

theorem ofDocument_eq_ok {document : Json} {filter : Filter} :
    ofDocument document = .ok filter ↔
      ∃ texts, asList asText document = .ok texts ∧ Means texts filter := by
  unfold ofDocument
  cases asList asText document with
  | error fault => simp
  | ok texts =>
      simp only [Except.ok.injEq, exists_eq_left', ← ofTexts_eq_ok]
      cases ofTexts texts <;> simp [Except.mapError]

theorem Means.accepted {texts : List String} {filter : Filter} (means : Means texts filter) :
    filter.Accepted := by
  cases means with
  | bare accepted => exact make_eq_ok.mpr ⟨rfl, rfl, rfl, accepted⟩
  | commented accepted => exact make_eq_ok.mpr ⟨rfl, rfl, rfl, accepted⟩

theorem accepted_of_ofJson {document : Json} {filter : Filter}
    (decoded : ofJson document = .ok filter) : filter.Accepted := by
  unfold ofJson at decoded
  cases read : ofDocument document with
  | error fault =>
      rw [read] at decoded
      cases decoded
  | ok known =>
      rw [read] at decoded
      cases decoded
      obtain ⟨texts, -, means⟩ := ofDocument_eq_ok.mp read
      exact means.accepted

theorem Accepted.carries {filter : Filter} (accepted : filter.Accepted) :
    Carries ofJson filter.toJson filter := by
  constructor
  · exact wellFormed_ofTexts filter.toTexts
  · have texts : ofTexts filter.toTexts = .ok filter := accepted
    unfold ofJson ofDocument toJson
    rw [asList_ofTexts]
    dsimp only
    rw [texts]
    rfl

/-! ### The rules of a list -/

theorem readRules_sound {steps : Nat} {text rest : List Char} {filters : List Filter}
    (read : readRules steps text = .ok (filters, rest)) :
    ∃ lines body, Items line body lines ∧ List.Forall₂ Means lines filters ∧
      text = body ++ rest := by
  induction steps generalizing text filters with
  | zero => cases read
  | succ steps ih =>
      unfold readRules at read
      split at read
      · cases read
      · next document after here =>
        obtain ⟨filter, made, read⟩ := bind_eq_ok.mp read
        obtain ⟨texts, decoded, means⟩ := ofDocument_eq_ok.mp made
        obtain ⟨gap, body, blank, written, whole⟩ := reads_line.sound here decoded
        obtain ⟨outer, outerBlank, behind⟩ := exists_gap after
        split at read
        · next later begins =>
          obtain ⟨⟨others, last⟩, further, read⟩ := bind_eq_ok.mp read
          cases read
          obtain ⟨lines, behindIt, items, meansOthers, same⟩ := ih further
          refine ⟨texts :: lines, _, .item blank written outerBlank items,
            .cons means meansOthers, ?_⟩
          rw [whole, behind, begins, same]
          simp [itemChars]
        · next later begins =>
          cases read
          refine ⟨[texts], _, .last blank written outerBlank, .cons means .nil, ?_⟩
          rw [whole, behind, begins]
          simp [itemChars]
        · cases read

theorem readRules_complete {text : List Char} {lines : List (List String)}
    (written : Items line text lines) {filters : List Filter}
    (means : List.Forall₂ Means lines filters) {steps : Nat} (enough : text.length < steps)
    (rest : List Char) : readRules steps (text ++ rest) = .ok (filters, rest) := by
  induction written generalizing filters steps with
  | last blank written outerBlank =>
      obtain ⟨steps, rfl⟩ := Nat.exists_eq_succ_of_ne_zero (Nat.ne_zero_of_lt enough)
      rcases means with _ | ⟨means, _ | _⟩
      obtain ⟨document, read, decoded⟩ := readFront_line blank written outerBlank
        (closed_cons rest (by decide : continuesNumber ']' = false))
      have made := ofDocument_eq_ok.mpr ⟨_, decoded, means⟩
      rw [List.append_assoc, List.singleton_append, readRules, read]
      simp only [made, bind, Except.bind, skipSpace_append outerBlank,
        skipSpace_cons (show isSpace ']' = false by decide)]
      rfl
  | @item gap body outer later texts lines blank written outerBlank further ih =>
      simp only [itemChars, List.length_append, List.length_cons] at enough
      obtain ⟨steps, rfl⟩ := Nat.exists_eq_succ_of_ne_zero (Nat.ne_zero_of_lt enough)
      rcases means with _ | ⟨means, others⟩
      obtain ⟨document, read, decoded⟩ := readFront_line blank written outerBlank
        (closed_cons (later ++ rest) (by decide : continuesNumber ',' = false))
      have made := ofDocument_eq_ok.mpr ⟨_, decoded, means⟩
      rw [List.append_assoc, List.cons_append, readRules, read]
      simp only [made, bind, Except.bind, skipSpace_append outerBlank,
        skipSpace_cons (show isSpace ',' = false by decide),
        ih others (by omega : later.length < steps)]
      rfl

/-! ### Whole lists -/

theorem parseList_sound {text : String} {rules : List Filter}
    (parsed : parseList text = .ok rules) :
    ∃ lines, Document (Listed line) text lines ∧ List.Forall₂ Means lines rules := by
  have closed : ∀ {listed : List Filter} {rest : List Char},
      (if (skipSpace rest).isEmpty then pure listed else .error (.document .malformed) :
        Except Fault (List Filter)) = .ok rules → listed = rules ∧ Gap rest := by
    intro listed rest ended
    split at ended
    · next ends => exact ⟨Except.ok.inj ended, gap_of_skipSpace (List.isEmpty_iff.mp ends)⟩
    · cases ended
  obtain ⟨gap, blank, whole⟩ := exists_gap text.toList
  unfold parseList at parsed
  dsimp only at parsed
  split at parsed
  · next after begins =>
    obtain ⟨inner, innerBlank, behind⟩ := exists_gap after
    split at parsed
    · next later ends =>
      obtain ⟨⟨listed, rest⟩, none, ended⟩ := bind_eq_ok.mp parsed
      cases none
      obtain ⟨rfl, outerBlank⟩ := closed ended
      refine ⟨[], ⟨gap, _, _, blank, .empty innerBlank, outerBlank, ?_⟩, .nil⟩
      rw [whole, begins, behind, ends]
      simp [itemChars]
    · obtain ⟨⟨listed, rest⟩, read, ended⟩ := bind_eq_ok.mp parsed
      obtain ⟨rfl, outerBlank⟩ := closed ended
      obtain ⟨lines, body, items, means, same⟩ := readRules_sound read
      refine ⟨lines, ⟨gap, _, _, blank, .given (items.behind innerBlank), outerBlank, ?_⟩, means⟩
      rw [whole, begins, behind, same]
      simp [itemChars]
  · cases parsed

theorem parseList_complete {text : String} {lines : List (List String)}
    (written : Document (Listed line) text lines) {rules : List Filter}
    (means : List.Forall₂ Means lines rules) : parseList text = .ok rules := by
  obtain ⟨gap, body, outer, blank, written, outerBlank, whole⟩ := written
  rw [parseList, whole, itemChars, skipSpace_append blank]
  cases written with
  | empty inner =>
      cases means
      simp [skipSpace_cons (show isSpace '[' = false by decide), skipSpace_append inner,
        skipSpace_cons (show isSpace ']' = false by decide), outerBlank.skipSpace, bind,
        Except.bind, pure, Except.pure]
  | given items =>
      obtain ⟨head, tail, notEnd, items, begins⟩ := reads_line.skipSpace_items items
      have enough : (head :: tail).length < stepsFor (head :: (tail ++ outer)) := by
        simp only [stepsFor, List.length_cons, List.length_append]
        omega
      have read := readRules_complete items means enough outer
      rw [List.cons_append] at read
      simp [skipSpace_cons (show isSpace '[' = false by decide), begins, notEnd, read,
        outerBlank.skipSpace, bind, Except.bind, pure, Except.pure]

/-- A text lists rules if and only if it consists of lines that stand for them. -/
theorem parseList_eq_ok {text : String} {rules : List Filter} :
    parseList text = .ok rules ↔
      ∃ lines, Document (Listed line) text lines ∧ List.Forall₂ Means lines rules := by
  constructor
  · exact parseList_sound
  · rintro ⟨lines, written, means⟩
    exact parseList_complete written means

/-- The filters of a list that was read are accepted. -/
theorem accepted_of_parseList {text : String} {filters : List Filter}
    (parsed : parseList text = .ok filters) : ∀ filter ∈ filters, filter.Accepted := by
  obtain ⟨lines, -, means⟩ := parseList_eq_ok.mp parsed
  intro filter member
  obtain ⟨line, stands⟩ := exists_of_forall₂ means filter member
  exact stands.accepted

/-- What accepted rules are written as lists them. -/
theorem parseList_toText {rules : List Filter} (accepted : ∀ rule ∈ rules, rule.Accepted) :
    parseList (Json.array (rules.map toJson)).toText = .ok rules := by
  have carries : Carries (asList (asList asText)) (.array (rules.map toJson))
      (rules.map toTexts) := by
    have each := carries_list (fun texts (_ : texts ∈ rules.map toTexts) => carries_texts texts)
    rw [List.map_map] at each
    exact each
  refine parseList_eq_ok.mpr ⟨rules.map toTexts,
    reads_line.list.decodeText_eq_ok.mp carries.decodeText, ?_⟩
  rw [List.forall₂_map_left_iff, List.forall₂_same]
  intro rule member
  exact ofTexts_eq_ok.mp (accepted rule member)

end Filter
end CheckBinding
