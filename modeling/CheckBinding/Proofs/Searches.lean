import CheckBinding.Agent.Resolution
import CheckBinding.Proofs.Memories
import CheckBinding.Proofs.Storage.Paths
import CheckBinding.World
import Mathlib.Data.List.DropRight
import Mathlib.Data.List.TakeWhile

/-!
What a search asks for, and what the service in memory takes it for.

A search writes a type and a target between quotation marks and brackets, as they are. The service
cuts it at the closing brackets and takes the quotation marks off both ends of a value. The two
agree on texts without a closing bracket that neither begin nor end with a quotation mark, and on
these only.
-/

namespace CheckBinding

/-! ### Taking characters off the ends -/

namespace Text

variable {test : Char → Bool}

theorem dropTail_append_cons {last : Char} (kept : test last = false) (front tail : List Char) :
    dropTail test (front ++ last :: tail) = front ++ last :: dropTail test tail := by
  rw [dropTail, List.reverse_append, List.reverse_cons, List.append_assoc, List.dropWhile_append]
  split
  · next nothing =>
    rw [List.singleton_append, List.dropWhile_cons_of_neg (by simp [kept]), dropTail,
      List.isEmpty_iff.mp nothing]
    simp
  · rw [dropTail]
    simp

theorem length_dropTail_le (text : List Char) : (dropTail test text).length ≤ text.length := by
  rw [dropTail, List.length_reverse, ← @List.length_reverse Char text]
  exact List.length_dropWhile_le test text.reverse

theorem length_stripChars_le (text : List Char) : (stripChars test text).length ≤ text.length :=
  (length_dropTail_le _).trans (List.length_dropWhile_le test text)

private theorem dropWhile_eq_self_iff {text : List Char} :
    text.dropWhile test = text ↔ ∀ first ∈ text.head?, test first = false := by
  cases text with
  | nil => simp
  | cons head rest => simp [List.dropWhile_eq_self_iff]

theorem dropTail_eq_self_iff {text : List Char} :
    dropTail test text = text ↔ ∀ last ∈ text.getLast?, test last = false := by
  rw [dropTail, List.reverse_eq_iff, dropWhile_eq_self_iff, List.head?_reverse]

theorem stripChars_eq_self_iff {text : List Char} :
    stripChars test text = text ↔
      (∀ first ∈ text.head?, test first = false) ∧ ∀ last ∈ text.getLast?, test last = false := by
  rw [← dropWhile_eq_self_iff, ← dropTail_eq_self_iff, stripChars]
  constructor
  · intro same
    -- Both steps only shorten, so neither of them has taken anything off.
    have shortened := @length_dropTail_le test (text.dropWhile test)
    rw [same] at shortened
    have unchanged : text.dropWhile test = text :=
      (List.dropWhile_sublist test).eq_of_length_le shortened
    rw [unchanged] at same
    exact ⟨unchanged, same⟩
  · rintro ⟨start, finish⟩
    rw [start, finish]

theorem splitChars_eq_cons (separator : Char) (text : List Char) :
    ∃ rest, splitChars separator text =
      text.takeWhile (fun character => character ≠ separator) :: rest := by
  induction text with
  | nil => exact ⟨[], rfl⟩
  | cons head tail ih =>
      obtain ⟨rest, pieces⟩ := ih
      rw [splitChars]
      by_cases ends : head = separator
      · rw [if_pos ends, List.takeWhile_cons_of_neg (by simp [ends])]
        exact ⟨_, rfl⟩
      · rw [if_neg ends, pieces, List.takeWhile_cons_of_pos (by simp [ends])]
        exact ⟨rest, rfl⟩

theorem cutChars_append {separator : Char} {front : List Char} (absent : separator ∉ front)
    (rest : List Char) : cutChars separator (front ++ separator :: rest) = some (front, rest) := by
  induction front with
  | nil => exact if_pos rfl
  | cons head front ih =>
      rw [List.mem_cons, not_or] at absent
      rw [List.cons_append, cutChars, if_neg (Ne.symm absent.1), ih absent.2]
      rfl

end Text

/-! ### Writing and reading a value -/

structure Plain (text : String) : Prop where
  uncut : ')' ∉ text.toList
  opening : text.toList.head? ≠ some '"'
  closing : text.toList.getLast? ≠ some '"'

namespace Api.Memory

open Text

def isQuote (character : Char) : Bool :=
  character = '"'

/-- The part of a text that a search passes on: up to the first closing bracket, the quotation mark
behind the text included. -/
def passed (text : List Char) : List Char :=
  dropTail isBlank ((text ++ ['"']).takeWhile (fun character => character ≠ ')'))

def understood (text : List Char) : List Char :=
  stripChars isQuote ('"' :: passed text)

theorem passed_of_uncut {text : List Char} (uncut : ')' ∉ text) : passed text = text ++ ['"'] := by
  have whole : (text ++ ['"']).takeWhile (fun character => character ≠ ')') = text ++ ['"'] := by
    rw [List.takeWhile_eq_self_iff]
    intro character member
    rcases List.mem_append.mp member with within | last
    · have different : character ≠ ')' := fun same => uncut (same ▸ within)
      simpa using different
    · rw [List.mem_singleton.mp last]
      rfl
  rw [passed, whole]
  exact dropTail_append_cons (by decide) text []

theorem understood_eq (text : List Char) : understood text = stripChars isQuote (passed text) := by
  rw [understood, stripChars, stripChars, List.dropWhile_cons_of_pos (by decide)]

theorem understood_of_uncut {text : List Char} (uncut : ')' ∉ text) :
    understood text = stripChars isQuote text := by
  rw [understood_eq, passed_of_uncut uncut, stripChars, stripChars, List.dropWhile_append]
  split
  · next nothing =>
    rw [List.isEmpty_iff.mp nothing]
    rfl
  · rw [dropTail, dropTail, List.reverse_append, List.reverse_singleton, List.singleton_append,
      List.dropWhile_cons_of_pos (by decide)]

theorem length_understood_lt {text : List Char} (cut : ')' ∈ text) :
    (understood text).length < text.length := by
  have stops : text.takeWhile (fun character => character ≠ ')') ≠ text := by
    intro whole
    have kept := List.takeWhile_eq_self_iff.mp whole ')' cut
    simp at kept
  have shorter :=
    (List.takeWhile_prefix (l := text) (fun character => character ≠ ')')).length_le
  have unequal : (text.takeWhile (fun character => character ≠ ')')).length ≠ text.length :=
    fun same => stops ((List.takeWhile_prefix _).eq_of_length same)
  have before : (text ++ ['"']).takeWhile (fun character => character ≠ ')') =
      text.takeWhile (fun character => character ≠ ')') := by
    rw [List.takeWhile_append, if_neg unequal]
  calc (understood text).length
      ≤ (passed text).length := by
        rw [understood_eq]
        exact length_stripChars_le _
    _ ≤ (text.takeWhile (fun character => character ≠ ')')).length := by
        rw [passed, before]
        exact length_dropTail_le _
    _ < text.length := by omega

/-- A text is taken for itself just when it is plain. -/
theorem understood_eq_self_iff {text : String} :
    understood text.toList = text.toList ↔ Plain text := by
  by_cases cut : ')' ∈ text.toList
  · have shorter := length_understood_lt cut
    constructor
    · intro same
      rw [same] at shorter
      exact absurd shorter (Nat.lt_irrefl _)
    · intro plain
      exact absurd cut plain.uncut
  · rw [understood_of_uncut cut, stripChars_eq_self_iff]
    constructor
    · rintro ⟨opening, closing⟩
      refine ⟨cut, fun first => ?_, fun last => ?_⟩
      · have quoted := opening '"' first
        simp [isQuote] at quoted
      · have quoted := closing '"' last
        simp [isQuote] at quoted
    · rintro ⟨-, opening, closing⟩
      refine ⟨fun first starts => ?_, fun last ends => ?_⟩
      · simp only [isQuote, decide_eq_false_iff_not]
        rintro rfl
        exact opening starts
      · simp only [isQuote, decide_eq_false_iff_not]
        rintro rfl
        exact closing ends

/-! ### Reading a search -/

def conditionOf (piece : List Char) : Option (List Char × List Char) :=
  match stripChars isBlank piece with
  | '(' :: condition => cutChars ':' condition
  | _ => none

theorem conditions_eq (criteria : String) :
    conditions criteria = (splitChars ')' criteria.toList).filterMap conditionOf :=
  rfl

theorem filterMap_conditionOf_append (front rest : List Char) :
    (splitChars ')' (front ++ ')' :: rest)).filterMap conditionOf =
      (splitChars ')' front).filterMap conditionOf ++
        (splitChars ')' rest).filterMap conditionOf := by
  rw [splitChars_append, List.filterMap_append]

theorem conditionOf_cons {name : List Char} (simple : ':' ∉ name) (value : List Char) :
    conditionOf ('(' :: (name ++ ':' :: '"' :: value)) =
      some (name, '"' :: dropTail isBlank value) := by
  have stripped : stripChars isBlank ('(' :: (name ++ ':' :: '"' :: value)) =
      '(' :: (name ++ ':' :: '"' :: dropTail isBlank value) := by
    have kept := @dropTail_append_cons isBlank '"' (by decide) ('(' :: (name ++ [':'])) value
    rw [stripChars, List.dropWhile_cons_of_neg (by decide)]
    simpa using kept
  rw [conditionOf, stripped]
  exact cutChars_append simple _

def written (name text : List Char) : List Char :=
  '(' :: (name ++ ':' :: '"' :: (text ++ ['"']))

/-- A condition that is written is read under its name, with what is passed on of the text. What the
text may bring behind a closing bracket is read after it. -/
theorem conditions_written {name : List Char} (uncut : ')' ∉ name) (simple : ':' ∉ name)
    (text : List Char) :
    ∃ others, (splitChars ')' (written name text)).filterMap conditionOf =
      (name, '"' :: passed text) :: others ∧ (')' ∉ text → others = []) := by
  have opening : ∀ character ∈ '(' :: (name ++ [':', '"']),
      decide (character ≠ ')') = true := by
    intro character member
    rw [decide_eq_true_eq]
    rintro rfl
    simp [uncut] at member
  have layout : written name text = '(' :: (name ++ [':', '"']) ++ (text ++ ['"']) := by
    simp [written]
  obtain ⟨rest, pieces⟩ := splitChars_eq_cons ')' (written name text)
  have read : conditionOf
      ((written name text).takeWhile (fun character => character ≠ ')')) =
        some (name, '"' :: passed text) := by
    rw [layout, List.takeWhile_append_of_pos opening, passed, ← conditionOf_cons simple]
    simp
  refine ⟨rest.filterMap conditionOf, ?_, fun plain => ?_⟩
  · rw [pieces, List.filterMap_cons, read]
  · have whole : splitChars ')' (written name text) = [written name text] := by
      refine splitChars_plain ?_
      simp [written, uncut, plain]
    rw [whole] at pieces
    rw [← (List.cons.inj pieces).2]
    rfl

private theorem toList_interpolated (first second third left right : String) :
    (first ++ left ++ second ++ right ++ third).toList =
      first.toList ++ (left.toList ++ (second.toList ++ (right.toList ++ third.toList))) := by
  simp only [String.toList_append, List.append_assoc]

theorem criteria_toList (checkType target : String) :
    (Resolution.criteria checkType target).toList =
      "(active:1".toList ++ ')' :: (written "type".toList checkType.toList ++
        ')' :: (written "target".toList target.toList ++ [')'])) := by
  have first : "(active:1)(type:\"".toList =
      "(active:1".toList ++ ')' :: '(' :: ("type".toList ++ [':', '"']) := by decide
  have second : "\")(target:\"".toList =
      '"' :: ')' :: '(' :: ("target".toList ++ [':', '"']) := by decide
  have third : "\")".toList = ['"', ')'] := by decide
  refine (toList_interpolated _ _ _ checkType target).trans ?_
  simp only [first, second, third, written, List.append_assoc, List.cons_append, List.nil_append]

/-- What a search is read as: its three conditions, and what the texts bring behind closing brackets
of their own. -/
theorem conditions_criteria (checkType target : String) :
    ∃ others further, conditions (Resolution.criteria checkType target) =
      ("active".toList, ['1']) :: ("type".toList, '"' :: passed checkType.toList) ::
        (others ++ ("target".toList, '"' :: passed target.toList) :: further) ∧
      (')' ∉ checkType.toList → others = []) ∧ (')' ∉ target.toList → further = []) := by
  obtain ⟨others, readType, nothing⟩ :=
    @conditions_written "type".toList (by decide) (by decide) checkType.toList
  obtain ⟨further, readTarget, nothingMore⟩ :=
    @conditions_written "target".toList (by decide) (by decide) target.toList
  have active : (splitChars ')' "(active:1".toList).filterMap conditionOf =
      [("active".toList, ['1'])] := by decide
  have ending : (splitChars ')' []).filterMap conditionOf = [] := by decide
  refine ⟨others, further, ?_, nothing, nothingMore⟩
  rw [conditions_eq, criteria_toList, filterMap_conditionOf_append, filterMap_conditionOf_append,
    filterMap_conditionOf_append, active, readType, readTarget, ending, List.append_nil]
  rfl

/-! ### Meeting a search -/

theorem meets_active {bundle : Bundle} :
    meets bundle ("active".toList, ['1']) = bundle.isActive := by
  have one : String.ofList (stripChars (fun character => character = '"') ['1']) = "1" := by decide
  rw [meets, String.ofList_toList]
  simp [one]

theorem meets_type {bundle : Bundle} {text : List Char} :
    meets bundle ("type".toList, '"' :: passed text) = true ↔
      bundle.checkType.toList = understood text := by
  rw [meets, String.ofList_toList]
  change decide (bundle.checkType = String.ofList (understood text)) = true ↔ _
  rw [decide_eq_true_eq, ← String.toList_inj, String.toList_ofList]

theorem meets_target {bundle : Bundle} {text : List Char} :
    meets bundle ("target".toList, '"' :: passed text) = true ↔
      bundle.target.toList = understood text := by
  rw [meets, String.ofList_toList]
  change decide (bundle.target = String.ofList (understood text)) = true ↔ _
  rw [decide_eq_true_eq, ← String.toList_inj, String.toList_ofList]

theorem matchesCriteria_criteria {checkType target : String} (plainType : Plain checkType)
    (plainTarget : Plain target) {bundle : Bundle} :
    matchesCriteria (Resolution.criteria checkType target) bundle = true ↔
      bundle.isActive = true ∧ bundle.checkType = checkType ∧ bundle.target = target := by
  obtain ⟨others, further, read, nothing, nothingMore⟩ := conditions_criteria checkType target
  rw [matchesCriteria, read, nothing plainType.uncut, nothingMore plainTarget.uncut]
  simp only [List.nil_append, List.all_cons, List.all_nil, Bool.and_true, Bool.and_eq_true,
    meets_active, meets_type, meets_target, understood_eq_self_iff.mpr plainType,
    understood_eq_self_iff.mpr plainTarget, String.toList_inj]

/-- A bundle is found by a search for its own type and target only if both are plain. -/
theorem plain_of_matchesCriteria {bundle : Bundle}
    (found : matchesCriteria (Resolution.criteria bundle.checkType bundle.target) bundle = true) :
    Plain bundle.checkType ∧ Plain bundle.target := by
  obtain ⟨others, further, read, nothing, -⟩ := conditions_criteria bundle.checkType bundle.target
  rw [matchesCriteria, read, List.all_cons, List.all_cons, List.all_append, List.all_cons] at found
  simp only [Bool.and_eq_true, meets_type, meets_target] at found
  obtain ⟨-, ofType, -, ofTarget, -⟩ := found
  exact ⟨understood_eq_self_iff.mp ofType.symm, understood_eq_self_iff.mp ofTarget.symm⟩

/-! ### What is found -/

/-- A service that can be reached, gives no prepared result, and keeps each bundle under its own
identifier. -/
structure InService (memory : Memory) : Prop where
  available : memory.unavailable = false
  unprepared : memory.searchOverride = none
  own : ∀ cid bundle, memory.bundle? cid = some bundle → bundle.cid = cid

variable {memory : Memory}

theorem InService.found_eq (inService : memory.InService) (criteria : String) :
    memory.found criteria = memory.bundles.values.filter (matchesCriteria criteria) := by
  rw [found, inService.unprepared]

theorem InService.mem_found (inService : memory.InService) {criteria : String} {bundle : Bundle} :
    bundle ∈ memory.found criteria ↔
      memory.bundle? bundle.cid = some bundle ∧ matchesCriteria criteria bundle = true := by
  rw [inService.found_eq, List.mem_filter, NameMap.mem_values_iff]
  refine and_congr_left (fun _ => ⟨?_, fun stored => ⟨bundle.cid, stored⟩⟩)
  rintro ⟨cid, stored⟩
  rw [inService.own cid bundle stored]
  exact stored

/-- The bundles stand in the order of their identifiers, each of them once. -/
theorem InService.values_sorted (inService : memory.InService) :
    memory.bundles.values.Pairwise (fun left right => left.cid < right.cid) := by
  rw [NameMap.values, List.pairwise_map]
  refine memory.bundles.ordered.imp_of_mem (fun leftIn rightIn before => ?_)
  rw [inService.own _ _ (NameMap.get?_eq_some_iff.mpr leftIn),
    inService.own _ _ (NameMap.get?_eq_some_iff.mpr rightIn)]
  exact before

theorem InService.found_sorted (inService : memory.InService) (criteria : String) :
    (memory.found criteria).Pairwise (fun left right => left.cid < right.cid) := by
  rw [inService.found_eq]
  exact inService.values_sorted.filter _

theorem InService.answer_search (inService : memory.InService) (criteria : String)
    (filter : Option SearchFilter) :
    memory.answer (.search criteria filter) = (.ok (memory.found criteria), memory.counted) := by
  rw [answer, inService.available]
  rfl

/-- In whichever order the bundles are gone through, sorting what meets the search by identifiers
gives what is found. -/
theorem InService.mergeSort_filter (inService : memory.InService) (criteria : String)
    {order : List Bundle} (all : order.Perm memory.bundles.values) :
    (order.filter (matchesCriteria criteria)).mergeSort (fun left right => left.cid ≤ right.cid) =
      memory.found criteria := by
  have found := ((List.mergeSort_perm (order.filter (matchesCriteria criteria))
    (fun left right => left.cid ≤ right.cid)).trans (all.filter _)).trans
      (List.Perm.of_eq (inService.found_eq criteria).symm)
  have same : ∀ left right : Bundle,
      left ∈ (order.filter (matchesCriteria criteria)).mergeSort
        (fun left right => left.cid ≤ right.cid) →
      right ∈ memory.found criteria → left.cid ≤ right.cid → right.cid ≤ left.cid →
        left = right := by
    intro left right leftIn rightIn before after
    have leftStored := (inService.mem_found.mp (found.mem_iff.mp leftIn)).1
    have rightStored := (inService.mem_found.mp rightIn).1
    rw [String.le_antisymm before after, rightStored] at leftStored
    exact (Option.some.inj leftStored).symm
  refine List.Perm.eq_of_pairwise same ?_ ?_ found
  · refine (List.pairwise_mergeSort ?_ ?_ _).imp (fun before => of_decide_eq_true before)
    · intro first second third left right
      rw [decide_eq_true_eq] at left right ⊢
      exact String.le_trans left right
    · intro first second
      rw [Bool.or_eq_true, decide_eq_true_eq, decide_eq_true_eq]
      exact String.le_total first.cid second.cid
  · exact (inService.found_sorted criteria).imp
      (fun before => String.not_lt.mp (String.lt_asymm before))

/-- What a search for a type and a target should come to: the active bundles of both, each once,
in the order of their identifiers. -/
structure Finds (memory : Memory) (checkType target : String) (found : List Bundle) : Prop where
  mem_iff : ∀ bundle, bundle ∈ found ↔ bundle ∈ memory.bundles.values ∧
    bundle.isActive = true ∧ bundle.checkType = checkType ∧ bundle.target = target
  sorted : found.Pairwise (fun left right => left.cid < right.cid)

theorem InService.finds (inService : memory.InService) {checkType target : String}
    (plainType : Plain checkType) (plainTarget : Plain target) :
    Finds memory checkType target (memory.found (Resolution.criteria checkType target)) := by
  refine ⟨fun bundle => ?_, inService.found_sorted _⟩
  rw [inService.found_eq, List.mem_filter, matchesCriteria_criteria plainType plainTarget]

theorem inService_startingAt (number : Nat) : (startingAt number).InService :=
  ⟨rfl, rfl, fun cid bundle stored => by cases stored⟩

theorem InService.insertBundle (inService : memory.InService) (bundle : Bundle) :
    (memory.insertBundle bundle).InService := by
  refine ⟨inService.available, inService.unprepared, fun cid other stored => ?_⟩
  rw [bundle?_insertBundle] at stored
  by_cases same : cid = bundle.cid
  · rw [if_pos same] at stored
    cases stored
    exact same.symm
  · rw [if_neg same] at stored
    exact inService.own cid other stored

/-- A service that keeps nothing but one bundle shows whether its type and its target are
understood. -/
theorem plain_of_finds {bundle : Bundle} (active : bundle.isActive = true)
    (finds : Finds ((startingAt 0).insertBundle bundle) bundle.checkType bundle.target
      (((startingAt 0).insertBundle bundle).found
        (Resolution.criteria bundle.checkType bundle.target))) :
    Plain bundle.checkType ∧ Plain bundle.target := by
  have inService := (inService_startingAt 0).insertBundle bundle
  have stored : ((startingAt 0).insertBundle bundle).bundle? bundle.cid = some bundle := by
    rw [bundle?_insertBundle, if_pos rfl]
  have listed := (finds.mem_iff bundle).mpr
    ⟨NameMap.mem_values_iff.mpr ⟨bundle.cid, stored⟩, active, rfl, rfl⟩
  exact plain_of_matchesCriteria (inService.mem_found.mp listed).2

/-- The order in which the bundles are gone through does not matter to a search. It finds exactly
the active bundles of its type and target, whatever bundles there are, just when both are plain. -/
theorem search_finds_iff (checkType target : String) (filter : Option SearchFilter) :
    (∀ memory : Memory, memory.InService → ∀ order : List Bundle,
      order.Perm memory.bundles.values →
        (memory.answer (.search (Resolution.criteria checkType target) filter)).1 =
          .ok ((order.filter (matchesCriteria (Resolution.criteria checkType target))).mergeSort
            (fun left right => left.cid ≤ right.cid))) ∧
    ((∀ memory : Memory, memory.InService → ∃ found,
      (memory.answer (.search (Resolution.criteria checkType target) filter)).1 = .ok found ∧
        Finds memory checkType target found) ↔
      Plain checkType ∧ Plain target) := by
  refine ⟨fun memory inService order all => ?_, fun finds => ?_, fun plain memory inService => ?_⟩
  · rw [inService.answer_search, inService.mergeSort_filter _ all]
  · let bundle : Bundle := { Bundle.blank with
      status := Bundle.activeStatus, checkType := checkType, target := target }
    have inService := (inService_startingAt 0).insertBundle bundle
    obtain ⟨found, answered, exactly⟩ := finds _ inService
    rw [inService.answer_search] at answered
    cases answered
    exact @plain_of_finds bundle rfl exactly
  · exact ⟨_, congrArg Prod.fst (inService.answer_search _ filter),
      inService.finds plain.1 plain.2⟩

/-- Of three bundles the two of one target are found, in the order of their identifiers. -/
theorem search_finds_iff_two :
    let bundle (cid target : String) : Bundle := { Bundle.blank with
      cid := cid, status := Bundle.activeStatus, checkType := "json:nad", target := target }
    let memory := ((fresh.insertBundle (bundle "/check_bundle/2" "web:1")).insertBundle
      (bundle "/check_bundle/10" "web:1")).insertBundle (bundle "/check_bundle/3" "web")
    ∃ found, (memory.answer (.search (Resolution.criteria "json:nad" "web:1") none)).1 =
        .ok found ∧ Finds memory "json:nad" "web:1" found ∧
      found.map Bundle.cid = ["/check_bundle/10", "/check_bundle/2"] := by
  intro bundle memory
  have plainType : Plain "json:nad" := ⟨by decide, by decide, by decide⟩
  have plainTarget : Plain "web:1" := ⟨by decide, by decide, by decide⟩
  have inService : memory.InService :=
    (((inService_startingAt 1000).insertBundle _).insertBundle _).insertBundle _
  obtain ⟨found, answered, finds⟩ :=
    (search_finds_iff "json:nad" "web:1" none).2.mpr ⟨plainType, plainTarget⟩ memory inService
  refine ⟨found, answered, finds, ?_⟩
  rw [inService.answer_search] at answered
  cases answered
  decide +kernel

/-- A search for a target with a closing bracket finds the bundle of another target. -/
theorem bracketed_target_finds_other :
    let bundle : Bundle := { Bundle.blank with cid := "/check_bundle/1"
                                               status := Bundle.activeStatus
                                               checkType := "json:nad", target := "web1" }
    let memory := fresh.insertBundle bundle
    let config := { Config.standard with target := "web1)" }
    ((World.quiet memory .empty).run answer (Resolution.search config)).1.toOption =
        some (some bundle) ∧
      (memory.answer (.search (Resolution.criteria config.checkType config.target) none)).1 =
        .ok [bundle] ∧
      ¬ Finds memory config.checkType config.target [bundle] := by
  intro bundle memory config
  refine ⟨by decide +kernel, by decide +kernel, fun finds => ?_⟩
  have other := ((finds.mem_iff bundle).mp (List.mem_singleton_self bundle)).2.2.2
  revert other
  decide +kernel

end Api.Memory
end CheckBinding
