import CheckBinding.Cid
import CheckBinding.Proofs.Text.Digits

/-!
Identifiers of bundles and the paths of their rosters.

A canonical identifier is replaced at its beginning, so different bundles have different roster
paths, and these are told from the paths of the bundles themselves.
-/

namespace CheckBinding

namespace Text

theorem afterChars?_append (beginning rest : List Char) :
    afterChars? beginning (beginning ++ rest) = some rest := by
  induction beginning with
  | nil => rfl
  | cons head tail ih =>
      rw [List.cons_append, afterChars?, if_pos rfl]
      exact ih

theorem after?_append (beginning rest : String) :
    after? beginning (beginning ++ rest) = some rest := by
  rw [after?, String.toList_append, afterChars?_append, Option.map_some, String.ofList_toList]

theorem eq_append_of_afterChars? {beginning text rest : List Char}
    (found : afterChars? beginning text = some rest) : text = beginning ++ rest := by
  induction beginning generalizing text with
  | nil =>
      rw [afterChars?] at found
      exact Option.some.inj found
  | cons wanted beginning ih =>
      cases text with
      | nil => cases found
      | cons head tail =>
          rw [afterChars?] at found
          split at found
          · next same =>
            rw [ih found, same]
            rfl
          · cases found

theorem replaceFirstChars_append {head : Char} {old : List Char} (new rest : List Char) :
    replaceFirstChars (head :: old) new (head :: old ++ rest) = new ++ rest := by
  rw [List.cons_append, replaceFirstChars, ← List.cons_append, afterChars?_append]

end Text

namespace Cid

open Text

/-- A canonical identifier is the path of its kind and a number. -/
theorem eq_of_isCanonical {kind : Kind} {text : String} (canonical : isCanonical kind text = true) :
    ∃ number, text.toList = kind.path.toList ++ number := by
  unfold isCanonical at canonical
  split at canonical
  · next rest found =>
    obtain ⟨number, split, -⟩ := Option.map_eq_some_iff.mp found
    exact ⟨number, eq_append_of_afterChars? split⟩
  · cases canonical

/-- What follows the path in a canonical identifier is a number. -/
theorem exists_number_of_isCanonical {kind : Kind} {text : String}
    (canonical : isCanonical kind text = true) :
    ∃ number, isNumber number = true ∧ text = kind.path ++ number := by
  unfold isCanonical at canonical
  split at canonical
  · next number found =>
    obtain ⟨digits, split, rfl⟩ := Option.map_eq_some_iff.mp found
    refine ⟨String.ofList digits, canonical, ?_⟩
    rw [← String.toList_inj, String.toList_append, String.toList_ofList]
    exact eq_append_of_afterChars? split
  · cases canonical

theorem rosterOf_toList {bundle : String} {number : List Char}
    (canonical : bundle.toList = Kind.checkBundle.path.toList ++ number) :
    (rosterOf bundle).toList = rosterPath.toList ++ number := by
  rw [rosterOf, replaceFirst, String.toList_ofList, canonical]
  exact replaceFirstChars_append rosterPath.toList number

theorem rosterOf_path_append (number : String) :
    rosterOf (Kind.checkBundle.path ++ number) = rosterPath ++ number := by
  rw [← String.toList_inj, rosterOf_toList (String.toList_append ..), String.toList_append]

/-- Bundles with canonical identifiers are told apart by the paths of their rosters. -/
theorem rosterOf_injective {left right : String}
    (leftCanonical : isCanonical .checkBundle left = true)
    (rightCanonical : isCanonical .checkBundle right = true)
    (same : rosterOf left = rosterOf right) : left = right := by
  obtain ⟨leftNumber, leftEq⟩ := eq_of_isCanonical leftCanonical
  obtain ⟨rightNumber, rightEq⟩ := eq_of_isCanonical rightCanonical
  have paths := congrArg String.toList same
  rw [rosterOf_toList leftEq, rosterOf_toList rightEq] at paths
  have numbers := List.append_cancel_left paths
  rw [← String.toList_inj, leftEq, rightEq, numbers]

/-- A search for the path of a roster finds the bundle whose roster it is, in whatever order the
identifiers come. -/
theorem find?_rosterOf_eq_some {order : List String} {path cid : String}
    (canonical : ∀ other ∈ order, isCanonical .checkBundle other = true) :
    order.find? (fun other => rosterOf other = path) = some cid ↔
      cid ∈ order ∧ rosterOf cid = path := by
  constructor
  · intro found
    exact ⟨List.mem_of_find?_eq_some found, by simpa using List.find?_some found⟩
  · rintro ⟨member, leads⟩
    cases found : order.find? (fun other => rosterOf other = path) with
    | none => exact absurd leads (by simpa using List.find?_eq_none.mp found cid member)
    | some other =>
        have there := List.mem_of_find?_eq_some found
        have leadsToo : rosterOf other = path := by simpa using List.find?_some found
        rw [rosterOf_injective (canonical other there) (canonical cid member)
          (leadsToo.trans leads.symm)]

theorem isCanonical_path_append (kind : Kind) (text : String) :
    isCanonical kind (kind.path ++ text) = isNumber text := by
  rw [isCanonical, after?, String.toList_append, afterChars?_append]
  simp

theorem isNumber_of_isCanonical {kind : Kind} {text : String}
    (canonical : isCanonical kind text = true) : isNumber text = false := by
  obtain ⟨number, path⟩ := eq_of_isCanonical canonical
  rw [isNumber, path]
  cases kind <;> rfl

/-- Numbers and canonical texts are completed to canonical ones, and no others. -/
theorem isCanonical_completed (kind : Kind) (text : String) :
    isCanonical kind (completed kind text) = (isNumber text || isCanonical kind text) := by
  rw [completed]
  cases number : isNumber text with
  | true => rw [if_pos rfl, isCanonical_path_append, number, Bool.true_or]
  | false => rw [if_neg Bool.false_ne_true, Bool.false_or]

theorem completed_of_isCanonical {kind : Kind} {text : String}
    (canonical : isCanonical kind text = true) : completed kind text = text := by
  rw [completed, isNumber_of_isCanonical canonical]
  exact if_neg Bool.false_ne_true

/-- A number is completed, and an identifier that is canonical stays. -/
theorem normalize_eq_ok {kind : Kind} {text cid : String} :
    normalize kind text = .ok cid ↔
      (isNumber text = true ∧ cid = kind.path ++ text) ∨
        (isCanonical kind text = true ∧ cid = text) := by
  have accepted : normalize kind text = .ok cid ↔
      (isNumber text = true ∨ isCanonical kind text = true) ∧ cid = completed kind text := by
    rw [normalize, ← Bool.or_eq_true, ← isCanonical_completed]
    by_cases empty : text = ""
    · have blank : isCanonical kind (completed kind text) = false := by
        subst empty
        cases kind <;> rfl
      rw [if_pos empty, blank]
      simp
    · rw [if_neg empty]
      split
      · next canonical => simp [canonical, eq_comm]
      · next other => simp [other]
  rw [accepted, or_and_right]
  refine or_congr (and_congr_right (fun number => ?_)) (and_congr_right (fun canonical => ?_))
  · rw [completed, if_pos number]
  · rw [completed_of_isCanonical canonical]

/-- What is refused is neither a number nor canonical. -/
theorem normalize_eq_error {kind : Kind} {text : String} {fault : Fault}
    (refused : normalize kind text = .error fault) :
    isNumber text = false ∧ isCanonical kind text = false := by
  have nothing : ∀ cid, normalize kind text ≠ .ok cid := by
    intro cid accepted
    rw [refused] at accepted
    cases accepted
  constructor
  · rw [Bool.eq_false_iff]
    exact fun number => nothing _ (normalize_eq_ok.mpr (Or.inl ⟨number, rfl⟩))
  · rw [Bool.eq_false_iff]
    exact fun canonical => nothing _ (normalize_eq_ok.mpr (Or.inr ⟨canonical, rfl⟩))

def shown (text : String) : String :=
  if text = "" then "empty" else text

theorem eq_of_normalize_error {kind : Kind} {text : String} {fault : Fault}
    (refused : normalize kind text = .error fault) : fault = ⟨kind, shown text⟩ := by
  unfold normalize at refused
  unfold shown
  split at refused
  · next empty =>
    cases refused
    rw [if_pos empty]
  · next given =>
    rw [if_neg given]
    split at refused <;> cases refused
    rfl

theorem isCanonical_of_normalize {kind : Kind} {text cid : String}
    (normal : normalize kind text = .ok cid) : isCanonical kind cid = true := by
  rcases normalize_eq_ok.mp normal with ⟨number, rfl⟩ | ⟨canonical, rfl⟩
  · rw [isCanonical_path_append]
    exact number
  · exact canonical

theorem isCanonical_decimal (kind : Kind) (number : Nat) :
    isCanonical kind (kind.path ++ decimal number) = true := by
  have digits : ∀ digit ∈ Nat.toDigits 10 number, isDigit digit = true :=
    fun _ member => isDigit_of_mem_toDigits member
  rw [isCanonical_path_append]
  simpa [isNumber, decimal, Nat.toDigits_ne_nil] using digits

/-- The roster of a canonical identifier stands below the path of rosters. -/
theorem after?_rosterOf {bundle : String} (canonical : isCanonical .checkBundle bundle = true) :
    (after? rosterPath (rosterOf bundle)).isSome = true := by
  obtain ⟨number, bundleEq⟩ := eq_of_isCanonical canonical
  rw [after?, rosterOf_toList bundleEq, afterChars?_append]
  rfl

/-- The path of a bundle is not below the path of rosters. -/
theorem after?_rosterPath_of_isCanonical {bundle : String}
    (canonical : isCanonical .checkBundle bundle = true) : after? rosterPath bundle = none := by
  obtain ⟨number, bundleEq⟩ := eq_of_isCanonical canonical
  rw [after?, bundleEq]
  rfl

end Cid
end CheckBinding
