import CheckBinding.Proofs.Json.Grammar

/-!
A map of texts is read up to its closing brace.

What stands behind the brace is not looked at, so a map that is read from the front of a text is
read from there however the text goes on. A map whose text was cut short is therefore not read at all.
-/

namespace CheckBinding

namespace StringToken

theorem splitAtQuote_append {text raw rest : List Char}
    (split : splitAtQuote text = some (raw, rest)) (more : List Char) :
    splitAtQuote (text ++ more) = some (raw, rest ++ more) := by
  fun_induction splitAtQuote text generalizing raw with
  | case1 => cases split
  | case2 after =>
      cases split
      rfl
  | case3 mark after ih =>
      obtain ⟨⟨inner, behind⟩, found, same⟩ := Option.map_eq_some_iff.mp split
      cases same
      simp only [List.cons_append, splitAtQuote, ih found, Option.map_some]
  | case4 head after notQuote notEscape ih =>
      obtain ⟨⟨inner, behind⟩, found, same⟩ := Option.map_eq_some_iff.mp split
      cases same
      have plain : head ≠ '\\' := by
        rintro rfl
        cases after with
        | nil => cases found
        | cons mark after => exact notEscape mark after rfl rfl
      simp [splitAtQuote, plain, ih found]

theorem read_append {text rest : List Char} {token : StringToken}
    (found : read text = some (token, rest)) (more : List Char) :
    read (text ++ more) = some (token, rest ++ more) := by
  obtain ⟨⟨raw, behind⟩, split, found⟩ := Option.bind_eq_some_iff.mp found
  dsimp only at found
  split at found
  · next escaped =>
    cases found
    simp [read, splitAtQuote_append split, escaped]
  · cases found

end StringToken

namespace Json

variable {steps larger : Nat} {text rest : List Char}

theorem skipSpace_append_of_cons {head : Char} {tail : List Char}
    (begins : skipSpace text = head :: tail) (more : List Char) :
    skipSpace (text ++ more) = head :: (tail ++ more) := by
  rw [skipSpace] at begins
  rw [skipSpace, List.dropWhile_append, begins]
  rfl

theorem readValue_string_append {token : StringToken}
    (read : readValue steps text = some (.string token, rest)) (within : steps ≤ larger)
    (more : List Char) : readValue larger (text ++ more) = some (.string token, rest ++ more) := by
  cases steps with
  | zero => cases read
  | succ steps =>
      obtain ⟨larger, rfl⟩ := Nat.exists_eq_succ_of_ne_zero (Nat.ne_zero_of_lt within)
      cases fronts_of_readValue read with
      | string begins inside =>
          simp [readValue, skipSpace_append_of_cons begins, StringToken.read_append inside]
      | other foreign => exact foreign.elim

def Texts (members : List (StringToken × Json)) : Prop :=
  ∀ member ∈ members, ∃ token, member.2 = .string token

theorem readMembers_append {members : List (StringToken × Json)}
    (read : readMembers steps text = some (members, rest)) (texts : Texts members)
    (within : steps ≤ larger) (more : List Char) :
    readMembers larger (text ++ more) = some (members, rest ++ more) := by
  induction steps generalizing text members larger with
  | zero => cases read
  | succ steps ih =>
      obtain ⟨larger, rfl⟩ := Nat.exists_eq_succ_of_ne_zero (Nat.ne_zero_of_lt within)
      rw [readMembers] at read
      split at read
      · next after begins =>
        obtain ⟨⟨name, behindName⟩, named, read⟩ := Option.bind_eq_some_iff.mp read
        dsimp only at read
        split at read
        · next afterColon colon =>
          obtain ⟨⟨value, behindValue⟩, here, read⟩ := Option.bind_eq_some_iff.mp read
          dsimp only at read
          split at read
          · next afterComma comma =>
            obtain ⟨⟨others, last⟩, further, read⟩ := Option.bind_eq_some_iff.mp read
            cases read
            obtain ⟨⟨token, rfl⟩, textsBehind⟩ := List.forall_mem_cons.mp texts
            have valued := readValue_string_append here (Nat.le_of_succ_le_succ within) more
            have rest := ih further textsBehind (Nat.le_of_succ_le_succ within)
            simp [readMembers, skipSpace_append_of_cons begins, StringToken.read_append named,
              skipSpace_append_of_cons colon, valued, skipSpace_append_of_cons comma, rest]
          · next afterBrace brace =>
            cases read
            obtain ⟨token, rfl⟩ := texts _ (List.mem_singleton_self _)
            have valued := readValue_string_append here (Nat.le_of_succ_le_succ within) more
            simp [readMembers, skipSpace_append_of_cons begins, StringToken.read_append named,
              skipSpace_append_of_cons colon, valued, skipSpace_append_of_cons brace]
          · cases read
        · cases read
      · cases read

theorem begins_of_readMembers {members : List (StringToken × Json)}
    (read : readMembers steps text = some (members, rest)) :
    ∃ tail, skipSpace text = '"' :: tail := by
  cases steps with
  | zero => cases read
  | succ steps =>
      rw [readMembers] at read
      split at read
      · next after begins => exact ⟨after, begins⟩
      · cases read

/-- A map of texts that was read is read from any longer text too. -/
theorem readValue_object_append {members : List (StringToken × Json)}
    (read : readValue steps text = some (.object members, rest)) (texts : Texts members)
    (within : steps ≤ larger) (more : List Char) :
    readValue larger (text ++ more) = some (.object members, rest ++ more) := by
  cases steps with
  | zero => cases read
  | succ steps =>
      obtain ⟨larger, rfl⟩ := Nat.exists_eq_succ_of_ne_zero (Nat.ne_zero_of_lt within)
      cases fronts_of_readValue read with
      | bare begins ends =>
          simp [readValue, skipSpace_append_of_cons begins, skipSpace_append_of_cons ends]
      | @members after _ begins inside =>
          have read := readMembers_append inside texts (Nat.le_of_succ_le_succ within) more
          obtain ⟨tail, quote⟩ := begins_of_readMembers read
          rw [← readMembers_skipSpace, quote] at read
          simp [readValue, skipSpace_append_of_cons begins, quote, read]
      | other foreign => exact foreign.elim

theorem texts_of_asTextMap {document : Json} {map : NameMap String}
    (decoded : asTextMap document = .ok map) :
    ∃ members, document = .object members ∧ Texts members := by
  cases document with
  | object members =>
      obtain ⟨bindings, read, -⟩ := bind_eq_ok.mp decoded
      refine ⟨members, rfl, fun member listed => ?_⟩
      obtain ⟨_, bound⟩ := exists_forall₂_iff.mp ⟨_, forall₂_of_mapM read⟩ member listed
      obtain ⟨name, -, bound⟩ := bind_eq_ok.mp bound
      obtain ⟨text, written, -⟩ := bind_eq_ok.mp bound
      obtain ⟨token, document⟩ := member
      cases document with
      | string value => exact ⟨value, rfl⟩
      | _ => cases written
  | _ => cases decoded

/-- The text of a document that begins with a map of texts has nothing behind it. -/
theorem Spells.eq_nil_of_front {document : Json} {front behind : List Char}
    (spells : Spells document (front ++ behind)) {map : NameMap String}
    (decoded : Json.decodeText asTextMap (String.ofList front) = .ok map) : behind = [] := by
  unfold Json.decodeText Json.parse? at decoded
  split at decoded
  · next object parsed =>
    obtain ⟨⟨found, rest⟩, read, parsed⟩ := Option.bind_eq_some_iff.mp parsed
    dsimp only at parsed
    split at parsed
    · cases parsed
      obtain ⟨members, rfl, texts⟩ := texts_of_asTextMap decoded
      rw [String.toList_ofList, readFront] at read
      have enough : stepsFor front ≤ (front ++ behind).length + 1 := by
        rw [stepsFor, List.length_append]
        omega
      have longer := readValue_object_append read texts enough behind
      have whole := spells.reads _ [] (Nat.lt_succ_self _) closed_nil
      rw [List.append_nil, longer] at whole
      exact (List.append_eq_nil_iff.mp (Prod.mk.inj (Option.some.inj whole)).2).2
    · cases parsed
  · cases decoded

/-- Bytes that are cut off a document's do not hold a map of texts. -/
theorem Spells.eq_empty_of_front {document : Json} {text : List Char}
    (spells : Spells document text) {front behind : ByteArray}
    (whole : (String.ofList text).toUTF8 = front ++ behind) {map : NameMap String}
    (decoded : Json.decodeBytes asTextMap front = .ok map) : behind = ByteArray.empty := by
  unfold Json.decodeBytes parseBytes? at decoded
  split at decoded
  · next document parsed =>
    obtain ⟨start, valid, parsed⟩ := Option.bind_eq_some_iff.mp parsed
    have written : front = start.toList.utf8Encode := by
      rw [String.fromUTF8?] at valid
      split at valid
      · cases valid
        rw [String.utf8Encode_toList]
        rfl
      · cases valid
    have characters : start.toList.utf8Encode ++ behind = text.utf8Encode := by
      rw [← written, ← whole]
      exact String.toByteArray_ofList
    obtain ⟨rest, rfl⟩ := List.isPrefix_of_utf8Encode_append_eq_utf8Encode behind characters
    have read : Json.decodeText asTextMap (String.ofList start.toList) = .ok map := by
      rw [String.ofList_toList, Json.decodeText, parsed]
      exact decoded
    have nothing := spells.eq_nil_of_front read
    rw [nothing, List.append_nil] at characters
    have sizes := congrArg ByteArray.size characters
    rw [ByteArray.size_append] at sizes
    exact ByteArray.size_eq_zero_iff.mp (by omega)
  · cases decoded

end Json
end CheckBinding
