import CheckBinding.Proofs.Json.Documents

/-!
Decoding what an encoder built: texts, lists, and the fields of records.

An encoder gives the members of a record without repetition; `record?_ofFields` says that decoding
then sees exactly those whose names are declared.
-/

namespace CheckBinding.Json

/-! ### Texts and lists -/

theorem wellFormed_ofText (text : String) : (ofText text).WellFormed :=
  .string (StringToken.wellFormed_ofText text)

@[simp]
theorem asText_ofText (text : String) : asText (ofText text) = .ok text := by
  simp [asText, ofText]

@[simp]
theorem nameOf_ofText (text : String) : nameOf (StringToken.ofText text) = .ok text := by
  simp [nameOf]

@[simp]
theorem asOptional_ofText (text : String) : asOptional asText (ofText text) = .ok (some text) := by
  change (asText (ofText text)).map some = _
  rw [asText_ofText]
  rfl

theorem asList_map {Value : Type} {encode : Value → Json} {decode : Decoder Value}
    {values : List Value} (each : ∀ value ∈ values, decode (encode value) = .ok value) :
    asList decode (.array (values.map encode)) = .ok values := by
  rw [asList]
  induction values with
  | nil => rfl
  | cons value values ih =>
      have rest := ih (fun other member => each other (List.mem_cons_of_mem value member))
      rw [List.map_cons, List.mapM_cons, each value List.mem_cons_self, rest]
      rfl

@[simp]
theorem asList_ofTexts (texts : List String) : asList asText (ofTexts texts) = .ok texts :=
  asList_map (fun text _ => asText_ofText text)

theorem wellFormed_map {Value : Type} {encode : Value → Json} {values : List Value}
    (each : ∀ value ∈ values, (encode value).WellFormed) :
    (Json.array (values.map encode)).WellFormed := by
  refine .array ?_
  intro item member
  obtain ⟨value, present, rfl⟩ := List.mem_map.mp member
  exact each value present

theorem wellFormed_ofTexts (texts : List String) : (ofTexts texts).WellFormed :=
  wellFormed_map (fun text _ => wellFormed_ofText text)

/-! ### Records -/

theorem wellFormed_ofFields {fields : List (String × Json)}
    (each : ∀ field ∈ fields, field.2.WellFormed) : (ofFields fields).WellFormed := by
  refine .object ?_ ?_
  · intro member present
    obtain ⟨field, -, rfl⟩ := List.mem_map.mp present
    exact StringToken.wellFormed_ofText field.1
  · intro member present
    obtain ⟨field, here, rfl⟩ := List.mem_map.mp present
    exact each field here

theorem asTextMap_texts (bindings : List (String × String)) :
    asTextMap (.object (bindings.map (fun binding =>
      (StringToken.ofText binding.1, ofText binding.2)))) = .ok (NameMap.ofList bindings) := by
  have each : ∀ rest : List (String × String),
      (rest.map (fun binding => (StringToken.ofText binding.1, ofText binding.2))).mapM
        (fun (member : StringToken × Json) => do
          return (← nameOf member.1, ← asText member.2)) = (.ok rest : Except Fault _) := by
    intro rest
    induction rest with
    | nil => rfl
    | cons binding rest ih =>
        rw [List.map_cons, List.mapM_cons, ih, nameOf_ofText, asText_ofText]
        rfl
  change (List.mapM _ _ >>= _) = _
  rw [each bindings]
  rfl

private theorem lookup_filter_none {declared : List String} {name : String}
    {fields : List (String × Json)} (fresh : name ∉ fields.map Prod.fst) :
    (fields.filter (fun field => field.1 ∈ declared)).lookup name = none := by
  rw [List.lookup_eq_none_iff]
  intro field member
  have present := (List.mem_filter.mp member).1
  have different : name ≠ field.1 := by
    rintro rfl
    exact fresh (List.mem_map_of_mem present)
  simp [different]

/-- The fields of an object that repeats no name are its members with a declared name. -/
theorem record?_ofFields (declared : List String) {fields : List (String × Json)}
    (distinct : (fields.map Prod.fst).Nodup) :
    record? declared (ofFields fields) =
      .ok (fields.filter (fun field => field.1 ∈ declared)) := by
  rw [ofFields, record?]
  induction fields with
  | nil => rfl
  | cons field fields ih =>
      rw [List.map_cons, List.nodup_cons] at distinct
      have absent := @lookup_filter_none declared field.1 fields distinct.1
      rw [List.map_cons, knownMembers, ih distinct.2, nameOf_ofText]
      change Decoding.addKnown declared field.1 field.2 _ = _
      by_cases known : field.1 ∈ declared
      · simp [Decoding.addKnown, known, absent]
      · simp [Decoding.addKnown, known]

end CheckBinding.Json
