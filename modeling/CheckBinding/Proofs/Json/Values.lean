import CheckBinding.Proofs.Json.Fields
import CheckBinding.Proofs.Json.Numerals
import CheckBinding.Proofs.NameMaps
import Mathlib.Data.List.Forall2

/-!
Documents that carry a value.

An encoder and a decoder fit together when the document of a value is one that the format allows
and is decoded as that value. Records are put together from slots, the members that may be left out
included; what a slot without a member stands for is the default of its field.
-/

namespace CheckBinding.Json

variable {Value : Type} {decode : Decoder Value} {document : Json} {value : Value}

structure Carries (decode : Decoder Value) (document : Json) (value : Value) : Prop where
  wellFormed : document.WellFormed
  decodes : decode document = .ok value

theorem Carries.decodeText (carries : Carries decode document value) :
    Json.decodeText decode document.toText = .ok value := by
  rw [Json.decodeText, toText, carries.wellFormed.spells_render.parse?]
  exact carries.decodes

theorem Carries.decodeBytes (carries : Carries decode document value) :
    Json.decodeBytes decode document.toBytes = .ok value := by
  rw [carries.wellFormed.decodeBytes_toBytes]
  exact carries.decodes

theorem carries_text (text : String) : Carries asText (ofText text) text :=
  ⟨wellFormed_ofText text, asText_ofText text⟩

theorem carries_list {encode : Value → Json} {values : List Value}
    (each : ∀ value ∈ values, Carries decode (encode value) value) :
    Carries (asList decode) (.array (values.map encode)) values :=
  ⟨wellFormed_map (fun value member => (each value member).wellFormed),
    asList_map (fun value member => (each value member).decodes)⟩

theorem carries_texts (texts : List String) : Carries (asList asText) (ofTexts texts) texts :=
  carries_list (fun text _ => carries_text text)

theorem carries_uint16 (number : UInt16) : Carries asUInt16 (ofNat number.toNat) number :=
  ⟨wellFormed_ofNat number.toNat, asUInt16_ofNat number⟩

theorem carries_uint32 (number : UInt32) : Carries asUInt32 (ofNat number.toNat) number :=
  ⟨wellFormed_ofNat number.toNat, asUInt32_ofNat number⟩

theorem carries_uint64 (number : UInt64) : Carries asUInt64 (ofNat number.toNat) number :=
  ⟨wellFormed_ofNat number.toNat, asUInt64_ofNat number⟩

theorem carries_textMap (map : NameMap String) :
    Carries asTextMap (ofFields (map.toList.map (fun (name, text) => (name, ofText text))))
      map := by
  constructor
  · refine wellFormed_ofFields ?_
    intro field member
    obtain ⟨binding, -, rfl⟩ := List.mem_map.mp member
    exact wellFormed_ofText binding.2
  · rw [ofFields, List.map_map]
    have read := asTextMap_texts map.toList
    rw [NameMap.ofList_toList] at read
    exact read

theorem Carries.optional (carries : Carries decode document value) (present : document ≠ .null) :
    Carries (asOptional decode) document (some value) := by
  refine ⟨carries.wellFormed, ?_⟩
  unfold asOptional
  split
  · exact absurd rfl present
  · rw [carries.decodes]
    rfl

/-! ### What was decoded -/

theorem bind_eq_ok {Problem First Second : Type} {read : Except Problem First}
    {next : First → Except Problem Second} {result : Second} :
    read >>= next = .ok result ↔ ∃ first, read = .ok first ∧ next first = .ok result := by
  cases read with
  | error fault => simp [bind, Except.bind]
  | ok first => simp [bind, Except.bind]

/-- Items that are read one by one are read in their order. -/
theorem forall₂_of_mapM {Problem Item Result : Type} {read : Item → Except Problem Result}
    {items : List Item} {results : List Result} (decoded : items.mapM read = .ok results) :
    List.Forall₂ (fun item result => read item = .ok result) items results := by
  induction items generalizing results with
  | nil =>
      cases decoded
      exact .nil
  | cons item items ih =>
      rw [List.mapM_cons] at decoded
      obtain ⟨first, here, decoded⟩ := bind_eq_ok.mp decoded
      obtain ⟨rest, later, decoded⟩ := bind_eq_ok.mp decoded
      cases decoded
      exact .cons here (ih later)

theorem exists_forall₂_iff {Item Result : Type} {relates : Item → Result → Prop}
    {items : List Item} :
    (∃ results, List.Forall₂ relates items results) ↔
      ∀ item ∈ items, ∃ result, relates item result := by
  induction items with
  | nil => exact ⟨fun _ => List.forall_mem_nil _, fun _ => ⟨[], .nil⟩⟩
  | cons item items ih =>
      rw [List.forall_mem_cons, ← ih]
      constructor
      · rintro ⟨_, related⟩
        cases related with
        | cons first others => exact ⟨⟨_, first⟩, _, others⟩
      · rintro ⟨⟨result, first⟩, results, others⟩
        exact ⟨result :: results, .cons first others⟩

/-- Each of the results belongs to one of the items. -/
theorem exists_of_forall₂ {Item Result : Type} {relates : Item → Result → Prop}
    {items : List Item} {results : List Result} (related : List.Forall₂ relates items results) :
    ∀ result ∈ results, ∃ item, relates item result := by
  have back : List.Forall₂ (fun result item => relates item result) results items := related.flip
  exact exists_forall₂_iff.mp ⟨items, back⟩

/-- Every value of a list that was decoded is one that was decoded. -/
theorem decoded_of_asList {values : List Value} (decoded : asList decode document = .ok values) :
    ∀ value ∈ values, ∃ item, decode item = .ok value := by
  unfold asList at decoded
  split at decoded
  · exact exists_of_forall₂ (forall₂_of_mapM decoded)
  · cases decoded

/-! ### Records -/

abbrev Slots := List (String × Option Json)

def given (slots : Slots) : List (String × Json) :=
  slots.filterMap (fun slot => slot.2.map (fun document => (slot.1, document)))

theorem given_cons_none (name : String) (slots : Slots) :
    given ((name, none) :: slots) = given slots :=
  rfl

theorem given_cons_some (name : String) (document : Json) (slots : Slots) :
    given ((name, some document) :: slots) = (name, document) :: given slots :=
  rfl

theorem mem_names_of_given {slots : Slots} {field : String × Json} (member : field ∈ given slots) :
    (field.1, some field.2) ∈ slots := by
  obtain ⟨⟨name, slot⟩, present, filled⟩ := List.mem_filterMap.mp member
  obtain ⟨document, rfl, rfl⟩ := Option.map_eq_some_iff.mp filled
  exact present

theorem given_names (slots : Slots) :
    ((given slots).map Prod.fst).Sublist (slots.map Prod.fst) := by
  induction slots with
  | nil => exact List.Sublist.slnil
  | cons slot slots ih =>
      obtain ⟨name, document⟩ := slot
      cases document with
      | none => exact ih.cons name
      | some document => exact ih.cons_cons name

theorem lookup_given {slots : Slots} (distinct : (slots.map Prod.fst).Nodup) {name : String}
    {slot : Option Json} (entry : slots.lookup name = some slot) :
    (given slots).lookup name = slot := by
  induction slots with
  | nil => cases entry
  | cons head slots ih =>
      obtain ⟨other, document⟩ := head
      obtain ⟨absent, rest⟩ := List.nodup_cons.mp distinct
      rw [List.lookup_cons] at entry
      by_cases here : name = other
      · subst here
        rw [beq_self_eq_true] at entry
        cases entry
        cases slot with
        | none =>
            rw [given_cons_none, List.lookup_eq_none_iff]
            intro field member
            have present := List.mem_map_of_mem (f := Prod.fst) (mem_names_of_given member)
            rw [bne_iff_ne]
            exact fun same => absent (same ▸ present)
        | some document =>
            rw [given_cons_some, List.lookup_cons_self]
      · have different : (name == other) = false := beq_eq_false_iff_ne.mpr here
        rw [different] at entry
        cases document with
        | none => exact ih rest entry
        | some document =>
            rw [given_cons_some, List.lookup_cons, different]
            exact ih rest entry

/-- A record is decoded from its slots. -/
theorem record?_given {declared : List String} {slots : Slots}
    (names : slots.map Prod.fst = declared) (distinct : declared.Nodup) :
    record? declared (ofFields (given slots)) = .ok (given slots) := by
  subst names
  rw [record?_ofFields _ (distinct.sublist (given_names slots)), List.filter_eq_self.mpr]
  intro field member
  exact decide_eq_true (List.mem_map_of_mem (mem_names_of_given member))

theorem wellFormed_given {slots : Slots}
    (each : ∀ slot ∈ slots, ∀ document, slot.2 = some document → document.WellFormed) :
    (ofFields (given slots)).WellFormed := by
  refine wellFormed_ofFields ?_
  intro field member
  exact each _ (mem_names_of_given member) field.2 rfl

/-- A slot that a decoder makes a value of: it holds a document of the value, or it is empty and
the value is the default. -/
inductive Fills (decode : Decoder Value) (absent : Value) : Option Json → Value → Prop
  | given {document : Json} {value : Value} (carries : Carries decode document value) :
      Fills decode absent (some document) value
  | left : Fills decode absent none absent

variable {absent : Value} {slot : Option Json}

theorem Fills.wellFormed (fills : Fills decode absent slot value) :
    ∀ document, slot = some document → document.WellFormed := by
  intro document filled
  cases fills with
  | given carries =>
      cases filled
      exact carries.wellFormed
  | left => cases filled

theorem Fills.withDefault (fills : Fills decode absent slot value) {slots : Slots}
    (distinct : (slots.map Prod.fst).Nodup) (name : String)
    (entry : slots.lookup name = some slot) :
    Decoding.withDefault (Json.given slots) name decode absent = .ok value := by
  rw [Decoding.withDefault, lookup_given distinct entry]
  cases fills with
  | given carries => exact carries.decodes
  | left => rfl

theorem Carries.required (carries : Carries decode document value) {slots : Slots}
    (distinct : (slots.map Prod.fst).Nodup) (name : String)
    (entry : slots.lookup name = some (some document)) :
    Decoding.required (given slots) name decode = .ok value := by
  rw [Decoding.required, lookup_given distinct entry]
  exact carries.decodes

/-- A slot that stays empty where the value is the default. -/
theorem Carries.fills_unless (carries : Carries decode document value) {default : Prop}
    [Decidable default] (same : default → value = absent) :
    Fills decode absent (if default then none else some document) value := by
  split
  · next holds =>
    rw [same holds]
    exact .left
  · exact .given carries

theorem fills_optional {encode : Value → Json}
    (carries : ∀ value, Carries decode (encode value) value)
    (present : ∀ value, encode value ≠ .null)
    (held : Option Value) : Fills (asOptional decode) none (held.map encode) held := by
  cases held with
  | none => exact .left
  | some value => exact .given ((carries value).optional (present value))

end CheckBinding.Json
