import CheckBinding.NameMap

/-!
What is bound in a map after writing to it.
-/

namespace CheckBinding.NameMap

variable {Value : Type}

theorem lookup_cons (entry : String × Value) (rest : List (String × Value))
    (name : String) :
    (entry :: rest).lookup name = if name = entry.1 then some entry.2 else rest.lookup name := by
  rw [List.lookup_cons]
  by_cases same : name = entry.1
  · simp [same]
  · have unequal : (name == entry.1) = false := by
      simp [same]
    rw [unequal, if_neg same]

private theorem lookup_insertEntry (name other : String) (value : Value)
    (entries : List (String × Value)) :
    (insertEntry name value entries).lookup other =
      if other = name then some value else entries.lookup other := by
  induction entries with
  | nil => exact lookup_cons (name, value) [] other
  | cons entry rest ih =>
      unfold insertEntry
      split
      · exact lookup_cons (name, value) (entry :: rest) other
      · split
        · next written =>
          rw [lookup_cons, lookup_cons, written]
          by_cases same : other = entry.1
          · simp [same]
          · simp [same]
        · next notWritten =>
          rw [lookup_cons, lookup_cons, ih]
          by_cases atHead : other = entry.1
          · have different : other ≠ name := by
              rintro rfl
              exact notWritten atHead
            rw [if_pos atHead, if_neg different, if_pos atHead]
          · rw [if_neg atHead, if_neg atHead]

/-- A name is bound to what was written last under it. -/
theorem get?_insert (map : NameMap Value) (name other : String) (value : Value) :
    (map.insert name value).get? other = if other = name then some value else map.get? other :=
  lookup_insertEntry name other value map.entries

theorem contains_iff {map : NameMap Value} {name : String} :
    map.contains name = true ↔ ∃ value, map.get? name = some value := by
  rw [contains, Option.isSome_iff_exists]

theorem mem_names_iff {map : NameMap Value} {name : String} :
    name ∈ map.names ↔ ∃ value, map.get? name = some value := by
  rw [← contains_iff, contains, get?, names, List.mem_map]
  induction map.entries with
  | nil => simp
  | cons entry rest ih =>
      rw [lookup_cons]
      by_cases same : name = entry.1
      · simp [same]
      · rw [if_neg same, ← ih]
        simp [Ne.symm same]

/-- A name is bound to the value that it is listed with. -/
theorem get?_eq_some_iff {map : NameMap Value} {name : String} {value : Value} :
    map.get? name = some value ↔ (name, value) ∈ map.entries := by
  obtain ⟨entries, ordered⟩ := map
  rw [get?]
  induction entries with
  | nil => simp
  | cons entry rest ih =>
      obtain ⟨headFirst, restOrdered⟩ := List.pairwise_cons.mp ordered
      rw [lookup_cons, List.mem_cons]
      by_cases same : name = entry.1
      · have notLater : (name, value) ∉ rest := by
          intro later
          exact String.lt_irrefl _ (same ▸ headFirst (name, value) later)
        rw [if_pos same, or_iff_left notLater, same, Option.some.injEq, eq_comm, Prod.ext_iff]
        simp
      · have notHead : (name, value) ≠ entry := by
          rintro rfl
          exact same rfl
        rw [if_neg same, ih restOrdered, or_iff_right notHead]

theorem mem_values_iff {map : NameMap Value} {value : Value} :
    value ∈ map.values ↔ ∃ name, map.get? name = some value := by
  simp [values, get?_eq_some_iff]

/-! ### Several bindings -/

theorem insertAll_cons (map : NameMap Value) (binding : String × Value)
    (bindings : List (String × Value)) :
    map.insertAll (binding :: bindings) =
      (map.insert binding.1 binding.2).insertAll bindings :=
  rfl

theorem insertAll_append (map : NameMap Value) (first second : List (String × Value)) :
    map.insertAll (first ++ second) = (map.insertAll first).insertAll second :=
  List.foldl_append

/-- The last binding of a name in the list stays, and where there is none what was bound before. -/
theorem get?_insertAll (map : NameMap Value) (bindings : List (String × Value)) (name : String) :
    (map.insertAll bindings).get? name =
      (bindings.reverse.lookup name).or (map.get? name) := by
  induction bindings generalizing map with
  | nil => rfl
  | cons binding bindings ih =>
      rw [insertAll_cons, ih, List.reverse_cons, List.lookup_append, get?_insert, lookup_cons]
      cases bindings.reverse.lookup name with
      | some value => rfl
      | none =>
          by_cases same : name = binding.1
          · simp [same]
          · simp [same]

theorem contains_insertAll {map : NameMap Value} {bindings : List (String × Value)}
    {name : String} :
    (map.insertAll bindings).contains name = true ↔
      map.contains name = true ∨ name ∈ bindings.map Prod.fst := by
  induction bindings generalizing map with
  | nil => simp [insertAll]
  | cons binding bindings ih =>
      rw [insertAll_cons, ih, List.map_cons, List.mem_cons, contains, contains, get?_insert]
      by_cases same : name = binding.1
      · simp [same]
      · simp [same]

private theorem mem_of_lookup {bindings : List (String × Value)} {name : String} {value : Value}
    (found : bindings.lookup name = some value) : (name, value) ∈ bindings := by
  induction bindings with
  | nil => cases found
  | cons binding bindings ih =>
      rw [lookup_cons] at found
      split at found
      · next same =>
        cases found
        rw [same]
        exact List.mem_cons_self
      · exact List.mem_cons_of_mem binding (ih found)

theorem mem_or_of_get?_insertAll {map : NameMap Value} {bindings : List (String × Value)}
    {name : String} {value : Value} (found : (map.insertAll bindings).get? name = some value) :
    (name, value) ∈ bindings ∨ map.get? name = some value := by
  rw [get?_insertAll] at found
  cases last : bindings.reverse.lookup name with
  | none =>
      rw [last] at found
      exact Or.inr found
  | some other =>
      rw [last] at found
      cases found
      exact Or.inl (List.mem_reverse.mp (mem_of_lookup last))

/-- Among bindings that give a name one value only, this is what it is bound to. -/
theorem get?_insertAll_of_mem {map : NameMap Value} {bindings : List (String × Value)}
    {name : String} {value : Value} (member : (name, value) ∈ bindings)
    (only : ∀ other, (name, other) ∈ bindings → other = value) :
    (map.insertAll bindings).get? name = some value := by
  rw [get?_insertAll]
  cases last : bindings.reverse.lookup name with
  | some other =>
      rw [only other (List.mem_reverse.mp (mem_of_lookup last))]
      rfl
  | none =>
      have absent := List.lookup_eq_none_iff.mp last (name, value) (List.mem_reverse.mpr member)
      simp at absent

/-! ### Writing what a map holds -/

private theorem insertEntry_last (name : String) (value : Value)
    {entries : List (String × Value)} (before : ∀ entry ∈ entries, entry.1 < name) :
    insertEntry name value entries = entries ++ [(name, value)] := by
  induction entries with
  | nil => rfl
  | cons entry rest ih =>
      have headBefore := before entry List.mem_cons_self
      have notBefore : ¬ name < entry.1 := String.lt_asymm headBefore
      have notSame : name ≠ entry.1 := by
        rintro rfl
        exact String.lt_irrefl _ headBefore
      rw [insertEntry, if_neg notBefore, if_neg notSame,
        ih (fun other member => before other (List.mem_cons_of_mem entry member)),
        List.cons_append]

private theorem entries_insertAll (map : NameMap Value) (bindings : List (String × Value))
    (ordered : (map.entries ++ bindings).Pairwise (fun left right => left.1 < right.1)) :
    (map.insertAll bindings).entries = map.entries ++ bindings := by
  induction bindings generalizing map with
  | nil => exact (List.append_nil _).symm
  | cons binding bindings ih =>
      have before : ∀ entry ∈ map.entries, entry.1 < binding.1 := fun entry member =>
        (List.pairwise_append.mp ordered).2.2 entry member binding List.mem_cons_self
      have written : (map.insert binding.1 binding.2).entries = map.entries ++ [binding] :=
        insertEntry_last binding.1 binding.2 before
      rw [insertAll_cons, ih, written, List.append_assoc, List.singleton_append]
      rw [written, List.append_assoc, List.singleton_append]
      exact ordered

theorem ofList_toList (map : NameMap Value) : ofList map.toList = map :=
  ext (entries_insertAll empty map.entries map.ordered)

end CheckBinding.NameMap
