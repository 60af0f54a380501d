/-!
Finite maps from names to values, kept in the byte order of the names.

The order of the names is a field of the type, so two maps with the same bindings are the same
list. Writing a name that is present replaces its value.
-/

namespace CheckBinding

structure NameMap (Value : Type) where
  entries : List (String × Value)
  ordered : entries.Pairwise (fun left right => left.1 < right.1)

namespace NameMap

variable {Value : Type}

def insertEntry (name : String) (value : Value) :
    List (String × Value) → List (String × Value)
  | [] => [(name, value)]
  | entry :: rest =>
      if name < entry.1 then (name, value) :: entry :: rest
      else if name = entry.1 then (name, value) :: rest
      else entry :: insertEntry name value rest

/-- A name of the written list is the name written or one that was there. -/
theorem mem_insertEntry {name : String} {value : Value} {entries : List (String × Value)}
    {entry : String × Value} (member : entry ∈ insertEntry name value entries) :
    entry = (name, value) ∨ entry ∈ entries := by
  induction entries with
  | nil => exact Or.inl (List.mem_singleton.mp member)
  | cons head rest ih =>
      unfold insertEntry at member
      split at member
      · rcases List.mem_cons.mp member with here | there
        · exact Or.inl here
        · exact Or.inr there
      · split at member
        · rcases List.mem_cons.mp member with here | there
          · exact Or.inl here
          · exact Or.inr (List.mem_cons_of_mem head there)
        · rcases List.mem_cons.mp member with here | there
          · exact Or.inr (here ▸ List.mem_cons_self)
          · rcases ih there with written | kept
            · exact Or.inl written
            · exact Or.inr (List.mem_cons_of_mem head kept)

/-- Writing a binding keeps the names in order. -/
theorem insertEntry_ordered (name : String) (value : Value) {entries : List (String × Value)}
    (ordered : entries.Pairwise (fun left right => left.1 < right.1)) :
    (insertEntry name value entries).Pairwise (fun left right => left.1 < right.1) := by
  induction entries with
  | nil => exact List.pairwise_singleton _ _
  | cons head rest ih =>
      have headFirst := (List.pairwise_cons.mp ordered).1
      have restOrdered := (List.pairwise_cons.mp ordered).2
      unfold insertEntry
      split
      · next before =>
        refine List.pairwise_cons.mpr ⟨fun entry member => ?_, ordered⟩
        rcases List.mem_cons.mp member with here | there
        · exact here ▸ before
        · exact String.lt_trans before (headFirst entry there)
      · split
        · next same =>
          refine List.pairwise_cons.mpr ⟨fun entry member => ?_, restOrdered⟩
          exact same ▸ headFirst entry member
        · next notBefore notSame =>
          refine List.pairwise_cons.mpr ⟨fun entry member => ?_, ih restOrdered⟩
          rcases mem_insertEntry member with written | kept
          · subst written
            exact String.not_le.mp (fun le => notSame
              (String.le_antisymm le (String.not_lt.mp notBefore)))
          · exact headFirst entry kept

def empty : NameMap Value :=
  ⟨[], List.Pairwise.nil⟩

instance : Inhabited (NameMap Value) := ⟨empty⟩

def insert (map : NameMap Value) (name : String) (value : Value) : NameMap Value :=
  ⟨insertEntry name value map.entries, insertEntry_ordered name value map.ordered⟩

def get? (map : NameMap Value) (name : String) : Option Value :=
  map.entries.lookup name

def contains (map : NameMap Value) (name : String) : Bool :=
  (map.get? name).isSome

def toList (map : NameMap Value) : List (String × Value) :=
  map.entries

def names (map : NameMap Value) : List String :=
  map.entries.map (·.1)

def values (map : NameMap Value) : List Value :=
  map.entries.map (·.2)

/-- Binds the names of a list one after the other; the last binding of a name stays. -/
def insertAll (map : NameMap Value) (bindings : List (String × Value)) : NameMap Value :=
  bindings.foldl (fun built binding => built.insert binding.1 binding.2) map

def ofList (bindings : List (String × Value)) : NameMap Value :=
  empty.insertAll bindings

@[ext] theorem ext {left right : NameMap Value} (same : left.entries = right.entries) :
    left = right := by
  cases left
  cases right
  cases same
  rfl

instance [DecidableEq Value] : DecidableEq (NameMap Value) := fun left right =>
  if same : left.entries = right.entries then isTrue (ext same)
  else isFalse (fun equal => same (congrArg entries equal))

end NameMap
end CheckBinding
