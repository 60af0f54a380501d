import CheckBinding.Agent.StateFile
import CheckBinding.Proofs.Storage.Files

/-!
The files of one directory stand apart.

The path of an entry is that of its directory, however it is written, followed by the name. Walking
it ends with the name below the location of the directory, so entries with different names have
different locations. This covers the state file, its draft and the probing file.
-/

namespace CheckBinding

namespace Text

theorem splitChars_ne_nil (separator : Char) (text : List Char) :
    splitChars separator text ≠ [] := by
  cases text with
  | nil =>
      intro none
      cases none
  | cons head rest =>
      rw [splitChars]
      split
      · exact List.cons_ne_nil _ _
      · split <;> exact List.cons_ne_nil _ _

theorem splitChars_append (separator : Char) (front rest : List Char) :
    splitChars separator (front ++ separator :: rest) =
      splitChars separator front ++ splitChars separator rest := by
  induction front with
  | nil =>
      rw [List.nil_append]
      exact if_pos rfl
  | cons head front ih =>
      rw [List.cons_append, splitChars, splitChars, ih]
      by_cases ends : head = separator
      · rw [if_pos ends, if_pos ends]
        rfl
      · rw [if_neg ends, if_neg ends]
        cases pieces : splitChars separator front with
        | cons piece pieces => rfl
        | nil => exact absurd pieces (splitChars_ne_nil separator front)

theorem splitChars_plain {separator : Char} {text : List Char} (absent : separator ∉ text) :
    splitChars separator text = [text] := by
  induction text with
  | nil => rfl
  | cons head rest ih =>
      rw [List.mem_cons, not_or] at absent
      rw [splitChars, if_neg (Ne.symm absent.1), ih absent.2]

theorem cutChars_eq_some {separator : Char} {text before after : List Char}
    (cut : cutChars separator text = some (before, after)) :
    separator ∉ before ∧ text = before ++ separator :: after := by
  induction text generalizing before with
  | nil => cases cut
  | cons head rest ih =>
      rw [cutChars] at cut
      by_cases ends : head = separator
      · rw [if_pos ends] at cut
        cases cut
        exact ⟨List.not_mem_nil, by rw [ends, List.nil_append]⟩
      · rw [if_neg ends, Option.map_eq_some_iff] at cut
        obtain ⟨⟨front, back⟩, further, same⟩ := cut
        cases same
        obtain ⟨absent, rfl⟩ := ih further
        exact ⟨by simp [Ne.symm ends, absent], rfl⟩

end Text

namespace Storage

structure Path.Plain (name : String) : Prop where
  present : name ≠ ""
  notHere : name ≠ "."
  notAbove : name ≠ ".."
  single : '/' ∉ name.toList

namespace Path

/-- What stands in front of the name in the path of an entry: nothing, or a text that ends with a
slash. -/
theorem join_toList (directory : String) :
    ∃ front : List Char, (front = [] ∨ ∃ pieces, front = pieces ++ ['/']) ∧
      ∀ name, (join directory name).toList = front ++ name.toList := by
  by_cases here : directory = ""
  · refine ⟨[], Or.inl rfl, fun name => ?_⟩
    rw [join, if_pos here, List.nil_append]
  · by_cases closed : directory.toList.getLast? = some '/'
    · obtain ⟨pieces, split⟩ := List.getLast?_eq_some_iff.mp closed
      refine ⟨directory.toList, Or.inr ⟨pieces, split⟩, fun name => ?_⟩
      rw [join, if_neg here, if_pos closed, String.toList_append]
    · refine ⟨directory.toList ++ ['/'], Or.inr ⟨directory.toList, rfl⟩, fun name => ?_⟩
      rw [join, if_neg here, if_neg closed, String.toList_append, String.toList_append]
      rfl

/-- The names in the path of an entry are those of the directory and that of the entry. -/
theorem split_join (directory : String) :
    ∃ pieces : List String, ∀ name, '/' ∉ name.toList →
      Text.split '/' (join directory name) = pieces ++ [name] := by
  obtain ⟨front, kind, joined⟩ := join_toList directory
  rcases kind with rfl | ⟨above, rfl⟩
  · refine ⟨[], fun name single => ?_⟩
    rw [Text.split, joined, List.nil_append, Text.splitChars_plain single]
    simp
  · refine ⟨(Text.splitChars '/' above).map String.ofList, fun name single => ?_⟩
    rw [Text.split, joined, List.append_assoc, List.singleton_append, Text.splitChars_append,
      Text.splitChars_plain single, List.map_append]
    simp

/-- A text is cut behind its last slash. -/
private theorem exists_last_name (text : List Char) :
    ∃ front name : List Char, (front = [] ∨ ∃ pieces, front = pieces ++ ['/']) ∧ '/' ∉ name ∧
      text = front ++ name := by
  induction text with
  | nil => exact ⟨[], [], Or.inl rfl, List.not_mem_nil, rfl⟩
  | cons head text ih =>
      obtain ⟨front, name, kind, single, rfl⟩ := ih
      rcases kind with rfl | ⟨pieces, rfl⟩
      · by_cases slash : head = '/'
        · exact ⟨['/'], name, Or.inr ⟨[], rfl⟩, single, by rw [slash]; rfl⟩
        · exact ⟨[], head :: name, Or.inl rfl, by simp [Ne.symm slash, single], rfl⟩
      · exact ⟨head :: pieces ++ ['/'], name, Or.inr ⟨head :: pieces, rfl⟩, single, rfl⟩

/-- A path that ends in a name is that of an entry of a directory. -/
theorem exists_join {path : String} (present : path ≠ "")
    (notDots : FileSystem.endsInDots path = false)
    (notSlash : FileSystem.endsInSlash path = false) :
    ∃ directory name, Plain name ∧ path = join directory name := by
  obtain ⟨front, name, kind, single, cut⟩ := exists_last_name path.toList
  have joined : path = join (String.ofList front) (String.ofList name) := by
    rcases kind with rfl | ⟨pieces, rfl⟩
    · rw [join, if_pos rfl, ← String.toList_inj, cut, String.toList_ofList, List.nil_append]
    · rw [join, if_neg (by simp [← String.toList_inj]),
        if_pos (by rw [String.toList_ofList, List.getLast?_concat]), ← String.toList_inj, cut,
        String.toList_append, String.toList_ofList, String.toList_ofList]
  have single : '/' ∉ (String.ofList name).toList := by rwa [String.toList_ofList]
  obtain ⟨pieces, split⟩ := split_join (String.ofList front)
  have dots : (String.ofList name = "." || String.ofList name = "..") = false := by
    rw [joined, FileSystem.endsInDots, split _ single, List.getLast?_concat] at notDots
    exact notDots
  rw [Bool.or_eq_false_iff, decide_eq_false_iff_not, decide_eq_false_iff_not] at dots
  refine ⟨_, _, ⟨?_, dots.1, dots.2, single⟩, joined⟩
  intro none
  rw [← String.toList_inj, String.toList_ofList] at none
  change name = [] at none
  rw [none, List.append_nil] at cut
  rcases kind with rfl | ⟨above, rfl⟩
  · exact present (String.toList_inj.mp cut)
  · rw [FileSystem.endsInSlash, cut, List.getLast?_concat] at notSlash
    exact absurd notSlash (by decide)

/-- Nothing is dropped behind a name. -/
theorem dropClosing_of_name {reversed : List Char} (absent : '/' ∉ reversed)
    (present : reversed ≠ []) (notHere : reversed ≠ ['.']) (rest : List Char) :
    dropClosing (reversed ++ rest) = reversed ++ rest := by
  unfold dropClosing
  split
  · next remaining same =>
    cases reversed with
    | nil => exact absurd rfl present
    | cons last before =>
        cases same
        exact absurd List.mem_cons_self absent
  · next remaining same =>
    match reversed with
    | [] => exact absurd rfl present
    | [last] =>
        cases same
        exact absurd rfl notHere
    | last :: next :: before =>
        cases same
        exact absurd (List.mem_cons_of_mem _ List.mem_cons_self) absent
  · rfl

end Path

namespace FileSystem

open Storage.Path

/-- A plain name leads one step down. -/
theorem walk_plain_eq_ok {files : FileSystem} {location goal : Location} {name : String}
    (plain : Plain name) :
    files.walk location [name] = .ok goal ↔
      files.lookup location = some .directory ∧ name.utf8ByteSize ≤ longestName ∧
        goal = location ++ [name] := by
  have moves : ¬ (name = "" ∨ name = ".") := not_or.mpr ⟨plain.present, plain.notHere⟩
  rw [walk_cons_eq_ok, stepInto?, if_neg moves, if_neg plain.notAbove]
  by_cases long : longestName < name.utf8ByteSize
  · simp [long, Nat.not_le.mpr long]
  · simp [long, walk, Nat.not_lt.mp long, eq_comm]

/-- Walking the path of an entry ends with its name below the directory. -/
theorem walk_append_plain {files : FileSystem} {location goal : Location} {pieces : List String}
    {name : String} (plain : Plain name)
    (reached : files.walk location (pieces ++ [name]) = .ok goal) :
    ∃ base, files.walk location pieces = .ok base ∧ goal = base ++ [name] := by
  obtain ⟨base, below, ends⟩ := walk_append_eq_ok.mp reached
  exact ⟨base, below, ((walk_plain_eq_ok plain).mp ends).2.2⟩

/-- The entries of a directory are walked to from the same place. -/
theorem start_join (files : FileSystem) (directory : String) {left right : String}
    (leftPlain : Plain left) (rightPlain : Plain right) :
    files.start (join directory left) = files.start (join directory right) := by
  obtain ⟨front, -, joined⟩ := join_toList directory
  have inside : ∀ {name : String}, Plain name → name.toList.head? ≠ some '/' := by
    intro name plain begins
    exact plain.single (List.mem_of_head? begins)
  rw [start, start, joined, joined]
  cases front with
  | nil =>
      rw [List.nil_append, List.nil_append, if_neg (inside leftPlain), if_neg (inside rightPlain)]
  | cons first front => rfl

/-- Entries of a directory with different names stand apart. -/
theorem apart_join {directory left right : String} (leftPlain : Plain left)
    (rightPlain : Plain right) (different : left ≠ right) :
    Apart (join directory left) (join directory right) := by
  obtain ⟨pieces, split⟩ := split_join directory
  intro files location leftAt rightAt
  rw [locate_eq_ok, split left leftPlain.single] at leftAt
  rw [locate_eq_ok, split right rightPlain.single,
    start_join files directory rightPlain leftPlain] at rightAt
  obtain ⟨base, reached, rfl⟩ := walk_append_plain leftPlain leftAt.2
  obtain ⟨other, reachedToo, same⟩ := walk_append_plain rightPlain rightAt.2
  cases reached.symm.trans reachedToo
  have names := List.append_cancel_left same
  cases names
  exact different rfl

end FileSystem
end Storage

namespace StateFile

open Storage Path FileSystem

def draftNameOf (name : String) : String :=
  String.ofList (stemChars name.toList) ++ "." ++ draftExtension

/-- A name is its stem, or the stem with an extension. -/
theorem stemChars_cases (name : List Char) :
    stemChars name = name ∨
      ∃ extension, '.' ∉ extension ∧ name = stemChars name ++ '.' :: extension := by
  rw [stemChars]
  split
  · exact Or.inl rfl
  · next after before present cut =>
    obtain ⟨absent, reversed⟩ := Text.cutChars_eq_some cut
    refine Or.inr ⟨after.reverse, by simpa using absent, ?_⟩
    rw [← List.reverse_reverse name, reversed]
    simp
  · exact Or.inl rfl

theorem draftNameOf_toList (name : String) :
    (draftNameOf name).toList = stemChars name.toList ++ '.' :: draftExtension.toList := by
  rw [draftNameOf, String.toList_append, String.toList_append, String.toList_ofList,
    List.append_assoc]
  rfl

theorem draftNameOf_ne (name : String) : draftNameOf name ≠ name := by
  intro same
  rw [← String.toList_inj, draftNameOf_toList] at same
  rcases stemChars_cases name.toList with whole | ⟨extension, absent, stem⟩
  · rw [whole] at same
    simp at same
  · -- What follows the stem has one dot here, and two in the name of the draft.
    have tail := List.append_cancel_left (same.trans stem)
    cases tail
    exact absent (by decide)

theorem draftNameOf_plain {name : String} (plain : Plain name) : Plain (draftNameOf name) := by
  have long : 8 < (draftNameOf name).toList.length := by
    rw [draftNameOf_toList, List.length_append]
    exact Nat.lt_of_lt_of_le (by decide) (Nat.le_add_left _ _)
  have within : ∀ character ∈ stemChars name.toList, character ∈ name.toList := by
    intro character member
    rcases stemChars_cases name.toList with whole | ⟨extension, -, stem⟩
    · rwa [← whole]
    · rw [stem]
      exact List.mem_append_left _ member
  refine ⟨?_, ?_, ?_, ?_⟩
  · intro same
    rw [same] at long
    exact absurd long (by decide)
  · intro same
    rw [same] at long
    exact absurd long (by decide)
  · intro same
    rw [same] at long
    exact absurd long (by decide)
  · rw [draftNameOf_toList, List.mem_append, not_or]
    exact ⟨fun member => plain.single (within _ member), by decide⟩

theorem fileName_plain : Plain fileName :=
  ⟨by decide, by decide, by decide, by decide⟩

theorem probeName_plain : Plain probeName :=
  ⟨by decide, by decide, by decide, by decide⟩

/-- The draft of an entry of a directory stands beside it. -/
theorem draftPath_join {name : String} (plain : Plain name) (directory : String) :
    draftPath (join directory name) = join directory (draftNameOf name) := by
  obtain ⟨front, kind, joined⟩ := join_toList directory
  have reversed : (join directory name).toList.reverse =
      name.toList.reverse ++ front.reverse := by
    rw [joined, List.reverse_append]
  have named : ¬ (name.toList = [] ∨ name.toList = ['.'] ∨ name.toList = ['.', '.']) := by
    rintro (none | here | above)
    · exact plain.present (String.toList_inj.mp none)
    · exact plain.notHere (String.toList_inj.mp here)
    · exact plain.notAbove (String.toList_inj.mp above)
  have absent : '/' ∉ name.toList.reverse := fun member =>
    plain.single (List.mem_reverse.mp member)
  have closed : dropClosing (name.toList.reverse ++ front.reverse) =
      name.toList.reverse ++ front.reverse := by
    refine dropClosing_of_name absent (fun none => named ?_) (fun here => named ?_) _
    · exact Or.inl (List.reverse_eq_nil_iff.mp none)
    · exact Or.inr (Or.inl (List.reverse_eq_iff.mp here))
  -- The extension is looked for in the last name, and that is the name of the entry.
  have single : ∀ character ∈ name.toList.reverse,
      decide (character ≠ '/') = true := by
    intro character member
    refine decide_eq_true ?_
    rintro rfl
    exact absent member
  have stops : front.reverse.takeWhile (fun character => character ≠ '/') = [] ∧
      front.reverse.dropWhile (fun character => character ≠ '/') = front.reverse := by
    rcases kind with rfl | ⟨pieces, rfl⟩
    · exact ⟨rfl, rfl⟩
    · rw [List.reverse_append]
      exact ⟨rfl, rfl⟩
  rw [← String.toList_inj, joined, draftNameOf_toList, draftPath, withExtension, reversed, closed,
    List.takeWhile_append_of_pos single, List.dropWhile_append_of_pos single, stops.1, stops.2,
    List.append_nil, List.reverse_reverse, List.reverse_reverse, if_neg named,
    String.toList_append, String.toList_append, String.toList_ofList, List.append_assoc,
    List.append_assoc]
  rfl

def draftName : String := "metrics.json.tmp"

/-- The draft of the state file of a directory stands beside it. -/
theorem draftPath_join_fileName (directory : String) :
    draftPath (join directory fileName) = join directory draftName :=
  draftPath_join fileName_plain directory

theorem draftName_plain : Plain draftName :=
  ⟨by decide, by decide, by decide, by decide⟩

/-- Where the draft of the state file has a location, the file has one beside it. -/
theorem locate_fileName {files : FileSystem} {directory : String} {location : Location}
    (found : files.locate (join directory draftName) = .ok location) :
    ∃ base, location = base ++ [draftName] ∧
      files.locate (join directory fileName) = .ok (base ++ [fileName]) := by
  obtain ⟨front, -, joined⟩ := join_toList directory
  obtain ⟨pieces, split⟩ := split_join directory
  have whole : ∀ name, join directory name = String.ofList front ++ name := by
    intro name
    rw [← String.toList_inj, joined, String.toList_append, String.toList_ofList]
  obtain ⟨⟨noNul, -, short⟩, reached⟩ := locate_eq_ok.mp found
  rw [split draftName draftName_plain.single,
    start_join files directory draftName_plain fileName_plain] at reached
  obtain ⟨base, below, ends⟩ := walk_append_eq_ok.mp reached
  obtain ⟨there, -, rfl⟩ := (walk_plain_eq_ok draftName_plain).mp ends
  refine ⟨base, rfl, locate_eq_ok.mpr ⟨⟨?_, ?_, ?_⟩, ?_⟩⟩
  · rw [joined, List.mem_append, not_or] at noNul ⊢
    exact ⟨noNul.1, by decide⟩
  · rw [Ne, ← String.toList_inj, joined]
    simp [fileName]
  · rw [whole, String.utf8ByteSize_append] at short ⊢
    exact Nat.le_trans (Nat.add_le_add_left (by decide) _) short
  · rw [split fileName fileName_plain.single]
    exact walk_append_eq_ok.mpr ⟨base, below,
      (walk_plain_eq_ok fileName_plain).mpr ⟨there, by decide, rfl⟩⟩

/-- Whatever is done to the draft, the state file is read as before, faults included. -/
theorem read_of_touches {before after : FileSystem} {directory : String}
    (touches : Touches (join directory draftName) before after) :
    after.read (join directory fileName) = before.read (join directory fileName) := by
  cases located : before.locate (join directory draftName) with
  | error fault =>
      -- A draft without a location cannot have been written.
      refine read_congr touches.working (fun location => ?_) _
      rcases touches.places location with same | ⟨there, -⟩
      · exact same
      · cases located.symm.trans there
  | ok draft =>
      obtain ⟨base, rfl, found⟩ := locate_fileName located
      have foundAfter := touches.sameDirectories.locate_iff.mpr found
      have apart : base ++ [fileName] ≠ base ++ [draftName] := by
        intro same
        exact absurd (List.append_cancel_left same) (by decide)
      simp only [FileSystem.read, found, foundAfter, touches.lookup_of_ne located apart, bind,
        Except.bind]

end StateFile
end CheckBinding
