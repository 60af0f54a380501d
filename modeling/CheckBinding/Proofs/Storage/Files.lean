import CheckBinding.Storage.FileSystem

/-!
What the requests on files change, and what they leave as it is.

No request makes or removes a directory, so a path leads to the same location before and after.
Reading a file can then be followed through requests on it and on other files.
-/

namespace CheckBinding.Storage.FileSystem

/-! ### Entries -/

theorem lookup_of_ne {files : FileSystem} {location : Location} (notRoot : location ≠ []) :
    files.lookup location = files.entries.lookup location :=
  if_neg notRoot

private theorem lookup_filter_ne (entries : List (Location × Entry)) (location other : Location) :
    (entries.filter (fun bound => bound.1 ≠ location)).lookup other =
      if other = location then none else entries.lookup other := by
  induction entries with
  | nil => simp
  | cons bound entries ih =>
      obtain ⟨place, entry⟩ := bound
      by_cases removed : place = location
      · rw [List.filter_cons_of_neg (by simp [removed]), ih]
        by_cases same : other = location
        · simp [same]
        · have different : (other == place) = false := by
            simp [removed, same]
          simp [same, List.lookup_cons, different]
      · rw [List.filter_cons_of_pos (by simp [removed])]
        by_cases atHead : other = place
        · have kept : other ≠ location := by
            rintro rfl
            exact removed atHead.symm
          simp [atHead, removed]
        · have different : (other == place) = false := by
            simp [atHead]
          simp only [List.lookup_cons, different]
          exact ih

theorem lookup_put {files : FileSystem} {location : Location} (notRoot : location ≠ [])
    (entry : Entry) (other : Location) :
    (files.put location entry).lookup other =
      if other = location then some entry else files.lookup other := by
  by_cases same : other = location
  · rw [if_pos same, same, lookup_of_ne notRoot]
    simp [put]
  · rw [if_neg same, lookup, lookup]
    have different : (other == location) = false := by
      simp [same]
    simp only [put, List.lookup_cons, different, lookup_filter_ne, if_neg same]

theorem lookup_drop {files : FileSystem} {location : Location} (notRoot : location ≠ [])
    (other : Location) :
    (files.drop location).lookup other =
      if other = location then none else files.lookup other := by
  by_cases same : other = location
  · rw [if_pos same, same, lookup_of_ne notRoot, drop, lookup_filter_ne, if_pos rfl]
  · rw [if_neg same, lookup, lookup, drop, lookup_filter_ne, if_neg same]

/-- A location that holds no directory is not the root. -/
theorem ne_root {files : FileSystem} {location : Location}
    (noDirectory : files.lookup location ≠ some .directory) : location ≠ [] := by
  rintro rfl
  exact noDirectory rfl

/-! ### Directories -/

structure SameDirectories (before after : FileSystem) : Prop where
  working : after.working = before.working
  directories : ∀ location,
    after.lookup location = some .directory ↔ before.lookup location = some .directory

theorem SameDirectories.symm {before after : FileSystem} (same : SameDirectories before after) :
    SameDirectories after before :=
  ⟨same.working.symm, fun location => (same.directories location).symm⟩

theorem SameDirectories.trans {first second third : FileSystem}
    (left : SameDirectories first second) (right : SameDirectories second third) :
    SameDirectories first third :=
  ⟨right.working.trans left.working,
    fun location => (right.directories location).trans (left.directories location)⟩

/-- A path is located where its names lead, unless it is refused as a text. -/
theorem locate_eq_ok {files : FileSystem} {path : String} {location : Location} :
    files.locate path = .ok location ↔
      (Char.ofNat 0 ∉ path.toList ∧ path ≠ "" ∧ path.utf8ByteSize ≤ longestPath) ∧
      files.walk (files.start path) (Text.split '/' path) = .ok location := by
  rw [locate]
  split
  · next bad =>
    have refused : Char.ofNat 0 ∈ path.toList := List.contains_iff_mem.mp bad
    simp [refused]
  · next good =>
    have accepted : Char.ofNat 0 ∉ path.toList := fun member =>
      good (List.contains_iff_mem.mpr member)
    split
    · next empty => simp [empty]
    · next present =>
      split
      · next long => simp [Nat.not_le.mpr long]
      · next short => simp [accepted, present, Nat.not_lt.mp short]

/-- The location that a name leads to from a directory, unless the name is too long. -/
def stepInto? (location : Location) (name : String) : Option Location :=
  if name = "" ∨ name = "." then some location
  else if name = ".." then some location.dropLast
  else if longestName < name.utf8ByteSize then none
  else some (location ++ [name])

/-- A walk goes on from directories only, each time to where the next name leads. -/
theorem walk_cons_eq_ok {files : FileSystem} {location goal : Location} {name : String}
    {names : List String} :
    files.walk location (name :: names) = .ok goal ↔
      files.lookup location = some .directory ∧
        ∃ next, stepInto? location name = some next ∧ files.walk next names = .ok goal := by
  rw [walk, stepInto?]
  split
  · next absent => simp [absent]
  · next content file => simp [file]
  · next directory =>
    rw [directory]
    by_cases stays : name = "" ∨ name = "."
    · simp [if_pos stays]
    · rw [if_neg stays, if_neg stays]
      by_cases back : name = ".."
      · simp [if_pos back]
      · rw [if_neg back, if_neg back]
        by_cases long : longestName < name.utf8ByteSize
        · simp [if_pos long]
        · simp [if_neg long]

theorem walk_append_eq_ok {files : FileSystem} {location goal : Location}
    {pieces names : List String} :
    files.walk location (pieces ++ names) = .ok goal ↔
      ∃ base, files.walk location pieces = .ok base ∧ files.walk base names = .ok goal := by
  induction pieces generalizing location with
  | nil => simp [walk]
  | cons piece pieces ih =>
      rw [List.cons_append, walk_cons_eq_ok]
      constructor
      · rintro ⟨directory, next, leads, further⟩
        obtain ⟨base, reached, ends⟩ := ih.mp further
        exact ⟨base, walk_cons_eq_ok.mpr ⟨directory, next, leads, reached⟩, ends⟩
      · rintro ⟨base, reached, ends⟩
        obtain ⟨directory, next, leads, further⟩ := walk_cons_eq_ok.mp reached
        exact ⟨directory, next, leads, ih.mpr ⟨base, further, ends⟩⟩

private theorem walk_of_same {before after : FileSystem} (same : SameDirectories before after)
    {location goal : Location} {names : List String}
    (reached : before.walk location names = .ok goal) :
    after.walk location names = .ok goal := by
  induction names generalizing location with
  | nil => exact reached
  | cons name names ih =>
      obtain ⟨directory, next, leads, further⟩ := walk_cons_eq_ok.mp reached
      exact walk_cons_eq_ok.mpr ⟨(same.directories location).mpr directory, next, leads, ih further⟩

private theorem locate_of_same {before after : FileSystem} (same : SameDirectories before after)
    {path : String} {location : Location} (found : before.locate path = .ok location) :
    after.locate path = .ok location := by
  rw [locate_eq_ok, start] at found ⊢
  rw [same.working]
  exact ⟨found.1, walk_of_same same found.2⟩

/-- With the same directories a path leads to the same location. -/
theorem SameDirectories.locate_iff {before after : FileSystem}
    (same : SameDirectories before after) {path : String} {location : Location} :
    after.locate path = .ok location ↔ before.locate path = .ok location :=
  ⟨locate_of_same same.symm, locate_of_same same⟩

/-! ### Reading -/

theorem read_eq_ok {files : FileSystem} {path : String} {content : ByteArray} :
    files.read path = .ok content ↔
      ∃ location, files.locate path = .ok location ∧
        files.lookup location = some (.file content) := by
  unfold read
  cases found : files.locate path with
  | error fault => simp [bind, Except.bind]
  | ok location =>
      cases entry : files.lookup location with
      | none => simp [bind, Except.bind, entry]
      | some entry' =>
          cases entry' with
          | file stored => simp [bind, Except.bind, pure, Except.pure, entry]
          | directory => simp [bind, Except.bind, entry]

theorem walk_congr {before after : FileSystem}
    (same : ∀ location, after.lookup location = before.lookup location) (location : Location)
    (names : List String) : after.walk location names = before.walk location names := by
  induction names generalizing location with
  | nil => rfl
  | cons name names ih => simp only [walk, same, ih]

/-- What is read at a path depends only on what stands at the locations and on where it is walked
from. -/
theorem read_congr {before after : FileSystem} (working : after.working = before.working)
    (same : ∀ location, after.lookup location = before.lookup location) (path : String) :
    after.read path = before.read path := by
  simp only [read, locate, start, working, walk_congr same, same]

/-- At most the file at one path has changed, come or gone. -/
structure Touches (path : String) (before after : FileSystem) : Prop where
  working : after.working = before.working
  places : ∀ location, after.lookup location = before.lookup location ∨
    (before.locate path = .ok location ∧ before.lookup location ≠ some .directory ∧
      after.lookup location ≠ some .directory)

theorem Touches.refl (path : String) (files : FileSystem) : Touches path files files :=
  ⟨rfl, fun _ => Or.inl rfl⟩

theorem Touches.sameDirectories {path : String} {before after : FileSystem}
    (touches : Touches path before after) : SameDirectories before after := by
  refine ⟨touches.working, fun location => ?_⟩
  rcases touches.places location with same | ⟨-, notBefore, notAfter⟩
  · rw [same]
  · simp [notBefore, notAfter]

theorem Touches.trans {path : String} {first second third : FileSystem}
    (left : Touches path first second) (right : Touches path second third) :
    Touches path first third := by
  refine ⟨right.working.trans left.working, fun location => ?_⟩
  rcases right.places location with same | ⟨there, notBetween, notAfter⟩
  · rw [same]
    exact left.places location
  · have same := left.sameDirectories
    exact Or.inr ⟨same.locate_iff.mp there,
      fun directory => notBetween ((same.directories location).mpr directory), notAfter⟩

theorem Touches.lookup_of_ne {path : String} {before after : FileSystem}
    (touches : Touches path before after) {place location : Location}
    (found : before.locate path = .ok place) (different : location ≠ place) :
    after.lookup location = before.lookup location := by
  rcases touches.places location with same | ⟨there, -, -⟩
  · exact same
  · cases found.symm.trans there
    exact absurd rfl different

/-- Two paths that never lead to the same location. -/
def Apart (left right : String) : Prop :=
  ∀ (files : FileSystem) location, files.locate left = .ok location →
    files.locate right ≠ .ok location

/-- Other files keep their contents. -/
theorem Touches.read_apart {path other : String} {before after : FileSystem}
    (touches : Touches path before after) (apart : Apart path other) {content : ByteArray}
    (stored : before.read other = .ok content) : after.read other = .ok content := by
  obtain ⟨location, found, entry⟩ := read_eq_ok.mp stored
  refine read_eq_ok.mpr ⟨location, touches.sameDirectories.locate_iff.mpr found, ?_⟩
  rcases touches.places location with same | ⟨there, -, -⟩
  · rw [same, entry]
  · exact absurd found (apart before location there)

/-! ### Requests that change a file -/

section Changes

variable {files after : FileSystem} {path : String} {location : Location}

private theorem bind_eq_ok {First Second : Type} {computed : Except Fault First}
    {next : First → Except Fault Second} {result : Second} :
    computed >>= next = .ok result ↔ ∃ value, computed = .ok value ∧ next value = .ok result := by
  cases computed with
  | error fault => simp [bind, Except.bind]
  | ok value => simp [bind, Except.bind]

theorem touches_put (found : files.locate path = .ok location)
    (noDirectory : files.lookup location ≠ some .directory) (content : ByteArray) :
    Touches path files (files.put location (.file content)) := by
  refine ⟨rfl, fun other => ?_⟩
  rw [lookup_put (ne_root noDirectory)]
  by_cases same : other = location
  · exact Or.inr ⟨same ▸ found, same ▸ noDirectory, by simp [same]⟩
  · exact Or.inl (if_neg same)

theorem touches_drop (found : files.locate path = .ok location)
    (noDirectory : files.lookup location ≠ some .directory) :
    Touches path files (files.drop location) := by
  refine ⟨rfl, fun other => ?_⟩
  rw [lookup_drop (ne_root noDirectory)]
  by_cases same : other = location
  · exact Or.inr ⟨same ▸ found, same ▸ noDirectory, by simp [same]⟩
  · exact Or.inl (if_neg same)

theorem not_directory {content : ByteArray} (entry : files.lookup location = some (.file content)) :
    files.lookup location ≠ some .directory := by
  rw [entry]
  intro same
  cases same

theorem read_put (found : files.locate path = .ok location)
    (noDirectory : files.lookup location ≠ some .directory) (content : ByteArray) :
    (files.put location (.file content)).read path = .ok content := by
  have same := (touches_put found noDirectory content).sameDirectories
  refine read_eq_ok.mpr ⟨location, same.locate_iff.mpr found, ?_⟩
  rw [lookup_put (ne_root noDirectory), if_pos rfl]

theorem openEmpty_eq_ok :
    files.openEmpty path = .ok after ↔
      ∃ location, files.locate path = .ok location ∧ files.lookup location ≠ some .directory ∧
        after = files.put location (.file ByteArray.empty) := by
  rw [openEmpty, bind_eq_ok]
  refine exists_congr (fun location => and_congr_right (fun _ => ?_))
  split
  · next directory => simp [directory]
  · next noDirectory =>
    constructor
    · rintro ⟨⟩
      exact ⟨noDirectory, rfl⟩
    · rintro ⟨-, rfl⟩
      rfl

theorem append_eq_ok {bytes : ByteArray} :
    files.append path bytes = .ok after ↔
      ∃ location, files.locate path = .ok location ∧
        ∃ content, files.lookup location = some (.file content) ∧
          after = files.put location (.file (content ++ bytes)) := by
  rw [append, bind_eq_ok]
  refine exists_congr (fun location => and_congr_right (fun _ => ?_))
  split
  · next content file => simp [file, pure, Except.pure, eq_comm]
  · next directory => simp [directory]
  · next absent => simp [absent]

theorem remove_eq_ok :
    files.remove path = .ok after ↔
      ∃ location, files.locate path = .ok location ∧
        ∃ content, files.lookup location = some (.file content) ∧
          after = files.drop location := by
  rw [remove, bind_eq_ok]
  refine exists_congr (fun location => and_congr_right (fun _ => ?_))
  split
  · next content file => simp [file, pure, Except.pure, eq_comm]
  · next directory => simp [directory]
  · next absent => simp [absent]

theorem rename_eq_ok {source target : String} :
    files.rename source target = .ok after ↔
      ∃ start, files.locate source = .ok start ∧ ∃ goal, files.locate target = .ok goal ∧
        endsInDots target = false ∧ endsInSlash target = false ∧
        ∃ content, files.lookup start = some (.file content) ∧
          files.lookup goal ≠ some .directory ∧
          after = (files.drop start).put goal (.file content) := by
  rw [rename, bind_eq_ok]
  refine exists_congr (fun start => and_congr_right (fun _ => ?_))
  rw [bind_eq_ok]
  refine exists_congr (fun goal => and_congr_right (fun _ => ?_))
  split
  · next dots => simp [dots]
  · next named =>
    split
    · next absent => simp [absent]
    · next directory => simp [directory]
    · next content file =>
      split
      · next slash => simp [slash]
      · next plain =>
        split
        · next directory => simp [directory]
        · next noDirectory =>
          constructor
          · rintro ⟨⟩
            exact ⟨by simp [named], by simp [plain], content, file, noDirectory, rfl⟩
          · rintro ⟨-, -, stored, entry, -, rfl⟩
            cases file.symm.trans entry
            rfl

theorem openEmpty_touches (opened : files.openEmpty path = .ok after) :
    Touches path files after := by
  obtain ⟨location, found, noDirectory, rfl⟩ := openEmpty_eq_ok.mp opened
  exact touches_put found noDirectory ByteArray.empty

theorem append_touches {bytes : ByteArray} (written : files.append path bytes = .ok after) :
    Touches path files after := by
  obtain ⟨location, found, content, entry, rfl⟩ := append_eq_ok.mp written
  exact touches_put found (not_directory entry) (content ++ bytes)

theorem remove_touches (removed : files.remove path = .ok after) : Touches path files after := by
  obtain ⟨location, found, content, entry, rfl⟩ := remove_eq_ok.mp removed
  exact touches_drop found (not_directory entry)

theorem read_openEmpty (opened : files.openEmpty path = .ok after) :
    after.read path = .ok ByteArray.empty := by
  obtain ⟨location, found, noDirectory, rfl⟩ := openEmpty_eq_ok.mp opened
  exact read_put found noDirectory ByteArray.empty

theorem read_append {bytes content : ByteArray} (written : files.append path bytes = .ok after)
    (before : files.read path = .ok content) : after.read path = .ok (content ++ bytes) := by
  obtain ⟨location, found, held, entry, rfl⟩ := append_eq_ok.mp written
  obtain ⟨place, foundBefore, entryBefore⟩ := read_eq_ok.mp before
  cases found.symm.trans foundBefore
  cases entry.symm.trans entryBefore
  exact read_put found (not_directory entry) (content ++ bytes)

/-- A file that is moved is gone from its place, and then put at another one. -/
private theorem rename_touches {source target : String}
    (moved : files.rename source target = .ok after) :
    ∃ start content, files.locate source = .ok start ∧
      files.lookup start = some (.file content) ∧ Touches source files (files.drop start) ∧
      Touches target (files.drop start) after ∧ after.read target = .ok content := by
  obtain ⟨start, atStart, goal, atGoal, -, -, content, entry, noDirectory, rfl⟩ :=
    rename_eq_ok.mp moved
  have dropped := touches_drop atStart (not_directory entry)
  have same := dropped.sameDirectories
  have free : (files.drop start).lookup goal ≠ some .directory := fun directory =>
    noDirectory ((same.directories goal).mp directory)
  have there := same.locate_iff.mpr atGoal
  exact ⟨start, content, atStart, entry, dropped, touches_put there free content,
    read_put there free content⟩

theorem rename_sameDirectories {source target : String}
    (moved : files.rename source target = .ok after) : SameDirectories files after := by
  obtain ⟨start, content, -, -, dropped, put, -⟩ := rename_touches moved
  exact dropped.sameDirectories.trans put.sameDirectories

theorem read_rename {source target : String} {content : ByteArray}
    (moved : files.rename source target = .ok after) (before : files.read source = .ok content) :
    after.read target = .ok content := by
  obtain ⟨start, held, atStart, entry, -, -, read⟩ := rename_touches moved
  obtain ⟨place, foundBefore, entryBefore⟩ := read_eq_ok.mp before
  cases atStart.symm.trans foundBefore
  cases entry.symm.trans entryBefore
  exact read

theorem settle_ok {changed : Except Fault FileSystem} :
    perform.settle files changed = (after, .ok ()) ↔ changed = .ok after := by
  cases changed with
  | error fault => simp [perform.settle]
  | ok files => simp [perform.settle]

/-- A request that fails changes nothing. -/
theorem eq_of_perform_error {operation : Operation} {fault : Fault}
    (failed : files.perform operation = (after, .error fault)) : after = files := by
  have settled : ∀ changed, perform.settle files changed = (after, .error fault) →
      after = files := by
    intro changed settles
    cases changed with
    | error other =>
        cases settles
        rfl
    | ok other => cases settles
  cases operation with
  | inspect path => exact (Prod.mk.inj failed).1.symm
  | read path => exact (Prod.mk.inj failed).1.symm
  | openEmpty path => exact settled _ failed
  | append path bytes => exact settled _ failed
  | sync path => exact (Prod.mk.inj failed).1.symm
  | rename source target => exact settled _ failed
  | remove path => exact settled _ failed

end Changes
end CheckBinding.Storage.FileSystem
