import CheckBinding.Proofs.Execution
import CheckBinding.Proofs.Json.Fields
import CheckBinding.Proofs.Json.TextMaps
import CheckBinding.Proofs.NameMaps
import CheckBinding.Proofs.Storage.Paths
import Mathlib.Control.Monad.Basic

/-!
Writing and reading the state file.

What is saved is loaded again, wherever the file lies and whatever stands around it: the text of a
state spells its members, and the draft that is moved to the place of the file has a location of
its own.
-/

namespace CheckBinding.StateFile

/-! ### The text of the file -/

private theorem spells_memberLines {members : List (String × String)} (present : members ≠ []) :
    Json.SpellsMembers
      (members.map (fun member => (StringToken.ofText member.1, Json.ofText member.2)))
      ('\n' :: (memberLines members ++ ['\n', '\x7d'])) := by
  have gapBlank : ∀ space ∈ ['\n', ' ', ' '], Json.isSpace space = true := by
    simp [Json.isSpace]
  have innerBlank : ∀ space ∈ [' '], Json.isSpace space = true := by
    simp [Json.isSpace]
  have outerBlank : ∀ space ∈ ['\n'], Json.isSpace space = true := by
    simp [Json.isSpace]
  induction members with
  | nil => exact absurd rfl present
  | cons member members ih =>
      obtain ⟨name, status⟩ := member
      have value := Json.spells_string (StringToken.wellFormed_ofText status)
      have wellFormed := StringToken.wellFormed_ofText name
      cases members with
      | nil =>
          have last := value.lastMember gapBlank innerBlank wellFormed outerBlank
          simp only [Json.memberChars, List.append_assoc, List.cons_append, List.nil_append] at last
          simpa [memberLines, memberLines.memberLine, Json.ofText] using last
      | cons next members =>
          have further := ih (List.cons_ne_nil next members)
          have longer := value.member gapBlank innerBlank wellFormed further
          simp only [Json.memberChars, List.append_assoc, List.cons_append, List.nil_append]
            at longer
          simpa [memberLines, memberLines.memberLine, Json.ofText] using longer

theorem spells_textChars (states : States) :
    Json.Spells (.object (states.toList.map (fun member =>
      (StringToken.ofText member.1, Json.ofText member.2)))) (textChars states) := by
  unfold textChars
  split
  · next none =>
    rw [none]
    exact Json.spells_object_nil
  · next members =>
    simpa using (spells_memberLines members).object

/-- Reading the bytes of a state gives the state back. -/
theorem ofBytes_bytes (states : States) : ofBytes (bytes states) = .ok states := by
  rw [ofBytes, bytes, (spells_textChars states).decodeBytes, Json.asTextMap_texts,
    NameMap.ofList_toList]

theorem ofBytes_empty : ofBytes ByteArray.empty = .error .malformed := by
  decide +kernel

/-- Where the bytes of a state were cut off, no state is read from what is left. -/
theorem eq_empty_of_ofBytes {states known : States} {taken lost : ByteArray}
    (whole : bytes states = taken ++ lost) (read : ofBytes taken = .ok known) :
    lost = ByteArray.empty :=
  (spells_textChars states).eq_empty_of_front whole read

/-! ### Writing without faults -/

open Storage FileSystem

/-- A state can be written to a path: it and its draft can be reached, no directory stands at
either, and the path ends in a name. -/
structure Writable (files : FileSystem) (path : String) : Prop where
  draft : ∃ location, files.locate (draftPath path) = .ok location ∧
    files.lookup location ≠ some .directory
  place : ∃ location, files.locate path = .ok location ∧
    files.lookup location ≠ some .directory
  notDots : endsInDots path = false
  notSlash : endsInSlash path = false

theorem Writable.same {before after : FileSystem} {path : String}
    (writable : Writable before path) (same : SameDirectories before after) :
    Writable after path := by
  obtain ⟨draftAt, draftFound, draftFree⟩ := writable.draft
  obtain ⟨goal, goalFound, goalFree⟩ := writable.place
  exact ⟨⟨draftAt, same.locate_iff.mpr draftFound, fun there =>
      draftFree ((same.directories _).mp there)⟩,
    ⟨goal, same.locate_iff.mpr goalFound, fun there =>
      goalFree ((same.directories _).mp there)⟩,
    writable.notDots, writable.notSlash⟩

/-- The files after each step of a save, where nothing stands in the way. -/
theorem Writable.steps {files : FileSystem} {path : String} (writable : Writable files path)
    (content : ByteArray) :
    ∃ opened written moved, files.openEmpty (draftPath path) = .ok opened ∧
      opened.append (draftPath path) content = .ok written ∧
      written.rename (draftPath path) path = .ok moved ∧ Writable moved path := by
  obtain ⟨draftAt, draftFound, draftFree⟩ := writable.draft
  obtain ⟨opened, opening⟩ : ∃ opened, files.openEmpty (draftPath path) = .ok opened :=
    ⟨_, openEmpty_eq_ok.mpr ⟨draftAt, draftFound, draftFree, rfl⟩⟩
  obtain ⟨place, placeFound, placeEntry⟩ := read_eq_ok.mp (read_openEmpty opening)
  obtain ⟨written, writing⟩ : ∃ written, opened.append (draftPath path) content = .ok written :=
    ⟨_, append_eq_ok.mpr ⟨place, placeFound, _, placeEntry, rfl⟩⟩
  obtain ⟨start, startFound, startEntry⟩ :=
    read_eq_ok.mp (read_append writing (read_openEmpty opening))
  have same := (openEmpty_touches opening).sameDirectories.trans
    (append_touches writing).sameDirectories
  have still := writable.same same
  obtain ⟨goal, goalFound, goalFree⟩ := still.place
  obtain ⟨moved, moving⟩ : ∃ moved, written.rename (draftPath path) path = .ok moved :=
    ⟨_, rename_eq_ok.mpr ⟨start, startFound, goal, goalFound, still.notDots, still.notSlash, _,
      startEntry, goalFree, rfl⟩⟩
  exact ⟨opened, written, moved, opening, writing, moving,
    still.same (rename_sameDirectories moving)⟩

/-! ### What a save leaves -/

/-- A draft and the file that it becomes have different locations. -/
theorem apart_draft {path : String} (present : path ≠ "") (notDots : endsInDots path = false)
    (notSlash : endsInSlash path = false) : Apart (draftPath path) path := by
  obtain ⟨directory, name, plain, rfl⟩ := Path.exists_join present notDots notSlash
  rw [draftPath_join plain]
  exact apart_join (draftNameOf_plain plain) plain (draftNameOf_ne name)

/-- The file holds what was written, nothing is left of the draft, and all else is as it was. -/
structure Saved (path : String) (content : ByteArray) (before after : FileSystem) : Prop where
  stored : after.read path = .ok content
  swept : ∃ draft, before.locate (draftPath path) = .ok draft ∧ after.lookup draft = none
  others : ∀ location, before.locate path ≠ .ok location →
    before.locate (draftPath path) ≠ .ok location → after.lookup location = before.lookup location

theorem saved_of_steps {files opened written moved : FileSystem} {path : String}
    {content : ByteArray} (opening : files.openEmpty (draftPath path) = .ok opened)
    (writing : opened.append (draftPath path) content = .ok written)
    (moving : written.rename (draftPath path) path = .ok moved) :
    Writable files path ∧ Saved path content files moved := by
  have opens := openEmpty_touches opening
  have writes := append_touches writing
  have same := opens.sameDirectories.trans writes.sameDirectories
  have filled := read_append writing (read_openEmpty opening)
  rw [ByteArray.empty_append] at filled
  obtain ⟨draft, draftFound, draftFree, -⟩ := openEmpty_eq_ok.mp opening
  obtain ⟨start, startFound, goal, goalFound, notDots, notSlash, _, startEntry, goalFree, placed⟩ :=
    rename_eq_ok.mp moving
  cases draftFound.symm.trans (same.locate_iff.mp startFound)
  have goalThere := same.locate_iff.mp goalFound
  have distinct : draft ≠ goal := by
    intro equal
    exact apart_draft (locate_eq_ok.mp goalFound).1.2.1 notDots notSlash written draft startFound
      (equal ▸ goalFound)
  have dropped := touches_drop startFound (not_directory startEntry)
  have goalRoot := ne_root goalFree
  have moved_lookup : ∀ location, location ≠ goal →
      moved.lookup location = (written.drop draft).lookup location := by
    intro location different
    rw [placed, lookup_put goalRoot, if_neg different]
  refine ⟨⟨⟨draft, draftFound, draftFree⟩,
    ⟨goal, goalThere, fun directory => goalFree ((same.directories goal).mpr directory)⟩,
      notDots, notSlash⟩,
    ⟨read_rename moving filled, ⟨draft, draftFound, ?_⟩, ?_⟩⟩
  · rw [moved_lookup draft distinct, lookup_drop (ne_root draftFree), if_pos rfl]
  · intro location notGoal notDraft
    have notThere : location ≠ goal := fun equal => notGoal (equal ▸ goalThere)
    have notStart : location ≠ draft := fun equal => notDraft (equal ▸ draftFound)
    have atDraft := opens.sameDirectories.locate_iff.mpr draftFound
    rw [moved_lookup location notThere, lookup_drop (ne_root draftFree), if_neg notStart,
      writes.lookup_of_ne atDraft notStart, opens.lookup_of_ne draftFound notStart]

/-! ### Runs -/

section Runs

variable {Service : Type} {serve : Service → (call : Api.Call) → call.Answer × Service}
  {world : World Service} {path : String}

theorem run_save_of_steps {opened written moved : FileSystem} {states : States}
    (opening : world.files.openEmpty (draftPath path) = .ok opened)
    (writing : opened.append (draftPath path) (bytes states) = .ok written)
    (moving : written.rename (draftPath path) path = .ok moved) :
    world.run serve (save path states) = (.ok (), { world with files := moved }) := by
  have opens : perform.settle world.files (world.files.openEmpty (draftPath path)) =
      (opened, .ok ()) := settle_ok.mpr opening
  have writes : perform.settle opened (opened.append (draftPath path) (bytes states)) =
      (written, .ok ()) := settle_ok.mpr writing
  have moves : perform.settle written (written.rename (draftPath path) path) =
      (moved, .ok ()) := settle_ok.mpr moving
  rw [save, World.run_storage_bind (by exact opens)]
  dsimp only
  rw [World.run_storage_bind (by exact writes)]
  dsimp only
  rw [World.run_storage_bind (by rfl)]
  dsimp only
  rw [World.run_storage_bind (by exact moves)]
  rfl

/-- A save succeeds where a state can be written, and it can be written there again. -/
theorem run_save (writable : Writable world.files path) (states : States) :
    ∃ files, world.run serve (save path states) = (.ok (), { world with files }) ∧
      Writable files path := by
  obtain ⟨opened, written, moved, opening, writing, moving, again⟩ :=
    writable.steps (bytes states)
  exact ⟨moved, run_save_of_steps opening writing moving, again⟩

/-- The files after each step of a save that succeeds. -/
theorem steps_of_run_save {states : States}
    (succeeds : (world.run serve (save path states)).1 = .ok ()) :
    ∃ opened written moved, world.files.openEmpty (draftPath path) = .ok opened ∧
      opened.append (draftPath path) (bytes states) = .ok written ∧
      written.rename (draftPath path) path = .ok moved := by
  rw [save] at succeeds
  rcases opening : world.files.perform (.openEmpty (draftPath path)) with ⟨opened, result⟩
  rw [World.run_storage_bind opening] at succeeds
  cases result with
  | error fault => cases succeeds
  | ok _ =>
      dsimp only at succeeds
      rcases writing : opened.perform (.append (draftPath path) (bytes states)) with
        ⟨written, result⟩
      rw [World.run_storage_bind (by exact writing)] at succeeds
      cases result with
      | error fault => cases succeeds
      | ok _ =>
          dsimp only at succeeds
          rw [World.run_storage_bind (by rfl)] at succeeds
          dsimp only at succeeds
          rcases moving : written.perform (.rename (draftPath path) path) with ⟨moved, result⟩
          rw [World.run_storage_bind (by exact moving)] at succeeds
          cases result with
          | error fault => cases succeeds
          | ok _ =>
              have opens : perform.settle world.files (world.files.openEmpty (draftPath path)) =
                  (opened, .ok ()) := opening
              have writes : perform.settle opened (opened.append (draftPath path) (bytes states)) =
                  (written, .ok ()) := writing
              have moves : perform.settle written (written.rename (draftPath path) path) =
                  (moved, .ok ()) := moving
              exact ⟨opened, written, moved, settle_ok.mp opens, settle_ok.mp writes,
                settle_ok.mp moves⟩

/-- A file that holds a state is loaded as that state. -/
theorem run_load_of_read {states : States} (stored : world.files.read path = .ok (bytes states)) :
    (world.run serve (load path)).1 = .ok (some states) := by
  have read : world.files.perform (.read path) = (world.files, .ok (bytes states)) := by
    rw [perform, stored]
  rw [load, World.run_bind, World.run_storage read]
  dsimp only
  rw [ofBytes_bytes]
  rfl

/-- What is loaded depends on what is read only. -/
theorem run_load_congr {other : World Service}
    (same : other.files.read path = world.files.read path) :
    (other.run serve (load path)).1 = (world.run serve (load path)).1 := by
  have reads : world.files.perform (.read path) = (world.files, world.files.read path) := rfl
  have readsOther : other.files.perform (.read path) = (other.files, other.files.read path) := rfl
  rw [load, World.run_storage_bind reads, World.run_storage_bind readsOther, same]
  split
  · rfl
  · rfl
  · split <;> rfl

theorem run_save_eq_ok {states : States} :
    (world.run serve (save path states)).1 = .ok () ↔ Writable world.files path := by
  constructor
  · intro succeeds
    obtain ⟨opened, written, moved, opening, writing, moving⟩ := steps_of_run_save succeeds
    exact (saved_of_steps opening writing moving).1
  · intro writable
    obtain ⟨files, ran, -⟩ := run_save writable states
    rw [ran]

theorem saved_of_run_save {states : States}
    (succeeds : (world.run serve (save path states)).1 = .ok ()) :
    Saved path (bytes states) world.files (world.run serve (save path states)).2.files := by
  obtain ⟨opened, written, moved, opening, writing, moving⟩ := steps_of_run_save succeeds
  rw [run_save_of_steps opening writing moving]
  exact (saved_of_steps opening writing moving).2

/-- What is saved is loaded again. A save succeeds just where the files allow it; then the file is
in its place, the draft is gone, and nothing else has changed. And whatever a file is loaded as,
saving that makes a file that is loaded as the same. -/
theorem save_load (serve : Service → (call : Api.Call) → call.Answer × Service)
    (world : World Service) (path : String) :
    (∀ states,
      ((world.run serve (save path states)).1 = .ok () ↔ Writable world.files path) ∧
      ((world.run serve (save path states)).1 = .ok () →
        Saved path (bytes states) world.files (world.run serve (save path states)).2.files ∧
        ((world.run serve (save path states)).2.run serve (load path)).1 = .ok (some states))) ∧
    ∀ loaded, (world.run serve (load path)).1 = .ok (some loaded) →
      ((world.run serve (load path)).2.run serve (save path loaded)).1 = .ok () →
        (((world.run serve (load path)).2.run serve (save path loaded)).2.run serve
          (load path)).1 = .ok (some loaded) := by
  have again : ∀ (world : World Service) states,
      (world.run serve (save path states)).1 = .ok () →
        ((world.run serve (save path states)).2.run serve (load path)).1 = .ok (some states) := by
    intro world states succeeds
    exact run_load_of_read (saved_of_run_save succeeds).stored
  constructor
  · intro states
    refine ⟨run_save_eq_ok, ?_⟩
    intro succeeds
    exact ⟨saved_of_run_save succeeds, again world states succeeds⟩
  · intro loaded _ succeeds
    exact again _ loaded succeeds

end Runs

/-- A file with a name twice, next to a draft that was left half written, in a directory that the
process does not work in. -/
theorem save_load_beside_leftover :
    let world := World.quiet Api.Memory.fresh
      ⟨[(["home"], .directory), (["srv"], .directory), (["srv", "state"], .directory),
        (["srv", "state", "metrics.json"],
          .file "\x7b\"cpu\":\"active\",\"cpu\":\"idle\"\x7d".toUTF8),
        (["srv", "state", "metrics.json.tmp"], .file "\x7b\"cp".toUTF8),
        (["srv", "state", "notes"], .file "kept".toUTF8)], ["home"]⟩
    let path := "/srv/state/metrics.json"
    let states := NameMap.ofList [("", ""), ("größe \"a\"\n", "active")]
    let loaded := NameMap.ofList [("cpu", "idle")]
    Writable world.files path ∧
      Saved path (bytes states) world.files
        (world.run Api.Memory.answer (save path states)).2.files ∧
      ((world.run Api.Memory.answer (save path states)).2.run Api.Memory.answer (load path)).1 =
        .ok (some states) ∧
      (world.run Api.Memory.answer (load path)).1 = .ok (some loaded) ∧
      (((world.run Api.Memory.answer (load path)).2.run Api.Memory.answer
        (save path loaded)).2.run Api.Memory.answer (load path)).1 = .ok (some loaded) := by
  intro world path states loaded
  obtain ⟨saves, loads⟩ := save_load Api.Memory.answer world path
  have succeeds : (world.run Api.Memory.answer (save path states)).1 = .ok () := by
    decide +kernel
  have known : (world.run Api.Memory.answer (load path)).1 = .ok (some loaded) := by
    decide +kernel
  have again : ((world.run Api.Memory.answer (load path)).2.run Api.Memory.answer
      (save path loaded)).1 = .ok () := by
    decide +kernel
  obtain ⟨left, same⟩ := (saves states).2 succeeds
  exact ⟨(saves states).1.mp succeeds, left, same, known, loads loaded known again⟩

end CheckBinding.StateFile
