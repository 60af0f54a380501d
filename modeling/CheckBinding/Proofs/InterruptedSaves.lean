import CheckBinding.Proofs.FailedOperations

/-!
Saving the state file is all or nothing where writes are taken.

`Leads` follows a save to wherever it stops: after any of its requests, or at its end. A request
that is broken off leaves what its failure may leave, a draft that is half written for one. Up to the
move the state file is loaded as before, and after it as what the draft had taken of the state. A disk
that loses a write after it was answered lets a short draft be moved over a good file.
-/

namespace CheckBinding.Persistence

open Program Storage Storage.FileSystem Storage.Path StateFile

variable {disk : Disk} {files final : FileSystem} {rest : Program (Except CheckFault Unit)}

/-! ### The steps of a save -/

/-- What a request leaves that is not carried out: all as it was, or what its failure may leave. -/
def Halted (operation : Operation) (before after : FileSystem) : Prop :=
  after = before ∨ Disk.Failed before after operation

theorem Halted.touches {path : String} {operation : Operation} {between : FileSystem}
    (halted : Halted operation between final) (touches : Touches path files between)
    (own : Disk.Failed between final operation → Touches path between final) :
    Touches path files final := by
  rcases halted with rfl | failed
  · exact touches
  · exact touches.trans (own failed)

/-- One step of a program that ends with a fault as soon as a request fails. It is not done by then,
or the request has succeeded and the program has gone on. -/
theorem leads_step {operation : Operation}
    {next : Except Storage.Fault operation.Result → Program (Except CheckFault Unit)}
    (gives : ∀ fault, ∃ outcome, next (.error fault) = .done (.error outcome))
    (stopped : Leads (undisturbed disk) (Program.storage operation >>= next) files rest final) :
    (rest ≠ .done (.ok ()) ∧ Halted operation files final) ∨
      ∃ value between, disk.Acts files between operation (.ok value) ∧
        Leads (undisturbed disk) (next (.ok value)) between rest final := by
  rcases leads_ask_bind stopped with ⟨rfl, rfl⟩ | ⟨reply, between, possible, later⟩
  · exact Or.inl ⟨nofun, Or.inl rfl⟩
  · cases reply with
    | error fault =>
        obtain ⟨outcome, ends⟩ := gives fault
        rw [ends] at later
        obtain ⟨rfl, rfl⟩ := leads_done later
        refine Or.inl ⟨nofun, ?_⟩
        cases possible with
        | done performed => exact Or.inl (eq_of_perform_error performed)
        | refused refuses failed => exact Or.inr failed
    | ok value => exact Or.inr ⟨value, between, possible, later⟩

/-- Wherever a save stops, at most the draft has changed, unless it has come to its end. Then the
file holds what the draft has taken. -/
theorem leads_save {path : String} {states : States}
    (stopped : Leads (undisturbed disk) (save path states) files rest final) :
    (rest ≠ .done (.ok ()) ∧ Touches (draftPath path) files final) ∨
      (rest = .done (.ok ()) ∧ Writable files path ∧ ∃ taken lost, bytes states = taken ++ lost ∧
        Saved path taken files final ∧ (disk.TakesWrites → lost = ByteArray.empty)) := by
  have broken : ∀ {before content},
      Disk.Failed before final (.append (draftPath path) content) →
        Touches (draftPath path) before final := by
    rintro before content (rfl | short)
    · exact Touches.refl _ _
    · exact short.touches
  have still : ∀ before, final = before → Touches (draftPath path) before final := by
    rintro before rfl
    exact Touches.refl _ _
  rw [save] at stopped
  rcases leads_step (fun _ => ⟨_, rfl⟩) stopped with
    ⟨unfinished, halted⟩ | ⟨_, opened, opens, stopped⟩
  · exact Or.inl ⟨unfinished, halted.touches (Touches.refl _ _) id⟩
  have opening := settle_ok.mp (opens.performed rfl (by simp))
  have emptied := openEmpty_touches opening
  rcases leads_step (fun _ => ⟨_, rfl⟩) stopped with
    ⟨unfinished, halted⟩ | ⟨_, written, writes, stopped⟩
  · exact Or.inl ⟨unfinished, halted.touches emptied broken⟩
  obtain ⟨taken, lost, whole, writing, nothing⟩ := writes.taken rfl
  have filled := emptied.trans (append_touches writing)
  rcases leads_step (fun _ => ⟨_, rfl⟩) stopped with
    ⟨unfinished, halted⟩ | ⟨_, synced, syncs, stopped⟩
  · exact Or.inl ⟨unfinished, halted.touches filled (still written)⟩
  obtain ⟨rfl, -⟩ := Prod.mk.inj (syncs.performed rfl (by simp))
  rcases leads_step (fun _ => ⟨_, rfl⟩) stopped with
    ⟨unfinished, halted⟩ | ⟨_, moved, moves, stopped⟩
  · exact Or.inl ⟨unfinished, halted.touches filled (still written)⟩
  obtain ⟨rfl, rfl⟩ := leads_done stopped
  obtain ⟨writable, saved⟩ :=
    saved_of_steps opening writing (settle_ok.mp (moves.performed rfl (by simp)))
  exact Or.inr ⟨rfl, writable, taken, lost, whole, saved, nothing⟩

/-- A disk that loses writes may let a save succeed that has written any front part of the state. -/
theorem exists_leads_short (loses : disk.loses) {path : String} {states : States}
    (writable : Writable files path) {taken lost : ByteArray}
    (whole : bytes states = taken ++ lost) :
    ∃ final, Leads (undisturbed disk) (save path states) files (.done (.ok ())) final ∧
      Saved path taken files final := by
  obtain ⟨opened, written, moved, opening, writing, moving, -⟩ := writable.steps taken
  refine ⟨moved, ?_, (saved_of_steps opening writing moving).2⟩
  have opens : (undisturbed disk) files (.storage (.openEmpty (draftPath path))) (.ok ()) opened :=
    .done (settle_ok.mpr opening)
  have writes : (undisturbed disk) opened (.storage (.append (draftPath path) (bytes states)))
      (.ok ()) written := .lost loses ⟨taken, lost, whole, writing⟩
  have syncs : (undisturbed disk) written (.storage (.sync (draftPath path))) (.ok ()) written :=
    .done rfl
  have moves : (undisturbed disk) written (.storage (.rename (draftPath path) path)) (.ok ())
      moved := .done (settle_ok.mpr moving)
  exact .onward opens (.onward writes (.onward syncs (.onward moves .here)))

/-! ### What is loaded -/

section Loading

variable {Service : Type} (serve : Service → (call : Api.Call) → call.Answer × Service)
  (world : World Service)

def loaded (path : String) (files : FileSystem) : Except CheckFault (Option States) :=
  (World.run serve { world with files } (load path)).1

/-- A save has left the file as it was and has changed its draft at most, or it has come to its end,
the file is loaded as what was saved, and the draft is gone. -/
inductive AllOrNothing (path : String) (states : States) (files final : FileSystem)
    (rest : Program (Except CheckFault Unit)) : Prop
  | nothing (unfinished : rest ≠ .done (.ok ())) (touches : Touches (draftPath path) files final)
      (same : loaded serve world path final = loaded serve world path files)
  | all (finished : rest = .done (.ok ())) (saved : Saved path (bytes states) files final)
      (known : loaded serve world path final = .ok (some states))

theorem loaded_of_short {path : String} {states : States} {taken lost : ByteArray}
    (whole : bytes states = taken ++ lost) (saved : Saved path taken files final)
    (short : lost ≠ ByteArray.empty) :
    ∃ fault, loaded serve world path final = .error (.state path (.parseFailed fault)) := by
  cases read : ofBytes taken with
  | ok known => exact absurd (eq_empty_of_ofBytes whole read) short
  | error fault =>
      refine ⟨fault, ?_⟩
      have stored : final.perform (.read path) = (final, .ok taken) := by
        rw [FileSystem.perform, saved.stored]
      rw [loaded, load, World.run_storage_bind stored]
      simp only [read]
      rfl

/-- Saving is all or nothing just where the disk takes what is written or where nothing can be
saved. A save that succeeds on any other disk leaves a front part of the state in the file, and a
part that is short of the whole is no state. -/
theorem save_all_or_nothing_iff (disk : Disk) (directory : String) (states : States)
    (files : FileSystem) :
    let path := join directory fileName
    ((∀ rest final, Leads (undisturbed disk) (save path states) files rest final →
        AllOrNothing serve world path states files final rest) ↔
      (disk.TakesWrites ∨ ¬ Writable files path)) ∧
    ∀ final, Leads (undisturbed disk) (save path states) files (.done (.ok ())) final →
      ∃ taken lost, bytes states = taken ++ lost ∧ Saved path taken files final ∧
        (lost ≠ ByteArray.empty →
          ∃ fault, loaded serve world path final = .error (.state path (.parseFailed fault))) := by
  intro path
  refine ⟨⟨?_, ?_⟩, ?_⟩
  · intro always
    rw [Disk.TakesWrites, ← not_and_or]
    rintro ⟨loses, writable⟩
    -- Such a disk may drop all that was written.
    obtain ⟨final, stopped, saved⟩ := exists_leads_short loses writable
      (ByteArray.empty_append (b := bytes states)).symm
    cases always _ final stopped with
    | nothing unfinished => exact unfinished rfl
    | all _ whole =>
        have read := ofBytes_bytes states
        rw [← Except.ok.inj (saved.stored.symm.trans whole.stored), ofBytes_empty] at read
        cases read
  · intro condition rest final stopped
    rcases leads_save stopped with ⟨unfinished, touches⟩ |
      ⟨finished, writable, taken, lost, whole, saved, nothing⟩
    · have beside := touches
      rw [draftPath_join_fileName] at beside
      exact .nothing unfinished touches (run_load_congr (read_of_touches beside))
    · have takes := condition.resolve_right (not_not_intro writable)
      rw [nothing takes, ByteArray.append_empty] at whole
      rw [← whole] at saved
      exact .all finished saved (run_load_of_read saved.stored)
  · intro final stopped
    rcases leads_save stopped with ⟨unfinished, -⟩ | ⟨-, -, taken, lost, whole, saved, -⟩
    · exact absurd rfl unfinished
    · exact ⟨taken, lost, whole, saved, loaded_of_short serve world whole saved⟩

end Loading

/-- A disk reports that it is full when a draft is written over an older one; two bytes of it are
left. -/
theorem save_all_or_nothing_iff_reported :
    let path := join "/state" fileName
    let draft := ["state", "metrics.json.tmp"]
    let before : FileSystem := ⟨[(["state"], .directory),
      (["state", "metrics.json"], .file "\x7b\"cpu\":\"active\"\x7d".toUTF8),
      (draft, .file "\x7b\"cp".toUTF8)], []⟩
    let after := (before.put draft (.file ByteArray.empty)).put draft (.file "\x7b\n".toUTF8)
    let full : Storage.Fault := .other "No space left on device (os error 28)"
    let states := NameMap.ofList [("load", "active")]
    let stopped := Program.done (.error (.state (draftPath path) (.writeFailed full)))
    let world := World.quiet Api.Memory.fresh .empty
    Leads (undisturbed ⟨True, False⟩) (save path states) before stopped after ∧
      AllOrNothing Api.Memory.answer world path states before after stopped ∧
      after.read (draftPath path) = .ok "\x7b\n".toUTF8 ∧
      loaded Api.Memory.answer world path before =
        .ok (some (NameMap.ofList [("cpu", "active")])) := by
  intro path draft before after full states stopped world
  let opened := before.put draft (.file ByteArray.empty)
  have found : before.locate (draftPath path) = .ok draft := by decide +kernel
  have foundThen : opened.locate (draftPath path) = .ok draft := by decide +kernel
  have opening : before.openEmpty (draftPath path) = .ok opened :=
    openEmpty_eq_ok.mpr ⟨draft, found, nofun, rfl⟩
  have writing : opened.append (draftPath path) "\x7b\n".toUTF8 = .ok after :=
    append_eq_ok.mpr ⟨draft, foundThen, ByteArray.empty, rfl, by rw [ByteArray.empty_append]⟩
  have whole : bytes states = "\x7b\n".toUTF8 ++ "  \"load\": \"active\"\n\x7d".toUTF8 := by
    decide +kernel
  have leads : Leads (undisturbed ⟨True, False⟩) (save path states) before stopped after :=
    .onward (.done (settle_ok.mpr opening))
      (.onward (.refused trivial (Or.inr ⟨_, _, whole, writing⟩)) .here)
  have holds := (save_all_or_nothing_iff Api.Memory.answer world ⟨True, False⟩ "/state" states
    before).1.mpr (Or.inl id)
  exact ⟨leads, holds _ _ leads, read_put foundThen nofun _, by decide +kernel⟩

/-- The disk is full when a state is written over an older one, and answers that all is well. -/
theorem full_disk_replaces_file :
    let path := join "/state" fileName
    let before : FileSystem := ⟨[(["state"], .directory),
      (["state", "metrics.json"], .file "\x7b\"cpu\":\"active\"\x7d".toUTF8)], []⟩
    let states := NameMap.ofList [("load", "active")]
    let world := World.quiet Api.Memory.fresh .empty
    loaded Api.Memory.answer world path before = .ok (some (NameMap.ofList [("cpu", "active")])) ∧
      ∃ after, Leads (undisturbed ⟨True, True⟩) (save path states) before (.done (.ok ())) after ∧
        after.read path = .ok ByteArray.empty ∧
        loaded Api.Memory.answer world path after =
          .error (.state path (.parseFailed .malformed)) := by
  intro path before states world
  have writable : Writable before path :=
    ⟨⟨["state", "metrics.json.tmp"], by decide +kernel, nofun⟩,
      ⟨["state", "metrics.json"], by decide +kernel, nofun⟩, by decide +kernel, by decide +kernel⟩
  obtain ⟨after, leads, saved⟩ := @exists_leads_short ⟨True, True⟩ _ trivial _ _ writable _ _
    (ByteArray.empty_append (b := bytes states)).symm
  refine ⟨by decide +kernel, after, leads, saved.stored, ?_⟩
  have read : after.perform (.read path) = (after, .ok ByteArray.empty) := by
    rw [FileSystem.perform, saved.stored]
  rw [loaded, load, World.run_storage_bind read]
  simp only [ofBytes_empty]
  rfl

end CheckBinding.Persistence
