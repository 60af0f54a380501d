import CheckBinding.Proofs.Storage.Files

/-!
Disks that fall short of what is asked of them.

A request may fail, and a write that fails leaves its file half written. A write may also be
answered before it is carried out: when it fails after that, the answer says that all is well and the
file is left short all the same.
-/

namespace CheckBinding.Storage

structure Disk where
  refuses : Prop
  loses : Prop

namespace Disk

variable {disk : Disk} {before after : FileSystem}

def sound : Disk :=
  ⟨False, False⟩

/-- What is written to a file that was opened gets there, or else the write fails. -/
def TakesWrites (disk : Disk) : Prop :=
  ¬ disk.loses

/-- A file takes the front part of what is added to it. -/
def TakesPart (path : String) (bytes : ByteArray) (before after : FileSystem) : Prop :=
  ∃ taken lost, bytes = taken ++ lost ∧ before.append path taken = .ok after

/-- What a request that fails may change: the file that was to be written. -/
def Failed (before after : FileSystem) : Operation → Prop
  | .openEmpty path => FileSystem.Touches path before after
  | .append path bytes => after = before ∨ TakesPart path bytes before after
  | _ => after = before

/-- What a disk may do with a request. -/
inductive Acts (disk : Disk) (before after : FileSystem) :
    (operation : Operation) → Except Fault operation.Result → Prop
  | done {operation : Operation} {reply : Except Fault operation.Result}
      (performed : before.perform operation = (after, reply)) :
      Acts disk before after operation reply
  | refused {operation : Operation} {fault : Fault} (refuses : disk.refuses)
      (failed : Failed before after operation) : Acts disk before after operation (.error fault)
  | lost {path : String} {bytes : ByteArray} (loses : disk.loses)
      (short : TakesPart path bytes before after) :
      Acts disk before after (.append path bytes) (.ok ())

theorem TakesPart.touches {path : String} {bytes : ByteArray}
    (short : TakesPart path bytes before after) : FileSystem.Touches path before after := by
  obtain ⟨_, _, -, written⟩ := short
  exact FileSystem.append_touches written

/-- A sound disk does nothing that another one could not do. -/
theorem Acts.of_sound {operation : Operation} {reply : Except Fault operation.Result}
    (acts : sound.Acts before after operation reply) : disk.Acts before after operation reply := by
  cases acts with
  | done performed => exact .done performed
  | refused refuses => exact refuses.elim
  | lost loses => exact loses.elim

/-- A request that succeeds was carried out, unless it is to add to a file. -/
theorem Acts.performed {operation : Operation} {reply : Except Fault operation.Result}
    (acts : disk.Acts before after operation reply) (succeeded : reply.isOk = true)
    (whole : ∀ path bytes, operation ≠ .append path bytes) :
    before.perform operation = (after, reply) := by
  cases acts with
  | done performed => exact performed
  | refused => cases succeeded
  | lost => exact absurd rfl (whole _ _)

/-- What a file has of the bytes that were added to it. -/
theorem Acts.taken {path : String} {bytes : ByteArray} {reply : Except Fault Unit}
    (acts : disk.Acts before after (.append path bytes) reply) (succeeded : reply = .ok ()) :
    ∃ taken lost, bytes = taken ++ lost ∧ before.append path taken = .ok after ∧
      (disk.TakesWrites → lost = ByteArray.empty) := by
  cases acts with
  | done performed =>
      subst succeeded
      exact ⟨bytes, ByteArray.empty, ByteArray.append_empty.symm,
        FileSystem.settle_ok.mp performed, fun _ => rfl⟩
  | refused => cases succeeded
  | lost loses short =>
      obtain ⟨taken, lost, whole, written⟩ := short
      exact ⟨taken, lost, whole, written, fun takes => absurd loses takes⟩

/-- A file that was opened has all that was added to it, where writes are taken. -/
theorem Acts.appended (takes : disk.TakesWrites) {path : String} {bytes : ByteArray}
    {reply : Except Fault Unit} (acts : disk.Acts before after (.append path bytes) reply)
    (succeeded : reply = .ok ()) : before.append path bytes = .ok after := by
  obtain ⟨taken, lost, whole, written, nothing⟩ := acts.taken succeeded
  rw [nothing takes, ByteArray.append_empty] at whole
  rw [whole]
  exact written

end Disk
end CheckBinding.Storage
