import ZeroOS.Services.Results
import ZeroOS.Vfs.Service.Lemmas

/-!
Storage results that an application sends itself.
-/

namespace ZeroOS.VfsService

open Vfs

variable (serde : Serde) (sys : Syscalls) (service : VfsService)

-- The result of a call that is waited for is always noticed: the operation either goes on
-- with an effect or is lost.
lemma storageCompleted_noticed (ho : service.pendingOps[result.requestId]? = some op) :
    ¬ ((service.storageCompleted serde sys result).service.pendingOps = service.pendingOps ∧
      (service.storageCompleted serde sys result).effects = []) := by
  rintro ⟨hs, hi⟩
  simp only [storageCompleted, ho] at hs hi
  have he := perform_of_silent serde sys _ hi
  rw [he] at hs
  rw [← hs] at ho
  simp at ho

lemma storageCompleted_unknown (ho : service.pendingOps[result.requestId]? = none) :
    service.storageCompleted serde sys result = ⟨service, .ok (), []⟩ := by
  simp only [storageCompleted, ho]

lemma onMessage_ignores_iff {msg : AppMessage} (ht : msg.tag = MSG_STORAGE_RESULT) :
    ((service.onMessage serde sys msg).service.pendingOps = service.pendingOps ∧
        (service.onMessage serde sys msg).effects = []) ↔
      (msg.data.length < 9 ∨ leWord32 msg.data ∉ service.pendingOps) := by
  rw [onMessage, if_pos ht, handleStorageResult]
  by_cases hs : msg.data.length < 9
  · simp [parseStorageResult, hs]
  · rw [parseStorageResult, if_neg hs]
    dsimp only
    rw [BTreeMap.not_mem_iff]
    constructor
    · intro hi
      refine .inr ?_
      cases ho : service.pendingOps[leWord32 msg.data]? with
      | none => rfl
      | some => exact absurd hi (storageCompleted_noticed _ sys _ ho)
    · rintro (hl | hu)
      · exact absurd hl hs
      · rw [storageCompleted_unknown serde sys service hu]
        exact ⟨rfl, rfl⟩

-- A result from an application is ignored exactly if it is read without an abort and nobody
-- waits for it.
theorem forged_result_ignored_iff (msg : AppMessage) (htag : msg.tag = MSG_STORAGE_RESULT)
    (_happlication : 10 ≤ msg.fromPid) :
    (∃ handled, Browser.VfsService.onMessage serde sys service msg = .ok handled ∧
        handled.service.pendingOps = service.pendingOps ∧ handled.effects = []) ↔
      ¬ Browser.ResultWraps msg.data ∧
        (msg.data.length < 9 ∨ leWord32 msg.data ∉ service.pendingOps) := by
  rw [Browser.VfsService.onMessage_reads.exists_ok_iff, onMessage_ignores_iff _ _ _ htag]
  simp only [htag, true_and]

-- An application waits for the check of `/system`, which it may not write to, and answers the
-- check itself.

def worldWritable : Inode :=
  { Inode.newDirectory "/system" "/" "system" none 0 with
    permissions := { FilePermissions.userDirDefault with worldWrite := true } }

def forgedParent (id : UInt32) : AppMessage where
  tag := MSG_STORAGE_RESULT
  fromPid := 10
  capSlots := []
  data := StorageResult.payload ⟨id, StorageResult.READ_OK, VfsJson.inode.encode worldWritable⟩

def waitingWrite : VfsService :=
  ⟨(∅ : BTreeMap UInt32 PendingOp).insert 1
    (.WriteFileOp ⟨10, []⟩ "/system/x" ⟨none, .Application⟩ (.CheckingParent [7]))⟩

theorem forged_parent_accepted :
    (forgedParent 1).tag = MSG_STORAGE_RESULT ∧ 10 ≤ (forgedParent 1).fromPid ∧
      ∃ handled, Browser.VfsService.onMessage VfsJson.serde (VfsJson.nextId 2) waitingWrite
          (forgedParent 1) = .ok handled ∧
        handled.effects = [.Storage 2 (.Write (contentKey "/system/x") [7])] := by
  refine ⟨rfl, by decide, ?_⟩
  rw [Browser.VfsService.onMessage_reads.exists_ok_iff]
  decide +kernel

-- The same message with another id goes by the write that waits.
theorem forged_result_ignored_iff_unknown :
    ∃ handled, Browser.VfsService.onMessage VfsJson.serde (VfsJson.nextId 2) waitingWrite
        (forgedParent 3) = .ok handled ∧
      handled.service.pendingOps = waitingWrite.pendingOps ∧ handled.effects = [] :=
  (forged_result_ignored_iff VfsJson.serde (VfsJson.nextId 2) waitingWrite (forgedParent 3) rfl
    (by decide)).mpr (by decide +kernel)

end ZeroOS.VfsService
