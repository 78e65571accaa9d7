import ZeroOS.Vfs.Service

/-!
What is done for each action.
-/

namespace ZeroOS

open Vfs

namespace Vfs

-- A response goes to the first reply capability of its requester, or by the debug channel to
-- the process.
def Addressed (ctx : ClientContext) (tag : UInt32) (response : Response) (effect : Effect) : Prop :=
  (∃ slot, ctx.replyCaps.head? = some slot ∧ effect = .Reply slot tag response) ∨
    effect = .DebugResponse ctx.pid tag response

end Vfs

namespace VfsService

variable (serde : Serde) (sys : Syscalls) (service : VfsService)

-- There is no room for another operation, or the syscall fails.
def Refused (n : Nat) (call : StorageCall) : Prop :=
  MAX_PENDING_OPS ≤ service.pendingOps.size ∨ ∃ code, sys.storage n call = .error code

lemma startStorage_cases (n : Nat) (call : StorageCall) (op : PendingOp) :
    (Refused sys service n call ∧
        ∃ e, service.startStorage sys n call op = ⟨service, .error e, []⟩) ∨
      ∃ id, sys.storage n call = .ok id ∧ service.pendingOps.size < MAX_PENDING_OPS ∧
        service.startStorage sys n call op =
          ⟨⟨service.pendingOps.insert id.toUInt64.toUInt32 op⟩, .ok (),
            [.Storage id.toUInt64.toUInt32 call]⟩ := by
  unfold startStorage
  by_cases hf : service.pendingOps.size ≥ MAX_PENDING_OPS
  · exact .inl ⟨.inl hf, _, if_pos hf⟩
  · rw [if_neg hf]
    cases hc : sys.storage n call with
    | error e => exact .inl ⟨.inr ⟨e, hc⟩, _, rfl⟩
    | ok id => exact .inr ⟨id, rfl, Nat.lt_of_not_le hf, rfl⟩

lemma startStorage_of_room {id : Int64} (hr : service.pendingOps.size < MAX_PENDING_OPS)
    (hc : sys.storage n call = .ok id) :
    service.startStorage sys n call op =
      ⟨⟨service.pendingOps.insert id.toUInt64.toUInt32 op⟩, .ok (),
        [.Storage id.toUInt64.toUInt32 call]⟩ := by
  rw [startStorage, if_neg (Nat.not_le.mpr hr), hc]

lemma sendResponse_spec (ctx : ClientContext) (tag : UInt32) (resp : Response) :
    ∃ effect, sendResponse serde sys ctx tag resp = (.ok (), [effect]) ∧
      Addressed ctx tag resp effect := by
  obtain ⟨data, hd⟩ := serde.responseToVec_ok resp
  unfold sendResponse
  rw [hd]
  cases hl : ctx.replyCaps.head? with
  | none => exact ⟨_, rfl, .inr rfl⟩
  | some slot =>
    cases hs : sys.send slot tag data with
    | error => exact ⟨.DebugResponse ctx.pid tag resp, by simp only [hs], .inr rfl⟩
    | ok => exact ⟨.Reply slot tag resp, by simp only [hs], .inl ⟨slot, hl, rfl⟩⟩

lemma perform_respond (ctx : ClientContext) (tag : UInt32) (resp : Response) :
    ∃ effect, service.perform serde sys (.Respond ctx tag resp) =
      ⟨service, .ok (), [effect]⟩ ∧ Addressed ctx tag resp effect := by
  obtain ⟨effect, hs, ha⟩ := sendResponse_spec serde sys ctx tag resp
  exact ⟨effect, by simp only [perform, hs], ha⟩

lemma perform_respondViaDebug :
    service.perform serde sys (.RespondViaDebug toPid tag resp) =
      ⟨service, .ok (), [.DebugResponse toPid tag resp]⟩ := by
  obtain ⟨_, hd⟩ := serde.responseToVec_ok resp
  simp only [perform, sendResponseViaDebug, hd]

-- What is done without a trace leaves the service as it was.

lemma startStorage_of_silent (hs : (service.startStorage sys n call op).effects = []) :
    (service.startStorage sys n call op).service = service := by
  obtain ⟨_, e, h⟩ | ⟨_, _, _, h⟩ := startStorage_cases sys service n call op
  · rw [h]
  · rw [h] at hs
    cases hs

lemma perform_of_silent (hs : (service.perform serde sys action).effects = []) :
    (service.perform serde sys action).service = service := by
  cases action with
  | Respond | RespondViaDebug | Done => rfl
  | Start => exact startStorage_of_silent sys _ hs
  | StartBoth =>
    obtain ⟨ho, ht⟩ := List.append_eq_nil_iff.mp hs
    have hf := startStorage_of_silent sys service ho
    exact (startStorage_of_silent sys _ ht).trans hf

end VfsService

end ZeroOS
