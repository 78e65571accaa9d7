import ZeroOS.Kernel.Effect

namespace ZeroOS

open List
open KernelView

lemma bumpPast_self (counter : UInt64) : bumpPast counter counter = counter + 1 := by
  simp [bumpPast]

lemma SyscallStep.effect (hs : SyscallStep pid now view syscall result commits view') :
    Effect view commits view' := by
  cases hs with
  | Refused | Query | Empty => exact .Idle
  | CreateEndpoint cs _ hr hc => exact .OpenEndpoint pid cs hr hc
  | FailEndpoint hr hc => exact .FailEndpoint pid hr hc
  | Send _ _ _ tag data cap ep _ _ _ _ _ hg =>
    exact .Push cap.objectId ep pid tag data hg
  | SendWithCaps _ tag data slots cap ep cs _ _ _ hg hc =>
    exact .PushCaps cap.objectId ep pid tag data cs slots hg hc
  | Receive _ cap ep msg rest _ _ _ _ hg hq =>
    exact .Pop cap.objectId ep msg rest hg hq
  | CapGrant slot toPid _ source cs hh _ _ hc =>
    exact .InsertDerived toPid cs source _ _ hc (holds_of_capAt hh) (.inr ⟨pid, slot, rfl⟩)
  | BurnId => exact .BurnId
  | CapDerive _ _ source cs hh _ hc =>
    exact .InsertDerived pid cs source _ [] hc (holds_of_capAt hh) (.inl rfl)
  | CapRemove _ slot _ cs _ hc => exact .Remove pid slot cs hc
  | Exit code => exact .Exit pid code
  | Kill target owned hm _ ho =>
    exact .Drop target [.ProcessExited target (-1)] owned (fun h => absurd hm h) (by simp) ho

def Op.typed : Op → Option (ProcessId × Syscall)
  | .KillProcessWithCapCheck caller target => some (caller, .Kill target)
  | .CreateEndpoint owner => some (owner, .CreateEndpoint)
  | .GrantCapability fromPid fromSlot toPid perms => some (fromPid, .CapGrant fromSlot toPid perms)
  | .RevokeCapability pid slot => some (pid, .CapRevoke slot)
  | .DeleteCapability pid slot => some (pid, .CapDelete slot)
  | .DeriveCapability pid slot perms => some (pid, .CapDerive slot perms)
  | .IpcSend fromPid slot tag data => some (fromPid, .Send slot tag data)
  | .IpcSendWithCaps fromPid slot tag data capSlots =>
    some (fromPid, .SendWithCaps slot tag data capSlots)
  | .IpcReceive pid slot => some (pid, .Receive slot)
  | .HandleSyscall pid syscall => some (pid, syscall)
  | _ => none

namespace KernelCore

variable (kernel : KernelCore)

lemma killProcess_effect :
    Effect kernel.view (commitTypesOf (kernel.killProcess pid now).2)
      (kernel.killProcess pid now).1.view := by
  rw [view_killProcess, killProcess_commits, commitTypesOf, map_append, map_map]
  refine .Drop pid _ (kernel.ownedEndpoints pid) ?_ ?_ (kernel.owned_ownedEndpoints pid)
  · intro hn
    rw [if_neg (fun h => hn ((kernel.mem_view_processes pid).mpr h))]
    rfl
  · intro commit hm
    split_ifs at hm
    · exact .inl ⟨-1, mem_singleton.mp hm⟩
    · cases hm

lemma faultProcess_effect :
    Effect kernel.view (commitTypesOf (kernel.faultProcess pid reason description now).2)
      (kernel.faultProcess pid reason description now).1.view := by
  simp only [faultProcess, view_killProcess, killProcess_commits, commitTypesOf,
    map_append, map_map, ← append_assoc]
  refine .Drop pid _ (kernel.ownedEndpoints pid) ?_ ?_ (kernel.owned_ownedEndpoints pid)
  · intro hn
    have hm : pid ∉ kernel.processes := fun h => hn ((kernel.mem_view_processes pid).mpr h)
    simp [hm]
  · intro commit hm
    split_ifs at hm
    · rcases mem_cons.mp hm with hf | he
      · exact .inr ⟨reason, description, hf⟩
      · exact .inl ⟨-1, mem_singleton.mp he⟩
    · cases hm

lemma grantCapabilityToEndpoint_effect :
    Effect kernel.view
      (commitTypesOf (kernel.grantCapabilityToEndpoint ownerPid eid toPid perms now).commits)
      (kernel.grantCapabilityToEndpoint ownerPid eid toPid perms now).kernel.view := by
  rcases kernel.grantCapabilityToEndpoint_cases ownerPid eid toPid perms now with
    ⟨e, -, he⟩ | ⟨_, _, _, _, he⟩ | ⟨_, cs, _, _, hc, he⟩
  · rw [he]
    exact .Idle
  · rw [he]
    exact .BurnId
  · rw [he]
    exact .InsertEndpointCap toPid cs eid perms hc

lemma ipcReceiveWithCaps_effect :
    Effect kernel.view (commitTypesOf (kernel.ipcReceiveWithCaps pid slot now).commits)
      (kernel.ipcReceiveWithCaps pid slot now).kernel.view := by
  rcases kernel.ipcReceiveWithCaps_cases pid slot now with
    ⟨e, -, he⟩ | ⟨_, _, _, _, _, he⟩ |
    ⟨eid, ep, cs, msg, rest, _, _, hg, hc, hq, he, hv⟩
  · rw [he]
    exact .Idle
  · rw [he]
    exact .Idle
  · rw [he]
    rw [hv, commitTypesOf, map_zipWith]
    exact .PopCaps eid ep.view msg rest pid cs (kernel.view_endpoints_of_get hg) hq hc

lemma registerProcessWithParent_effect :
    Effect kernel.view (commitTypesOf (kernel.registerProcessWithParent name parent now).2.2)
      (kernel.registerProcessWithParent name parent now).1.view := by
  rw [view_registerProcessWithParent, ← bumpPast_self]
  exact .Register kernel.nextPid parent name

lemma registerProcessWithPid_effect :
    Effect kernel.view (commitTypesOf (kernel.registerProcessWithPid pid name now).2.2)
      (kernel.registerProcessWithPid pid name now).1.view := by
  rcases kernel.registerProcessWithPid_cases pid name now with
    ⟨_, he⟩ | ⟨_, _, he, hv⟩
  · rw [he]
    exact .Idle
  · rw [he]
    rw [hv]
    exact .Register pid 0 name

lemma perform_step (now : UInt64) (ht : op.typed = some (pid, syscall)) :
    ∃ result, SyscallStep pid now kernel.view syscall result (kernel.perform now op).2
      (kernel.perform now op).1.view := by
  cases op with
  | KillProcessWithCapCheck =>
    cases ht
    exact ⟨_, kernel.handleKill_step ..⟩
  | CreateEndpoint =>
    cases ht
    exact ⟨_, kernel.handleCreateEndpoint_step ..⟩
  | GrantCapability =>
    cases ht
    exact ⟨_, kernel.handleCapGrant_step ..⟩
  | RevokeCapability =>
    cases ht
    exact ⟨_, kernel.handleCapRevoke_step ..⟩
  | DeleteCapability =>
    cases ht
    exact ⟨_, kernel.handleCapDelete_step ..⟩
  | DeriveCapability =>
    cases ht
    exact ⟨_, kernel.handleCapDerive_step ..⟩
  | IpcSend _ _ tag =>
    cases ht
    exact ⟨_, kernel.ipcSend_step pid _ _ tag _ now (fun _ => .Ok 0) (.inl rfl)⟩
  | IpcSendWithCaps =>
    cases ht
    exact ⟨_, kernel.handleSendWithCaps_step ..⟩
  | IpcReceive =>
    cases ht
    exact ⟨_, kernel.handleReceive_step ..⟩
  | HandleSyscall =>
    cases ht
    exact ⟨_, kernel.handleSyscall_step ..⟩
  | _ => cases ht

lemma perform_effect (now : UInt64) (op : Op) :
    Effect kernel.view (kernel.perform now op).2 (kernel.perform now op).1.view := by
  cases ht : op.typed with
  | some =>
    obtain ⟨_, hs⟩ := kernel.perform_step now ht
    exact hs.effect
  | none =>
    cases op with
    | RegisterProcess | RegisterProcessWithParent =>
      exact kernel.registerProcessWithParent_effect
    | RegisterProcessWithPid => exact kernel.registerProcessWithPid_effect
    | KillProcess => exact kernel.killProcess_effect
    | FaultProcess => exact kernel.faultProcess_effect
    | GrantCapabilityToEndpoint => exact kernel.grantCapabilityToEndpoint_effect
    | IpcReceiveWithCaps => exact kernel.ipcReceiveWithCaps_effect
    | AllocateMemory pid bytes =>
      have hv := kernel.view_allocateMemory pid bytes
      simp only [perform, hv]
      exact .Idle
    | FreeMemory pid bytes =>
      have hv := kernel.view_freeMemory pid bytes
      simp only [perform, hv]
      exact .Idle
    | UpdateProcessMemory =>
      simp only [perform, view_updateProcessMemory]
      exact .Idle
    | _ => cases ht

end KernelCore

end ZeroOS
