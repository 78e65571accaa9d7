import ZeroOS.Kernel.System.Raw
import ZeroOS.Lib.Run

/-!
Runs of the system through its entry points, and what such a run leaves in the
commit log.
-/

namespace ZeroOS

open AxiomGateway List

inductive SystemOp where
  | RegisterProcess (name : String)
  | RegisterProcessWithPid (pid : ProcessId) (name : String)
  | KillProcess (pid : ProcessId)
  | FaultProcess (pid : ProcessId) (reason : UInt32) (description : String)
  | CreateEndpoint (owner : ProcessId)
  | GrantCapability (fromPid : ProcessId) (fromSlot : CapSlot) (toPid : ProcessId)
      (perms : Permissions)
  | GrantCapabilityToEndpoint (ownerPid : ProcessId) (eid : EndpointId) (toPid : ProcessId)
      (perms : Permissions)
  | RevokeCapability (pid : ProcessId) (slot : CapSlot)
  | DeleteCapability (pid : ProcessId) (slot : CapSlot)
  | DeleteCapabilityWithNotification (pid : ProcessId) (slot : CapSlot) (reason : UInt8)
  | DeriveCapability (pid : ProcessId) (slot : CapSlot) (perms : Permissions)
  | InjectToInit (tag : UInt32) (data : List UInt8)
  | IpcSend (fromPid : ProcessId) (slot : CapSlot) (tag : UInt32) (data : List UInt8)
  | IpcSendWithCaps (fromPid : ProcessId) (slot : CapSlot) (tag : UInt32) (data : List UInt8)
      (capSlots : List CapSlot)
  | IpcReceive (pid : ProcessId) (slot : CapSlot)
  | IpcReceiveWithCaps (pid : ProcessId) (slot : CapSlot)
  | HandleSyscall (pid : ProcessId) (syscall : Syscall)
  | ProcessSyscall (sender : ProcessId) (syscallNum : UInt32) (args : SyscallArgs)
      (data : List UInt8)
  | AllocateMemory (pid : ProcessId) (bytes : Nat)
  | FreeMemory (pid : ProcessId) (bytes : Nat)
  | UpdateProcessMemory (pid : ProcessId) (newSize : Nat)

-- One call, with what the platform answers while it runs.
def System.step (system : System) (input : Hal × SystemOp) : System :=
  let hal := input.1
  match input.2 with
  | .RegisterProcess name => (system.registerProcess hal name).1
  | .RegisterProcessWithPid pid name => (system.registerProcessWithPid hal pid name).1
  | .KillProcess pid => system.killProcess hal pid
  | .FaultProcess pid reason description => system.faultProcess hal pid reason description
  | .CreateEndpoint owner => (system.createEndpoint hal owner).1
  | .GrantCapability fromPid fromSlot toPid perms =>
    (system.grantCapability hal fromPid fromSlot toPid perms).1
  | .GrantCapabilityToEndpoint ownerPid eid toPid perms =>
    (system.grantCapabilityToEndpoint hal ownerPid eid toPid perms).1
  | .RevokeCapability pid slot => (system.revokeCapability hal pid slot).1
  | .DeleteCapability pid slot => (system.deleteCapability hal pid slot).1
  | .DeleteCapabilityWithNotification pid slot reason =>
    (system.deleteCapabilityWithNotification hal pid slot reason).1
  | .DeriveCapability pid slot perms => (system.deriveCapability hal pid slot perms).1
  | .InjectToInit tag data => (system.injectToInit hal tag data).1
  | .IpcSend fromPid slot tag data => (system.ipcSend hal fromPid slot tag data).1
  | .IpcSendWithCaps fromPid slot tag data capSlots =>
    (system.ipcSendWithCaps hal fromPid slot tag data capSlots).1
  | .IpcReceive pid slot => (system.ipcReceive hal pid slot).1
  | .IpcReceiveWithCaps pid slot => (system.ipcReceiveWithCaps hal pid slot).1
  | .HandleSyscall pid syscall => (system.handleSyscall hal pid syscall).1
  | .ProcessSyscall sender syscallNum args data =>
    (system.processSyscall hal sender syscallNum args data).1
  | .AllocateMemory pid bytes => (system.allocateMemory pid bytes).1
  | .FreeMemory pid bytes => (system.freeMemory pid bytes).1
  | .UpdateProcessMemory pid newSize => system.updateProcessMemory pid newSize

-- What the kernel is asked to do by a call.
inductive Work where
  | Core (op : Op)
  | Inject (tag : UInt32) (data : List UInt8)
  | Raw (sender : ProcessId) (syscallNum : UInt32) (args : SyscallArgs) (data : List UInt8)

def SystemOp.work : SystemOp → Work
  | .RegisterProcess name => .Core (.RegisterProcess name)
  | .RegisterProcessWithPid pid name => .Core (.RegisterProcessWithPid pid name)
  | .KillProcess pid => .Core (.KillProcess pid)
  | .FaultProcess pid reason description => .Core (.FaultProcess pid reason description)
  | .CreateEndpoint owner => .Core (.CreateEndpoint owner)
  | .GrantCapability fromPid fromSlot toPid perms =>
    .Core (.GrantCapability fromPid fromSlot toPid perms)
  | .GrantCapabilityToEndpoint ownerPid eid toPid perms =>
    .Core (.GrantCapabilityToEndpoint ownerPid eid toPid perms)
  | .RevokeCapability pid slot => .Core (.RevokeCapability pid slot)
  | .DeleteCapability pid slot => .Core (.DeleteCapability pid slot)
  | .DeleteCapabilityWithNotification pid slot _ => .Core (.DeleteCapability pid slot)
  | .DeriveCapability pid slot perms => .Core (.DeriveCapability pid slot perms)
  | .InjectToInit tag data => .Inject tag data
  | .IpcSend fromPid slot tag data => .Core (.IpcSend fromPid slot tag data)
  | .IpcSendWithCaps fromPid slot tag data capSlots =>
    .Core (.IpcSendWithCaps fromPid slot tag data capSlots)
  | .IpcReceive pid slot => .Core (.IpcReceive pid slot)
  | .IpcReceiveWithCaps pid slot => .Core (.IpcReceiveWithCaps pid slot)
  | .HandleSyscall pid syscall => .Core (.HandleSyscall pid syscall)
  | .ProcessSyscall sender syscallNum args data => .Raw sender syscallNum args data
  | .AllocateMemory pid bytes => .Core (.AllocateMemory pid bytes)
  | .FreeMemory pid bytes => .Core (.FreeMemory pid bytes)
  | .UpdateProcessMemory pid newSize => .Core (.UpdateProcessMemory pid newSize)

namespace KernelCore

def initEndpoint (kernel : KernelCore) : Option (EndpointId × Endpoint) :=
  kernel.endpoints.toList.find? fun (_, endpoint) => endpoint.owner == 1

def inject (kernel : KernelCore) (tag : UInt32) (data : List UInt8) :
    KernelCore × List CommitType :=
  match kernel.initEndpoint with
  | none => (kernel, [])
  | some (eid, endpoint) =>
    ({ kernel with endpoints := kernel.endpoints.insert eid { endpoint with
        pendingMessages := endpoint.pendingMessages ++ [⟨0, tag, data, []⟩] } },
      [.MessageSent 0 eid tag data.length])

def performWork (kernel : KernelCore) (hal : Hal) (now : UInt64) :
    Work → KernelCore × List CommitType
  | .Core op => kernel.perform now op
  | .Inject tag data => kernel.inject tag data
  | .Raw sender syscallNum args data => kernel.rawSyscall hal syscallNum sender args data now

lemma initEndpoint_some {kernel : KernelCore} (hi : kernel.initEndpoint = some (eid, ep)) :
    kernel.endpoints[eid]? = some ep ∧ ep.owner = 1 := by
  have hm := mem_of_find?_eq_some hi
  have ho := find?_some hi
  exact ⟨Std.ExtTreeMap.mem_toList_iff_getElem?_eq_some.mp hm, by simpa using ho⟩

end KernelCore

namespace System

open KernelCore

variable (system : System) (hal : Hal)

lemma injectToInit_eq :
    (system.injectToInit hal tag data).1 =
      { system with
        kernel := (system.kernel.inject tag data).1
        gateway := system.gateway.appendAll (system.kernel.inject tag data).2
          (system.uptimeNanos hal) } := by
  cases hi : system.kernel.initEndpoint with
  | none =>
    have hf := hi
    unfold initEndpoint at hf
    simp only [injectToInit, hf, inject, hi]
    rfl
  | some entry =>
    obtain ⟨_, _⟩ := entry
    have hg := (initEndpoint_some hi).1
    have hf := hi
    unfold initEndpoint at hf
    simp only [injectToInit, hf, hg, inject, hi]
    rfl

lemma deleteCapabilityWithNotification_eq :
    (system.deleteCapabilityWithNotification hal pid slot reason).1 =
      (system.deleteCapability hal pid slot).1 := by
  unfold deleteCapabilityWithNotification
  dsimp only
  split
  · rfl
  · split
    · rfl
    · rfl

lemma processSyscall_commitlog (sender : ProcessId) (num : UInt32) (args : SyscallArgs)
    (data : List UInt8) :
    (system.processSyscall hal sender num args data).1.commitlog =
      (system.gateway.appendAll
        (system.kernel.rawSyscall hal num sender args data (system.uptimeNanos hal)).2
        (system.uptimeNanos hal)).commitlog := by
  rw [rawSyscall, appendAll, List.foldl_append]
  refine commitlog_appendAll ?_ _ _
  refine commitlog_appendAll ?_ _ _
  rfl

lemma step_eq (op : SystemOp) :
    (system.step (hal, op)).kernel =
        (system.kernel.performWork hal (system.uptimeNanos hal) op.work).1 ∧
      (system.step (hal, op)).commitlog = (system.gateway.appendAll
        (system.kernel.performWork hal (system.uptimeNanos hal) op.work).2
        (system.uptimeNanos hal)).commitlog := by
  cases op with
  | InjectToInit =>
    simp only [step, injectToInit_eq]
    exact ⟨rfl, rfl⟩
  | ProcessSyscall => exact ⟨rfl, system.processSyscall_commitlog ..⟩
  | DeleteCapabilityWithNotification =>
    simp only [step, deleteCapabilityWithNotification_eq]
    exact ⟨rfl, rfl⟩
  | _ => exact ⟨rfl, rfl⟩

-- What a call appends to the log.
def logged (system : System) (input : Hal × SystemOp) : List CommitType :=
  (system.kernel.performWork input.1 (system.uptimeNanos input.1) input.2.work).2

-- The log holds the genesis and everything appended since, as far as it fits.
def LogHolds (seen : List CommitType) (system : System) : Prop :=
  system.commitlog.commitTypes =
    (.Genesis :: seen).drop (seen.length + 1 - MAX_COMMITLOG_ENTRIES)

lemma LogHolds.step {seen : List CommitType} {system : System} (input : Hal × SystemOp)
    (hl : LogHolds seen system) : LogHolds (seen ++ system.logged input) (system.step input) := by
  obtain ⟨hal, op⟩ := input
  have hr : system.gateway.commitlog.commitTypes =
      Slice.recent MAX_COMMITLOG_ENTRIES (.Genesis :: seen) := hl
  have ha := commitTypes_appendAll system.gateway (system.logged (hal, op))
    (system.uptimeNanos hal) (hr ▸ Slice.length_recent_le)
  rw [hr, Slice.recent_recent_append] at ha
  exact (congrArg CommitLog.commitTypes (system.step_eq hal op).2).trans ha

lemma commitTypes_of_run (he : (Run.run step (new boot) inputs).commitlog.commits.length <
      MAX_COMMITLOG_ENTRIES) :
    (Run.run step (new boot) inputs).commitlog.commitTypes =
      .Genesis :: Run.observed step logged (new boot) inputs := by
  have hl : LogHolds (Run.observed step logged (new boot) inputs)
      (Run.run step (new boot) inputs) :=
    Run.run_observed_invariant step (fun _ _ => True) logged LogHolds
      (fun _ _ input hl _ => hl.step _) rfl
      (Run.along_of_forall _ (fun _ _ => trivial) _)
  have hc := congrArg length hl
  rw [CommitLog.commitTypes, length_map, length_drop, length_cons] at hc
  rw [hl, Nat.sub_eq_zero_of_le (by omega), drop_zero]

end System

end ZeroOS
