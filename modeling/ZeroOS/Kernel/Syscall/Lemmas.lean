import ZeroOS.Kernel.Process.Lemmas
import ZeroOS.Kernel.Ipc.Lemmas
import ZeroOS.Kernel.System.Lifecycle

/-!
The typed interface as a step relation on views.
-/

namespace ZeroOS

open Outcome

-- The calls that never change anything but metrics.
def Syscall.IsQuery : Syscall → Prop
  | .Debug _ | .ListCaps | .ListProcesses | .GetTime | .Yield | .CapInspect _ => True
  | _ => False

namespace KernelView

variable (view : KernelView)

def HoldsEndpoint (pid : ProcessId) (eid : EndpointId) (right : Permissions → Bool) : Prop :=
  ∃ slot cap, view.capSpaces.capAt pid slot = some cap ∧ cap.objectType = .Endpoint ∧
    cap.objectId = eid ∧ right cap.permissions = true

-- What the capability check of a kill by anyone but Init asks for.
def HoldsProcess (pid target : ProcessId) : Prop :=
  ∃ slot cap, view.capSpaces.capAt pid slot = some cap ∧ cap.objectType = .Process ∧
    cap.objectId = target ∧ cap.permissions.write = true

def Owned (pid : ProcessId) (owned : List EndpointId) : Prop :=
  ∀ eid, eid ∈ owned ↔ ∃ endpoint, view.endpoints[eid]? = some endpoint ∧ endpoint.owner = pid

end KernelView

open KernelView in
inductive SyscallStep (pid : ProcessId) (now : UInt64) (view : KernelView) :
    Syscall → SyscallResult → List CommitType → KernelView → Prop where
  | Refused (syscall : Syscall) (e : KernelError) : SyscallStep pid now view syscall (.Err e) [] view
  | Query (syscall : Syscall) (result : SyscallResult) (hquery : syscall.IsQuery) :
      SyscallStep pid now view syscall result [] view
  | Empty (slot : CapSlot) : SyscallStep pid now view (.Receive slot) .WouldBlock [] view
  | CreateEndpoint (cspace : CapabilitySpace) (value : UInt64) (hreg : pid ∈ view.processes)
      (hspace : view.capSpaces[pid]? = some cspace) :
      SyscallStep pid now view .CreateEndpoint (.Ok value)
        [.EndpointCreated view.nextEndpointId pid,
          .ofInsert pid cspace.nextSlot
            (.endpoint view.nextCapId view.nextEndpointId Permissions.full)]
        ((view.addEndpoint pid).burnCapId.putSpace pid (cspace.insert
          (.endpoint view.nextCapId view.nextEndpointId Permissions.full)).2)
  | FailEndpoint (hreg : pid ∈ view.processes) (hspace : view.capSpaces[pid]? = none) :
      SyscallStep pid now view .CreateEndpoint (.Err .ProcessNotFound) []
        view.failEndpoint.burnCapId
  | Send (syscall : Syscall) (result : SyscallResult) (slot : CapSlot) (tag : UInt32)
      (data : List UInt8) (cap : Capability) (endpoint : EndpointView)
      (hcall : syscall = .Send slot tag data ∨ syscall = .Call slot tag data)
      (hheld : view.capSpaces.capAt pid slot = some cap) (htype : cap.objectType = .Endpoint)
      (hwrite : cap.permissions.write = true) (hlive : cap.isExpired now = false)
      (hget : view.endpoints[cap.objectId]? = some endpoint) :
      SyscallStep pid now view syscall result [.MessageSent pid cap.objectId tag data.length]
        (view.setQueue cap.objectId (endpoint.queue ++ [⟨pid, tag, data, []⟩]))
  | SendWithCaps (slot : CapSlot) (tag : UInt32) (data : List UInt8) (capSlots : List CapSlot)
      (cap : Capability) (endpoint : EndpointView) (cspace : CapabilitySpace)
      (hheld : view.capSpaces.capAt pid slot = some cap) (htype : cap.objectType = .Endpoint)
      (hwrite : cap.permissions.write = true)
      (hget : view.endpoints[cap.objectId]? = some endpoint)
      (hspace : view.capSpaces[pid]? = some cspace) :
      SyscallStep pid now view (.SendWithCaps slot tag data capSlots) (.Ok 0)
        ((cspace.takeAll capSlots).2.map fun (slot, _) => .CapRemoved pid slot)
        ((view.putSpace pid (cspace.takeAll capSlots).1).setQueue cap.objectId
          (endpoint.queue ++ [⟨pid, tag, data, inFlight (cspace.takeAll capSlots).2⟩]))
  | Receive (slot : CapSlot) (cap : Capability) (endpoint : EndpointView) (msg : Message)
      (rest : List Message) (hheld : view.capSpaces.capAt pid slot = some cap)
      (htype : cap.objectType = .Endpoint) (hread : cap.permissions.read = true)
      (hlive : cap.isExpired now = false)
      (hget : view.endpoints[cap.objectId]? = some endpoint) (hqueue : endpoint.queue = msg :: rest) :
      SyscallStep pid now view (.Receive slot) (.Message msg) [] (view.setQueue cap.objectId rest)
  | CapGrant (slot : CapSlot) (toPid : ProcessId) (perms : Permissions) (source : Capability)
      (cspace : CapabilitySpace) (hheld : view.capSpaces.capAt pid slot = some source)
      (hgrant : source.permissions.grant = true) (hlive : source.isExpired now = false)
      (hspace : view.capSpaces[toPid]? = some cspace) :
      SyscallStep pid now view (.CapGrant slot toPid perms) (.Ok cspace.nextSlot.toUInt64)
        [.CapGranted pid toPid slot cspace.nextSlot view.nextCapId
            (attenuatePermissions source.permissions perms),
          .ofInsert toPid cspace.nextSlot (source.derived view.nextCapId
            (attenuatePermissions source.permissions perms))]
        (view.burnCapId.putSpace toPid (cspace.insert (source.derived view.nextCapId
          (attenuatePermissions source.permissions perms))).2)
  -- The target of the grant has no space.
  | BurnId (slot : CapSlot) (toPid : ProcessId) (perms : Permissions) (source : Capability)
      (hheld : view.capSpaces.capAt pid slot = some source)
      (hspace : view.capSpaces[toPid]? = none) :
      SyscallStep pid now view (.CapGrant slot toPid perms) (.Err .ProcessNotFound) []
        view.burnCapId
  | CapDerive (slot : CapSlot) (perms : Permissions) (source : Capability)
      (cspace : CapabilitySpace) (hheld : view.capSpaces.capAt pid slot = some source)
      (hlive : source.isExpired now = false) (hspace : view.capSpaces[pid]? = some cspace) :
      SyscallStep pid now view (.CapDerive slot perms) (.Ok cspace.nextSlot.toUInt64)
        [.ofInsert pid cspace.nextSlot (source.derived view.nextCapId
          (attenuatePermissions source.permissions perms))]
        (view.burnCapId.putSpace pid (cspace.insert (source.derived view.nextCapId
          (attenuatePermissions source.permissions perms))).2)
  | CapRemove (syscall : Syscall) (slot : CapSlot) (cap : Capability) (cspace : CapabilitySpace)
      (hcall : syscall = .CapRevoke slot ∨ syscall = .CapDelete slot)
      (hspace : view.capSpaces[pid]? = some cspace) (hget : cspace.get slot = some cap) :
      SyscallStep pid now view syscall (.Ok 0) [.CapRemoved pid slot]
        (view.putSpace pid (cspace.remove slot).2)
  | Exit (code : Int32) :
      SyscallStep pid now view (.Exit code) (.Ok code.toInt64.toUInt64) [.ProcessExited pid code]
        (view.exitProcess pid)
  | Kill (target : ProcessId) (owned : List EndpointId) (hmem : target ∈ view.processes)
      (hperm : pid = 1 ∨ view.HoldsProcess pid target) (howned : view.Owned target owned) :
      SyscallStep pid now view (.Kill target) (.Ok 0)
        (.ProcessExited target (-1) :: owned.map .EndpointDestroyed) (view.dropProcess target)

namespace KernelCore

variable (kernel : KernelCore)

variable (pid : ProcessId) (syscall : Syscall) (slot : CapSlot) (tag : UInt32) (perms : Permissions)
  (data : List UInt8) (now : UInt64)

lemma owned_ownedEndpoints : kernel.view.Owned pid (kernel.ownedEndpoints pid) := by
  intro eid
  rw [mem_ownedEndpoints, view_endpoints_get]
  constructor
  · rintro ⟨ep, he, ho⟩
    exact ⟨ep.view, by rw [he]; rfl, ho⟩
  · rintro ⟨_, he, ho⟩
    obtain ⟨ep, hg, rfl⟩ := Option.map_eq_some_iff.mp he
    exact ⟨ep, hg, ho⟩

lemma view_handleExit :
    (kernel.handleExit pid code now).kernel.view = kernel.view.exitProcess pid := by
  simp only [handleExit, view, KernelView.exitProcess]
  rw [BTreeMap.map_modify]
  exact fun _ => rfl

lemma handleCreateEndpoint_step :
    SyscallStep pid now kernel.view .CreateEndpoint (kernel.handleCreateEndpoint pid now).result
      (commitTypesOf (kernel.handleCreateEndpoint pid now).commits)
      (kernel.handleCreateEndpoint pid now).kernel.view := by
  unfold handleCreateEndpoint
  rcases kernel.createEndpoint_cases pid now with
    ⟨-, he⟩ | ⟨hr, hc, _, he, hv⟩ | ⟨cs, hr, hc, he⟩
  · rw [he]
    exact .Refused ..
  · rw [he]
    dsimp only [toSyscall]
    rw [hv]
    exact .FailEndpoint ((kernel.mem_view_processes pid).mpr hr) hc
  · rw [he]
    dsimp only [toSyscall]
    rw [view_installCap, view_openEndpoint]
    exact .CreateEndpoint cs _ ((kernel.mem_view_processes pid).mpr hr) hc

lemma ipcSend_step (onOk : Unit → SyscallResult)
    (hc : syscall = .Send slot tag data ∨ syscall = .Call slot tag data) :
    SyscallStep pid now kernel.view syscall
      (toSyscall ⟨(kernel.ipcSend pid slot tag data now).1,
        (kernel.ipcSend pid slot tag data now).2.1, []⟩ onOk).result
      (commitTypesOf (kernel.ipcSend pid slot tag data now).2.2.toList)
      (kernel.ipcSend pid slot tag data now).1.view := by
  rcases kernel.ipcSend_cases pid slot tag data now with
    ⟨e, -, he⟩ | ⟨_, ep, _, hv, hg, he, hi⟩
  · rw [he]
    exact .Refused ..
  · obtain ⟨cap, hh, ht, hw, hl, rfl⟩ := (validateSendCap_ok_iff ..).mp hv
    rw [he]
    rw [hi]
    exact .Send syscall _ slot tag data cap ep.view hc hh ht hw hl (kernel.view_endpoints_of_get hg)

lemma handleSendWithCaps_step :
    SyscallStep pid now kernel.view (.SendWithCaps slot tag data slots)
      (kernel.handleSendWithCaps pid slot tag data slots now).result
      (commitTypesOf (kernel.handleSendWithCaps pid slot tag data slots now).commits)
      (kernel.handleSendWithCaps pid slot tag data slots now).kernel.view := by
  unfold handleSendWithCaps
  rcases kernel.ipcSendWithCaps_cases pid slot tag data slots now with
    ⟨e, he⟩ | ⟨_, ep, cs, _, -, hv, hg, hc, -, he, hi⟩
  · rw [he]
    exact .Refused ..
  · obtain ⟨cap, hh, ht, hw, rfl⟩ := (validateSendCapBasic_ok_iff ..).mp hv
    rw [he]
    dsimp only [toSyscall]
    rw [hi, commitTypesOf, List.map_map]
    exact .SendWithCaps slot tag data slots cap ep.view cs hh ht hw
      (kernel.view_endpoints_of_get hg) hc

lemma handleReceive_step :
    SyscallStep pid now kernel.view (.Receive slot) (kernel.handleReceive pid slot now).result
      (commitTypesOf (kernel.handleReceive pid slot now).commits)
      (kernel.handleReceive pid slot now).kernel.view := by
  unfold handleReceive
  rcases kernel.ipcReceive_cases pid slot now with
    ⟨e, -, he⟩ | ⟨eid, ep, -, -, -, he⟩ |
    ⟨eid, ep, msg, rest, _, hv, hg, hq, he, hi⟩
  · rw [he]
    exact .Refused ..
  · rw [he]
    exact .Empty slot
  · obtain ⟨cap, hh, ht, hr, hl, rfl⟩ := (validateReceiveCap_ok_iff ..).mp hv
    rw [he]
    dsimp only [toSyscall]
    rw [hi]
    exact .Receive slot cap ep.view msg rest hh ht hr hl (kernel.view_endpoints_of_get hg) hq

lemma handleCapGrant_step :
    SyscallStep pid now kernel.view (.CapGrant slot toPid perms)
      (kernel.handleCapGrant pid slot toPid perms now).result
      (commitTypesOf (kernel.handleCapGrant pid slot toPid perms now).commits)
      (kernel.handleCapGrant pid slot toPid perms now).kernel.view := by
  unfold handleCapGrant
  rcases kernel.grantCapability_cases pid slot toPid perms now with
    ⟨e, -, he⟩ | ⟨source, hv, hc, he⟩ | ⟨source, cs, hv, hc, he⟩
  · rw [he]
    exact .Refused ..
  · rw [he]
    exact .BurnId slot toPid perms source ((validateGrantSource_ok_iff ..).mp hv).1 hc
  · obtain ⟨hh, hg, hl⟩ := (validateGrantSource_ok_iff ..).mp hv
    rw [he]
    exact .CapGrant slot toPid perms source cs hh hg hl hc

lemma handleCapDerive_step :
    SyscallStep pid now kernel.view (.CapDerive slot perms)
      (kernel.handleCapDerive pid slot perms now).result
      (commitTypesOf (kernel.handleCapDerive pid slot perms now).commits)
      (kernel.handleCapDerive pid slot perms now).kernel.view := by
  unfold handleCapDerive
  rcases kernel.deriveCapability_cases pid slot perms now with
    ⟨e, -, he⟩ | ⟨source, cs, hv, hc, he⟩
  · rw [he]
    exact .Refused ..
  · obtain ⟨hh, hl⟩ := (validateDeriveSource_ok_iff ..).mp hv
    rw [he]
    exact .CapDerive slot perms source cs hh hl hc

lemma handleCapRevoke_step :
    SyscallStep pid now kernel.view (.CapRevoke slot) (kernel.handleCapRevoke pid slot now).result
      (commitTypesOf (kernel.handleCapRevoke pid slot now).commits)
      (kernel.handleCapRevoke pid slot now).kernel.view := by
  unfold handleCapRevoke
  rcases kernel.revokeCapability_cases pid slot now with
    ⟨e, he⟩ | ⟨cap, cs, hc, hg, -, -, he⟩
  · rw [he]
    exact .Refused ..
  · rw [he]
    exact .CapRemove _ slot cap cs (.inl rfl) hc hg

lemma handleCapDelete_step :
    SyscallStep pid now kernel.view (.CapDelete slot) (kernel.handleCapDelete pid slot now).result
      (commitTypesOf (kernel.handleCapDelete pid slot now).commits)
      (kernel.handleCapDelete pid slot now).kernel.view := by
  unfold handleCapDelete
  rcases kernel.deleteCapability_cases pid slot now with
    ⟨e, -, he⟩ | ⟨cap, cs, hc, hg, he⟩
  · rw [he]
    exact .Refused ..
  · rw [he]
    exact .CapRemove _ slot cap cs (.inr rfl) hc hg

lemma handleKill_step :
    SyscallStep pid now kernel.view (.Kill target) (kernel.handleKill pid target now).result
      (commitTypesOf (kernel.handleKill pid target now).commits)
      (kernel.handleKill pid target now).kernel.view := by
  unfold handleKill
  rcases kernel.killProcessWithCapCheck_cases pid target now with
    ⟨e, -, he⟩ | ⟨hm, hp, he⟩
  · rw [he]
    exact .Refused ..
  · rw [he]
    dsimp only [toSyscall]
    rw [view_killProcess, killProcess_commits, if_pos hm, commitTypesOf, List.map_append,
      List.map_map]
    refine .Kill target (kernel.ownedEndpoints target) ((kernel.mem_view_processes ..).mpr hm)
      ?_ (kernel.owned_ownedEndpoints _)
    exact hp.imp_right (kernel.hasKillPermission_iff ..).mp

lemma dispatchSyscall_step :
    SyscallStep pid now kernel.view syscall (kernel.dispatchSyscall pid syscall now).result
      (commitTypesOf (kernel.dispatchSyscall pid syscall now).commits)
      (kernel.dispatchSyscall pid syscall now).kernel.view := by
  cases syscall with
  | CreateEndpoint => exact kernel.handleCreateEndpoint_step ..
  | Send _ tag => exact kernel.ipcSend_step pid _ _ tag _ now _ (.inl rfl)
  | Call _ tag => exact kernel.ipcSend_step pid _ _ tag _ now _ (.inr rfl)
  | SendWithCaps => exact kernel.handleSendWithCaps_step ..
  | Receive => exact kernel.handleReceive_step ..
  | CapGrant => exact kernel.handleCapGrant_step ..
  | CapDerive => exact kernel.handleCapDerive_step ..
  | CapRevoke => exact kernel.handleCapRevoke_step ..
  | CapDelete => exact kernel.handleCapDelete_step ..
  | Exit code =>
    have hs := @SyscallStep.Exit pid now kernel.view code
    rw [← view_handleExit kernel pid] at hs
    exact hs
  | Kill => exact kernel.handleKill_step ..
  | Debug | ListCaps | ListProcesses | GetTime | Yield | CapInspect => exact .Query _ _ trivial

lemma handleSyscall_step :
    SyscallStep pid now kernel.view syscall (kernel.handleSyscall pid syscall now).result
      (commitTypesOf (kernel.handleSyscall pid syscall now).commits)
      (kernel.handleSyscall pid syscall now).kernel.view := by
  have hs := (kernel.updateSyscallMetrics pid now).dispatchSyscall_step pid syscall now
  rwa [view_updateSyscallMetrics] at hs

end KernelCore

end ZeroOS
