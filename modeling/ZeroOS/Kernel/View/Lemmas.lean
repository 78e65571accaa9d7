import ZeroOS.Kernel.View

namespace ZeroOS

open BTreeMap

namespace CapSpaces

lemma capAt_eq_some_iff {spaces : CapSpaces} :
    spaces.capAt pid slot = some cap ↔ ∃ cs, spaces[pid]? = some cs ∧ cs.get slot = some cap :=
  Option.bind_eq_some_iff

lemma capAt_of_get {spaces : CapSpaces} (hc : spaces[pid]? = some cs) (slot : CapSlot) :
    spaces.capAt pid slot = cs.get slot := by
  simp [capAt, hc]

lemma capAt_insert (spaces : CapSpaces) (pid other : ProcessId) (cs : CapabilitySpace)
    (slot : CapSlot) :
    capAt (spaces.insert pid cs) other slot =
      if pid = other then cs.get slot else spaces.capAt other slot := by
  by_cases he : pid = other
  · subst other
    simp [capAt]
  · simp only [capAt, get_insert_ne he, he, ite_false]

lemma capAt_erase {spaces : CapSpaces} :
    capAt (spaces.erase pid) other slot =
      if pid = other then none else spaces.capAt other slot := by
  by_cases he : pid = other
  · subst other
    simp [capAt]
  · simp only [capAt, get_erase_ne _ he, he, ite_false]

end CapSpaces

namespace CapabilitySpace

lemma get_insert (cs : CapabilitySpace) (cap : Capability) (slot : CapSlot) :
    (cs.insert cap).2.get slot = if cs.nextSlot = slot then some cap else cs.get slot :=
  BTreeMap.get_insert _ _ _ _

lemma get_remove {cs : CapabilitySpace} :
    (cs.remove slot).2.get other = if slot = other then none else cs.get other :=
  get_erase _ _ _

end CapabilitySpace

namespace KernelCore

variable (kernel : KernelCore)

@[simp] lemma view_capSpaces : kernel.view.capSpaces = kernel.capSpaces := rfl

@[simp] lemma view_nextEndpointId : kernel.view.nextEndpointId = kernel.nextEndpointId := rfl

@[simp] lemma view_nextCapId : kernel.view.nextCapId = kernel.nextCapId := rfl

variable (pid fromPid : ProcessId) (eid : EndpointId) (bytes dataLen : Nat) (now : UInt64)

@[simp] lemma view_endpoints_get :
    kernel.view.endpoints[eid]? = kernel.endpoints[eid]?.map Endpoint.view :=
  get_map _ _ _

lemma view_endpoints_of_get {eid : EndpointId} (hg : kernel.endpoints[eid]? = some ep) :
    kernel.view.endpoints[eid]? = some ep.view := by
  rw [view_endpoints_get, hg]
  rfl

@[simp] lemma mem_view_processes : pid ∈ kernel.view.processes ↔ pid ∈ kernel.processes := by
  simp [KernelCore.view]

@[simp] lemma mem_view_endpoints : eid ∈ kernel.view.endpoints ↔ eid ∈ kernel.endpoints := by
  simp [KernelCore.view]

@[simp] lemma view_new : KernelCore.new.view =
    { processes := ∅, capSpaces := ∅, endpoints := ∅, nextPid := 1, nextEndpointId := 1,
      nextCapId := 1 } := by
  rfl

-- Whatever only touches metrics leaves the view alone.

@[simp] lemma view_updateSyscallMetrics :
    (kernel.updateSyscallMetrics fromPid now).view = kernel.view := by
  simp only [view, updateSyscallMetrics]
  rw [map_modify_of_same]
  exact fun _ => rfl

@[simp] lemma view_updateReceiveMetrics :
    (kernel.updateReceiveMetrics pid dataLen now).view = kernel.view := by
  simp only [view, updateReceiveMetrics]
  rw [map_modify_of_same]
  exact fun _ => rfl

@[simp] lemma view_updateSendMetrics :
    (kernel.updateSendMetrics fromPid eid dataLen now).view = kernel.view := by
  simp only [view, updateSendMetrics]
  rw [map_modify_of_same, map_modify_of_same]
  · exact fun _ => rfl
  · exact fun _ => rfl

@[simp] lemma view_updateProcessMemory :
    (kernel.updateProcessMemory pid newSize).view = kernel.view := by
  simp only [view, updateProcessMemory]
  rw [map_modify_of_same]
  exact fun _ => rfl

lemma view_putMetrics (hg : kernel.processes[pid]? = some process) :
    ({ kernel with processes := kernel.processes.insert pid { process with metrics } }).view =
      kernel.view := by
  simp only [view]
  rw [insert_eq_modify _ _ (fun process => { process with metrics }) hg, map_modify_of_same]
  exact fun _ => rfl

lemma view_allocateMemory : (kernel.allocateMemory pid bytes).1.view = kernel.view := by
  unfold allocateMemory
  split
  · rfl
  · exact view_putMetrics _ _ ‹_›

lemma view_freeMemory : (kernel.freeMemory pid bytes).1.view = kernel.view := by
  unfold freeMemory
  split
  · rfl
  · exact view_putMetrics _ _ ‹_›

lemma view_putEndpoint (ep changed : Endpoint) (queue : List Message)
    (hg : kernel.endpoints[eid]? = some ep) (hv : changed.view = { ep.view with queue }) :
    ({ kernel with endpoints := kernel.endpoints.insert eid changed }).view =
      kernel.view.setQueue eid queue := by
  have ho : kernel.view.endpoints[eid]? = some ep.view := by simp [hg]
  have hn := insert_eq_modify kernel.view.endpoints eid (fun ep => { ep with queue }) ho
  simp only [view, KernelView.setQueue, map_insert, hv] at hn ⊢
  rw [hn]

end KernelCore

end ZeroOS
