import ZeroOS.Core.State

/-!
The runtime checks of the pure core.
-/

namespace ZeroOS.Core

structure InvariantViolation where
  invariant : String
  description : String
deriving DecidableEq

def spacelessProcess (pid : ProcessId) : InvariantViolation :=
  ⟨"process_capability_consistency",
    "Process " ++ toString pid ++ " exists but has no capability space"⟩

def orphanSpace (pid : ProcessId) : InvariantViolation :=
  ⟨"process_capability_consistency",
    "Capability space exists for non-existent process " ++ toString pid⟩

def unownedEndpoint (eid : EndpointId) (owner : ProcessId) : InvariantViolation :=
  ⟨"endpoint_ownership",
    "Endpoint " ++ toString eid ++ " owned by non-existent process " ++ toString owner⟩

def zombieOwner (eid : EndpointId) (owner : ProcessId) : InvariantViolation :=
  ⟨"endpoint_ownership",
    "Endpoint " ++ toString eid ++ " owned by zombie process " ++ toString owner⟩

-- The two kinds of object that are looked up differ in one word of the text.
def danglingCap (kind : String) (pid : ProcessId) (slot : CapSlot) (objectId : UInt64) :
    InvariantViolation :=
  ⟨"capability_object_validity",
    "Process " ++ toString pid ++ " slot " ++ toString slot ++ " references non-existent " ++ kind ++
      " " ++ toString objectId⟩

def staleCounter (kind : String) (id : UInt64) (counter : String) (next : UInt64) :
    InvariantViolation :=
  ⟨"id_monotonicity",
    kind ++ " " ++ toString id ++ " exists but " ++ counter ++ " is " ++ toString next⟩

namespace KernelState

variable (state : KernelState)

def checkProcessCapabilityConsistency : List InvariantViolation :=
  (state.processes.toList.filterMap fun (pid, _) =>
    if pid ∉ state.capSpaces then some (spacelessProcess pid) else none) ++
  state.capSpaces.toList.filterMap fun (pid, _) =>
    if pid ∉ state.processes then some (orphanSpace pid) else none

def checkEndpointOwnership : List InvariantViolation :=
  state.endpoints.toList.filterMap fun (eid, endpoint) =>
    match state.processes[endpoint.owner]? with
    | none => some (unownedEndpoint eid endpoint.owner)
    | some proc => if proc.state = .Zombie then some (zombieOwner eid endpoint.owner) else none

def checkCapabilityObjectValidity : List InvariantViolation :=
  state.capSpaces.toList.flatMap fun (pid, cspace) =>
    cspace.slots.toList.filterMap fun (slot, cap) =>
      match cap.objectType with
      | .Endpoint =>
        if cap.objectId ∉ state.endpoints then some (danglingCap "endpoint" pid slot cap.objectId)
        else none
      | .Process =>
        if cap.objectId ∉ state.processes then some (danglingCap "process" pid slot cap.objectId)
        else none
      | _ => none

def checkIdMonotonicity : List InvariantViolation :=
  (state.processes.toList.filterMap fun (pid, _) =>
    if pid ≥ state.nextPid then some (staleCounter "Process" pid "next_pid" state.nextPid)
    else none) ++
  (state.endpoints.toList.filterMap fun (eid, _) =>
    if eid ≥ state.nextEndpointId then
      some (staleCounter "Endpoint" eid "next_endpoint_id" state.nextEndpointId)
    else none) ++
  state.capSpaces.toList.flatMap fun (_, cspace) =>
    cspace.slots.toList.filterMap fun (_, cap) =>
      if cap.id ≥ state.nextCapId then
        some (staleCounter "Capability" cap.id "next_cap_id" state.nextCapId)
      else none

def checkAllInvariants : List InvariantViolation :=
  state.checkProcessCapabilityConsistency ++ state.checkEndpointOwnership ++
    state.checkCapabilityObjectValidity ++ state.checkIdMonotonicity

end KernelState

end ZeroOS.Core
