import ZeroOS.Kernel.Types
import ZeroOS.Axiom.CommitLog

/-!
The kernel core: all mutable state of the kernel.
-/

namespace ZeroOS

abbrev CapSpaces := BTreeMap ProcessId CapabilitySpace

def CapSpaces.capAt (spaces : CapSpaces) (pid : ProcessId) (slot : CapSlot) : Option Capability :=
  spaces[pid]?.bind fun cspace => cspace.get slot

structure KernelCore where
  processes : BTreeMap ProcessId Process
  capSpaces : CapSpaces
  endpoints : BTreeMap EndpointId Endpoint
  nextPid : UInt64
  nextEndpointId : UInt64
  nextCapId : UInt64
  totalIpcCount : UInt64

-- What a mutating method returns: the new state, its result and the commits
-- that describe the mutation.
structure Outcome (α : Type) where
  kernel : KernelCore
  result : Except KernelError α
  commits : List Commit

namespace KernelCore

def new : KernelCore :=
  { processes := ∅, capSpaces := ∅, endpoints := ∅, nextPid := 1, nextEndpointId := 1,
    nextCapId := 1, totalIpcCount := 0 }

variable (kernel : KernelCore) (pid : ProcessId) (bytes : Nat)

-- `next_cap_id`: the id to use, and the state with the counter advanced.
def takeNextCapId : UInt64 × KernelCore :=
  (kernel.nextCapId, { kernel with nextCapId := kernel.nextCapId + 1 })

def allocateMemory : KernelCore × Except KernelError Nat :=
  match kernel.processes[pid]? with
  | none => (kernel, .error .ProcessNotFound)
  | some proc =>
    let memorySize := proc.metrics.memorySize + bytes
    let proc := { proc with metrics := { proc.metrics with memorySize } }
    ({ kernel with processes := kernel.processes.insert pid proc }, .ok memorySize)

def freeMemory : KernelCore × Except KernelError Nat :=
  match kernel.processes[pid]? with
  | none => (kernel, .error .ProcessNotFound)
  | some proc =>
    let memorySize := proc.metrics.memorySize - bytes
    let proc := { proc with metrics := { proc.metrics with memorySize } }
    ({ kernel with processes := kernel.processes.insert pid proc }, .ok memorySize)

def updateProcessMemory (newSize : Nat) : KernelCore :=
  { kernel with processes := kernel.processes.modify pid fun proc =>
      { proc with metrics := { proc.metrics with memorySize := newSize } } }

end KernelCore

def mapAxiomError : AxiomError → KernelError
  | .InvalidSlot => .InvalidCapability
  | .WrongType => .InvalidCapability
  | .InsufficientRights => .PermissionDenied
  | .Expired => .PermissionDenied
  | .ObjectNotFound => .InvalidCapability

end ZeroOS
