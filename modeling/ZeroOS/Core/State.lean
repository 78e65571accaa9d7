import ZeroOS.Core.Types
import ZeroOS.Kernel.Core

/-!
The state of the pure kernel core and its helpers.
-/

namespace ZeroOS.Core

structure KernelState where
  processes : BTreeMap ProcessId Process
  capSpaces : CapSpaces
  endpoints : BTreeMap EndpointId Endpoint
  nextPid : UInt64
  nextEndpointId : UInt64
  nextCapId : UInt64
  totalIpcCount : UInt64

namespace KernelState

def new : KernelState :=
  { processes := ∅, capSpaces := ∅, endpoints := ∅, nextPid := 1, nextEndpointId := 1,
    nextCapId := 1, totalIpcCount := 0 }

variable (state : KernelState)

def allocPid : ProcessId × KernelState :=
  (state.nextPid, { state with nextPid := state.nextPid + 1 })

def allocEndpointId : EndpointId × KernelState :=
  (state.nextEndpointId, { state with nextEndpointId := state.nextEndpointId + 1 })

def allocCapId : UInt64 × KernelState :=
  (state.nextCapId, { state with nextCapId := state.nextCapId + 1 })

def registerProcess (name : String) (timestamp : UInt64) : ProcessId × KernelState :=
  let (pid, state) := state.allocPid
  let process : Process := { pid, name, state := .Running, metrics := { startTimeNs := timestamp } }
  (pid, { state with
    processes := state.processes.insert pid process
    capSpaces := state.capSpaces.insert pid CapabilitySpace.new })

def killProcess (pid : ProcessId) : KernelState :=
  { state with processes := state.processes.modify pid fun proc => { proc with state := .Zombie } }

def processExists (pid : ProcessId) : Bool :=
  (state.processes[pid]?.map fun p => p.state != .Zombie).getD false

def updateSyscallMetrics (pid : ProcessId) (timestamp : UInt64) : KernelState :=
  { state with processes := state.processes.modify pid fun proc =>
      { proc with metrics := { proc.metrics with
          syscallCount := proc.metrics.syscallCount + 1
          lastActiveNs := timestamp } } }

-- `get_cap_space_mut(pid).map(|cs| cs.insert(cap)).unwrap_or(0)`
def insertCap (pid : ProcessId) (cap : Capability) : CapSlot × KernelState :=
  match state.capSpaces[pid]? with
  | none => (0, state)
  | some cspace =>
    let (slot, cspace) := cspace.insert cap
    (slot, { state with capSpaces := state.capSpaces.insert pid cspace })

-- `get_cap_space_mut(pid).and_then(|cs| cs.remove(slot))`
def removeCap (pid : ProcessId) (slot : CapSlot) : Option Capability × KernelState :=
  match state.capSpaces[pid]? with
  | none => (none, state)
  | some cspace =>
    let (removed, cspace) := cspace.remove slot
    (removed, { state with capSpaces := state.capSpaces.insert pid cspace })

end KernelState

end ZeroOS.Core
