import ZeroOS.Kernel.Syscall

/-!
The kernel without its metrics.
-/

namespace ZeroOS

structure ProcessView where
  pid : ProcessId
  name : String
  state : ProcessState
deriving DecidableEq

structure EndpointView where
  id : EndpointId
  owner : ProcessId
  queue : List Message
deriving DecidableEq

structure KernelView where
  processes : BTreeMap ProcessId ProcessView
  capSpaces : CapSpaces
  endpoints : BTreeMap EndpointId EndpointView
  nextPid : UInt64
  nextEndpointId : UInt64
  nextCapId : UInt64
deriving DecidableEq

def Process.view (process : Process) : ProcessView :=
  ⟨process.pid, process.name, process.state⟩

def Endpoint.view (endpoint : Endpoint) : EndpointView :=
  ⟨endpoint.id, endpoint.owner, endpoint.pendingMessages⟩

def KernelCore.view (kernel : KernelCore) : KernelView where
  processes := kernel.processes.map fun _ process => process.view
  capSpaces := kernel.capSpaces
  endpoints := kernel.endpoints.map fun _ endpoint => endpoint.view
  nextPid := kernel.nextPid
  nextEndpointId := kernel.nextEndpointId
  nextCapId := kernel.nextCapId

namespace KernelView

variable (view : KernelView) (pid : ProcessId)

-- A fresh process with an empty space. `nextPid` is set by the caller.
def addProcess (name : String) (nextPid : UInt64) : KernelView :=
  { view with
    processes := view.processes.insert pid ⟨pid, name, .Running⟩
    capSpaces := view.capSpaces.insert pid CapabilitySpace.new
    nextPid }

def exitProcess : KernelView :=
  { view with processes := view.processes.modify pid fun process =>
      { process with state := .Zombie } }

def dropProcess : KernelView :=
  { view with
    processes := view.processes.erase pid
    capSpaces := view.capSpaces.erase pid
    endpoints := view.endpoints.filter fun _ endpoint => endpoint.owner != pid }

def burnCapId : KernelView :=
  { view with nextCapId := view.nextCapId + 1 }

def putSpace (cspace : CapabilitySpace) : KernelView :=
  { view with capSpaces := view.capSpaces.insert pid cspace }

def addEndpoint (owner : ProcessId) : KernelView :=
  { view with
    nextEndpointId := view.nextEndpointId + 1
    endpoints := view.endpoints.insert view.nextEndpointId ⟨view.nextEndpointId, owner, []⟩ }

-- An endpoint is put into the table and taken out again.
def failEndpoint : KernelView :=
  { view with
    nextEndpointId := view.nextEndpointId + 1
    endpoints := view.endpoints.erase view.nextEndpointId }

def setQueue (eid : EndpointId) (queue : List Message) : KernelView :=
  { view with endpoints := view.endpoints.modify eid fun endpoint => { endpoint with queue } }

end KernelView

end ZeroOS
