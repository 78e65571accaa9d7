import ZeroOS.Axiom.Replay
import ZeroOS.Kernel.System

/-!
The system as a replayable state.
-/

namespace ZeroOS

def mapObjectType (objectType : UInt8) : Except ReplayError ObjectType :=
  if objectType = 1 then .ok .Endpoint
  else if objectType = 2 then .ok .Process
  else if objectType = 3 then .ok .Memory
  else if objectType = 4 then .ok .Irq
  else if objectType = 5 then .ok .IoPort
  else if objectType = 6 then .ok .Console
  else .error (.UnknownObjectType objectType)

def processStateToU8 : ProcessState → UInt8
  | .Running => 0
  | .Blocked => 1
  | .Zombie => 2

def bumpPast {α : Type} [LE α] [DecidableLE α] [Add α] [OfNat α 1] (counter seen : α) : α :=
  if seen ≥ counter then seen + 1 else counter

namespace System

section

variable (system : System) (hasher : StateHasher) (pid : ProcessId)

def replayCreateProcess (name : String) : Except ReplayError System :=
  let process : Process := { pid, name, state := .Running, metrics := {} }
  .ok { system with kernel := { system.kernel with
    processes := system.kernel.processes.insert pid process
    capSpaces := system.kernel.capSpaces.insert pid CapabilitySpace.new
    nextPid := bumpPast system.kernel.nextPid pid } }

-- The process stays in the table, with its capabilities.
def replayExitProcess : Except ReplayError System :=
  match system.kernel.processes[pid]? with
  | none => .error (.ProcessNotFound pid)
  | some process =>
    .ok { system with kernel := { system.kernel with
      processes := system.kernel.processes.insert pid { process with state := .Zombie } } }

def replayInsertCapability (slot : CapSlot) (capId : UInt64) (objectType : UInt8)
    (objectId : UInt64) (perms : UInt8) : Except ReplayError System :=
  match mapObjectType objectType with
  | .error e => .error e
  | .ok objType =>
    let cap : Capability :=
      { id := capId, objectType := objType, objectId, permissions := Permissions.fromByte perms,
        generation := 0, expiresAt := 0 }
    match system.kernel.capSpaces[pid]? with
    | none => .error (.ProcessNotFound pid)
    | some cspace =>
      let cspace := ⟨cspace.slots.insert slot cap, bumpPast cspace.nextSlot slot⟩
      .ok { system with kernel := { system.kernel with
        capSpaces := system.kernel.capSpaces.insert pid cspace
        nextCapId := bumpPast system.kernel.nextCapId capId } }

def replayRemoveCapability (slot : CapSlot) : Except ReplayError System :=
  match system.kernel.capSpaces[pid]? with
  | none => .error (.ProcessNotFound pid)
  | some cspace =>
    let cspace := { cspace with slots := cspace.slots.erase slot }
    .ok { system with kernel := { system.kernel with
      capSpaces := system.kernel.capSpaces.insert pid cspace } }

def replayCapGranted (newCapId : UInt64) : Except ReplayError System :=
  .ok { system with kernel := { system.kernel with
    nextCapId := bumpPast system.kernel.nextCapId newCapId } }

def replayCreateEndpoint (id : EndpointId) (owner : ProcessId) : Except ReplayError System :=
  if owner ∉ system.kernel.processes then .error (.ProcessNotFound owner)
  else
    let endpoint : Endpoint := { id, owner, pendingMessages := [], metrics := {} }
    .ok { system with kernel := { system.kernel with
      endpoints := system.kernel.endpoints.insert id endpoint
      nextEndpointId := bumpPast system.kernel.nextEndpointId id } }

def replayDestroyEndpoint (id : EndpointId) : Except ReplayError System :=
  .ok { system with kernel := { system.kernel with
    endpoints := system.kernel.endpoints.erase id } }

def hashProcess (entry : ProcessId × Process) : StateHasher :=
  ((hasher.writeU64 entry.1).writeStr entry.2.name).writeU8 (processStateToU8 entry.2.state)

def hashCap (entry : CapSlot × Capability) : StateHasher :=
  let cap := entry.2
  ((((((hasher.writeU32 entry.1).writeU64 cap.id).writeU8 cap.objectType.toU8).writeU64
    cap.objectId).writeU8 cap.permissions.toByte).writeU32 cap.generation).writeU64 cap.expiresAt

def hashCapSpace (entry : ProcessId × CapabilitySpace) : StateHasher :=
  entry.2.slots.toList.foldl hashCap
    ((hasher.writeU64 entry.1).writeU64 (UInt64.ofNat entry.2.slots.size))

def hashEndpoint (entry : EndpointId × Endpoint) : StateHasher :=
  (hasher.writeU64 entry.1).writeU64 entry.2.owner

end

def stateHash (system : System) : CommitId :=
  let hasher := StateHasher.new.writeU64 (UInt64.ofNat system.kernel.processes.size)
  let hasher := system.kernel.processes.toList.foldl hashProcess hasher
  let hasher := hasher.writeU64 (UInt64.ofNat system.kernel.capSpaces.size)
  let hasher := system.kernel.capSpaces.toList.foldl hashCapSpace hasher
  let hasher := hasher.writeU64 (UInt64.ofNat system.kernel.endpoints.size)
  let hasher := system.kernel.endpoints.toList.foldl hashEndpoint hasher
  hasher.finalize

-- A fault is replayed as an exit; a message leaves no trace.
instance : Replayable System where
  replayGenesis := .ok
  replayCreateProcess system pid _ name := system.replayCreateProcess pid name
  replayExitProcess system pid _ := system.replayExitProcess pid
  replayProcessFaulted system pid _ _ := system.replayExitProcess pid
  replayInsertCapability := replayInsertCapability
  replayRemoveCapability := replayRemoveCapability
  replayCapGranted system _ _ _ _ newCapId _ := system.replayCapGranted newCapId
  replayCreateEndpoint := replayCreateEndpoint
  replayDestroyEndpoint := replayDestroyEndpoint
  replayMessageSent system _ _ _ _ := .ok system
  stateHash := stateHash

end System

end ZeroOS
