import ZeroOS.Kernel.System.Run

/-!
The part of the kernel that the commit log determines, and replay on it.
-/

namespace ZeroOS

open BTreeMap KernelCore Except

structure Ledger where
  processes : BTreeMap ProcessId ProcessView
  capSpaces : CapSpaces
  endpoints : BTreeMap EndpointId (EndpointId × ProcessId)
  nextPid : UInt64
  nextEndpointId : UInt64

def KernelView.ledger (view : KernelView) : Ledger where
  processes := view.processes
  capSpaces := view.capSpaces
  endpoints := view.endpoints.map fun _ endpoint => (endpoint.id, endpoint.owner)
  nextPid := view.nextPid
  nextEndpointId := view.nextEndpointId

def System.ledger (system : System) : Ledger := system.kernel.view.ledger

namespace Ledger

section

variable (ledger : Ledger) (pid : ProcessId) (slot : CapSlot)

def putSpace (cspace : CapabilitySpace) : Ledger :=
  { ledger with capSpaces := ledger.capSpaces.insert pid cspace }

def createProcess (name : String) : Ledger :=
  { ledger with
    processes := ledger.processes.insert pid ⟨pid, name, .Running⟩
    capSpaces := ledger.capSpaces.insert pid CapabilitySpace.new
    nextPid := bumpPast ledger.nextPid pid }

def exitProcess : Except ReplayError Ledger :=
  if pid ∉ ledger.processes then .error (.ProcessNotFound pid)
  else .ok { ledger with processes := ledger.processes.modify pid fun process =>
      { process with state := .Zombie } }

def insertCapability (cap : Capability) : Except ReplayError Ledger :=
  match ledger.capSpaces[pid]? with
  | none => .error (.ProcessNotFound pid)
  | some cspace =>
    .ok (ledger.putSpace pid ⟨cspace.slots.insert slot cap, bumpPast cspace.nextSlot slot⟩)

def removeCapability : Except ReplayError Ledger :=
  match ledger.capSpaces[pid]? with
  | none => .error (.ProcessNotFound pid)
  | some cspace => .ok (ledger.putSpace pid (cspace.remove slot).2)

def createEndpoint (id : EndpointId) (owner : ProcessId) : Except ReplayError Ledger :=
  if owner ∉ ledger.processes then .error (.ProcessNotFound owner)
  else .ok { ledger with
    endpoints := ledger.endpoints.insert id (id, owner)
    nextEndpointId := bumpPast ledger.nextEndpointId id }

end

def apply (ledger : Ledger) : CommitType → Except ReplayError Ledger
  | .Genesis => .ok ledger
  | .ProcessCreated pid _ name => .ok (ledger.createProcess pid name)
  | .ProcessExited pid _ => ledger.exitProcess pid
  | .ProcessFaulted pid _ _ => ledger.exitProcess pid
  | .CapInserted pid slot capId objectType objectId perms =>
    match mapObjectType objectType with
    | .error e => .error e
    | .ok objectType => ledger.insertCapability pid slot
        ⟨capId, objectType, objectId, Permissions.fromByte perms, 0, 0⟩
  | .CapRemoved pid slot => ledger.removeCapability pid slot
  | .CapGranted .. => .ok ledger
  | .EndpointCreated id owner => ledger.createEndpoint id owner
  | .EndpointDestroyed id => .ok { ledger with endpoints := ledger.endpoints.erase id }
  | .MessageSent .. => .ok ledger

def hashProcess (hasher : StateHasher) (entry : ProcessId × ProcessView) : StateHasher :=
  ((hasher.writeU64 entry.1).writeStr entry.2.name).writeU8 (processStateToU8 entry.2.state)

def hashEndpoint (hasher : StateHasher) (entry : EndpointId × EndpointId × ProcessId) :
    StateHasher :=
  (hasher.writeU64 entry.1).writeU64 entry.2.2

def stateHash (ledger : Ledger) : CommitId :=
  let hasher := StateHasher.new.writeU64 (UInt64.ofNat ledger.processes.size)
  let hasher := ledger.processes.toList.foldl hashProcess hasher
  let hasher := hasher.writeU64 (UInt64.ofNat ledger.capSpaces.size)
  let hasher := ledger.capSpaces.toList.foldl System.hashCapSpace hasher
  let hasher := hasher.writeU64 (UInt64.ofNat ledger.endpoints.size)
  let hasher := ledger.endpoints.toList.foldl hashEndpoint hasher
  hasher.finalize

end Ledger

namespace System

variable (system : System)

lemma ledger_replayExitProcess :
    (system.replayExitProcess pid).map ledger = system.ledger.exitProcess pid := by
  have hm : pid ∈ system.ledger.processes ↔ pid ∈ system.kernel.processes :=
    system.kernel.mem_view_processes pid
  unfold replayExitProcess Ledger.exitProcess
  cases hg : system.kernel.processes[pid]? with
  | none =>
    have hn := not_mem_iff.mpr hg
    rw [if_pos (fun h => hn (hm.mp h))]
    rfl
  | some process =>
    have hi := (mem_iff ..).mpr ⟨process, hg⟩
    rw [if_neg (not_not.mpr (hm.mpr hi)), Except.map]
    simp only [ledger, KernelView.ledger, view]
    rw [insert_eq_modify _ _ (fun process => { process with state := .Zombie }) hg,
      map_modify (fun process => { process with state := .Zombie })]
    exact fun _ => rfl

lemma ledger_replayInsertCapability :
    (system.replayInsertCapability pid slot capId objectType objectId perms).map ledger =
      system.ledger.apply (.CapInserted pid slot capId objectType objectId perms) := by
  unfold replayInsertCapability
  simp only [Ledger.apply, Ledger.insertCapability]
  cases mapObjectType objectType with
  | error => rfl
  | ok =>
    have hc : system.ledger.capSpaces = system.kernel.capSpaces := rfl
    simp only [hc]
    cases system.kernel.capSpaces[pid]? with
    | none | some => rfl

lemma ledger_replayRemoveCapability :
    (system.replayRemoveCapability pid slot).map ledger =
      system.ledger.removeCapability pid slot := by
  have hc : system.ledger.capSpaces = system.kernel.capSpaces := rfl
  unfold replayRemoveCapability Ledger.removeCapability
  rw [hc]
  cases system.kernel.capSpaces[pid]? with
  | none | some => rfl

lemma ledger_replayCreateEndpoint {id : EndpointId} {owner : ProcessId} :
    (system.replayCreateEndpoint id owner).map ledger = system.ledger.createEndpoint id owner := by
  have hm : owner ∈ system.ledger.processes ↔ owner ∈ system.kernel.processes :=
    system.kernel.mem_view_processes owner
  unfold replayCreateEndpoint Ledger.createEndpoint
  by_cases ho : owner ∈ system.kernel.processes
  · rw [if_neg (not_not.mpr ho), if_neg (not_not.mpr (hm.mpr ho)), Except.map]
    simp only [ledger, KernelView.ledger, view, map_insert]
    rfl
  · rw [if_pos ho, if_pos (fun h => ho (hm.mp h))]
    rfl

lemma ledger_applyCommitType :
    (applyCommitType system commit).map ledger = system.ledger.apply commit := by
  cases commit with
  | Genesis | CapGranted | MessageSent => rfl
  | ProcessCreated =>
    change ok _ = ok _
    simp only [ledger, view, map_insert]
    rfl
  | ProcessExited pid | ProcessFaulted pid => exact system.ledger_replayExitProcess
  | CapInserted => exact system.ledger_replayInsertCapability
  | CapRemoved => exact system.ledger_replayRemoveCapability
  | EndpointCreated => exact system.ledger_replayCreateEndpoint
  | EndpointDestroyed =>
    change ok _ = ok _
    simp only [ledger, KernelView.ledger, view, map_erase]

lemma ledger_replay (commits : List Commit) :
    (replay system commits).map ledger =
      (commits.map Commit.commitType).foldlM Ledger.apply system.ledger := by
  rw [replay_eq_foldlM]
  exact Run.foldlM_map Ledger.apply (fun system commit => system.ledger_applyCommitType) system

lemma stateHash_ledger : system.stateHash = system.ledger.stateHash := by
  simp only [Ledger.stateHash, ledger, KernelView.ledger, view,
    Std.ExtTreeMap.toList_map, Std.ExtTreeMap.size_map, List.foldl_map]
  rfl

end System

end ZeroOS
