import ZeroOS.Axiom.CommitLog

/-!
Deterministic replay: a commit log is folded over a fresh state.
-/

namespace ZeroOS

inductive ReplayError where
  | InvalidCommit (message : String)
  | ProcessNotFound (pid : ProcessId)
  | EndpointNotFound (id : EndpointId)
  | CapabilityError (message : String)
  | HashMismatch (expected actual : CommitId)
  | UnknownObjectType (objectType : UInt8)
deriving DecidableEq

class Replayable (σ : Type) where
  replayGenesis : σ → Except ReplayError σ
  replayCreateProcess : σ → ProcessId → ProcessId → String → Except ReplayError σ
  replayExitProcess : σ → ProcessId → Int32 → Except ReplayError σ
  replayProcessFaulted : σ → ProcessId → UInt32 → String → Except ReplayError σ
  replayInsertCapability : σ → ProcessId → CapSlot → UInt64 → UInt8 → UInt64 → UInt8 →
    Except ReplayError σ
  replayRemoveCapability : σ → ProcessId → CapSlot → Except ReplayError σ
  replayCapGranted : σ → ProcessId → ProcessId → CapSlot → CapSlot → UInt64 → Permissions →
    Except ReplayError σ
  replayCreateEndpoint : σ → EndpointId → ProcessId → Except ReplayError σ
  replayDestroyEndpoint : σ → EndpointId → Except ReplayError σ
  replayMessageSent : σ → ProcessId → EndpointId → UInt32 → Nat → Except ReplayError σ
  stateHash : σ → CommitId

variable {σ : Type} [Replayable σ]

open Replayable in
def applyCommitType (state : σ) : CommitType → Except ReplayError σ
  | .Genesis => replayGenesis state
  | .ProcessCreated pid parent name => replayCreateProcess state pid parent name
  | .ProcessExited pid code => replayExitProcess state pid code
  | .ProcessFaulted pid reason description => replayProcessFaulted state pid reason description
  | .CapInserted pid slot capId objectType objectId perms =>
    replayInsertCapability state pid slot capId objectType objectId perms
  | .CapRemoved pid slot => replayRemoveCapability state pid slot
  | .CapGranted fromPid toPid fromSlot toSlot newCapId perms =>
    replayCapGranted state fromPid toPid fromSlot toSlot newCapId perms
  | .EndpointCreated id owner => replayCreateEndpoint state id owner
  | .EndpointDestroyed id => replayDestroyEndpoint state id
  | .MessageSent fromPid toEndpoint tag size => replayMessageSent state fromPid toEndpoint tag size

def applyCommit (state : σ) (commit : Commit) : Except ReplayError σ :=
  applyCommitType state commit.commitType

def replay (state : σ) (commits : List Commit) : Except ReplayError σ :=
  commits.foldlM applyCommit state

lemma replay_eq_foldlM {state : σ} :
    replay state commits = (commits.map Commit.commitType).foldlM applyCommitType state := by
  rw [List.foldlM_map]
  rfl

structure StateHasher where
  hash : UInt64

namespace StateHasher

def new : StateHasher := ⟨Fnv.OFFSET⟩

variable (hasher : StateHasher)

def writeU8 (v : UInt8) : StateHasher := ⟨Fnv.write hasher.hash v⟩

-- The loop of the writers below. No length is written.
def writeEach (bytes : List UInt8) : StateHasher :=
  bytes.foldl writeU8 hasher

def writeU32 (v : UInt32) : StateHasher :=
  hasher.writeEach (leBytes32 v).toList

def writeU64 (v : UInt64) : StateHasher :=
  hasher.writeEach (leBytes64 v).toList

-- The length goes first.
def writeStr (s : String) : StateHasher :=
  (hasher.writeU64 (UInt64.ofNat (utf8Bytes s).length)).writeEach (utf8Bytes s)

def finalize : CommitId := Fnv.expand hasher.hash

end StateHasher

end ZeroOS
