import ZeroOS.Axiom.Types
import ZeroOS.Lib.Bytes

/-!
The commit log.
-/

namespace ZeroOS

-- A 32-byte hash.
abbrev CommitId := Vector UInt8 32

inductive CommitType where
  | Genesis
  | ProcessCreated (pid parent : ProcessId) (name : String)
  | ProcessExited (pid : ProcessId) (code : Int32)
  | ProcessFaulted (pid : ProcessId) (reason : UInt32) (description : String)
  | CapInserted (pid : ProcessId) (slot : CapSlot) (capId : UInt64) (objectType : UInt8)
      (objectId : UInt64) (perms : UInt8)
  | CapRemoved (pid : ProcessId) (slot : CapSlot)
  | CapGranted (fromPid toPid : ProcessId) (fromSlot toSlot : CapSlot) (newCapId : UInt64)
      (perms : Permissions)
  | EndpointCreated (id : EndpointId) (owner : ProcessId)
  | EndpointDestroyed (id : EndpointId)
  | MessageSent (fromPid : ProcessId) (toEndpoint : EndpointId) (tag : UInt32) (size : Nat)
deriving DecidableEq

structure Commit where
  id : CommitId
  prevCommit : CommitId
  seq : UInt64
  timestamp : UInt64
  commitType : CommitType
  causedBy : Option EventId
deriving DecidableEq

def zeroId : CommitId := Vector.replicate 32 0

-- The form in which the kernel returns a commit: hash, predecessor and sequence
-- number are filled in when it is appended to the log.
def Commit.draft (timestamp : UInt64) (commitType : CommitType) : Commit :=
  { id := zeroId, prevCommit := zeroId, seq := 0, timestamp, commitType, causedBy := none }

namespace Fnv

def OFFSET : UInt64 := 0xcbf29ce484222325

def PRIME : UInt64 := 0x100000001b3

def write (hash : UInt64) (byte : UInt8) : UInt64 := (hash ^^^ byte.toUInt64) * PRIME

def writeAll (hash : UInt64) (bytes : List UInt8) : UInt64 := bytes.foldl write hash

-- Four little-endian words, each the previous one times the prime.
def expand (hash : UInt64) : CommitId :=
  leBytes64 hash ++ leBytes64 (hash * PRIME) ++ leBytes64 (hash * PRIME * PRIME) ++
    leBytes64 (hash * PRIME * PRIME * PRIME)

end Fnv

namespace CommitType

def typeByte : CommitType → UInt8
  | Genesis => 0
  | ProcessCreated .. => 1
  | ProcessExited .. => 2
  | ProcessFaulted .. => 3
  | CapInserted .. => 4
  | CapRemoved .. => 5
  | CapGranted .. => 6
  | EndpointCreated .. => 7
  | EndpointDestroyed .. => 8
  | MessageSent .. => 9

def payload : CommitType → List UInt8
  | Genesis => []
  | ProcessCreated pid parent name =>
    (leBytes64 pid).toList ++ (leBytes64 parent).toList ++ utf8Bytes name
  | ProcessExited pid code => (leBytes64 pid).toList ++ (leBytes32 code.toUInt32).toList
  | ProcessFaulted pid reason description =>
    (leBytes64 pid).toList ++ (leBytes32 reason).toList ++ utf8Bytes description
  | CapInserted pid slot capId objectType objectId perms =>
    (leBytes64 pid).toList ++ (leBytes32 slot).toList ++ (leBytes64 capId).toList ++
      [objectType] ++ (leBytes64 objectId).toList ++ [perms]
  | CapRemoved pid slot => (leBytes64 pid).toList ++ (leBytes32 slot).toList
  | CapGranted fromPid toPid fromSlot toSlot newCapId perms =>
    (leBytes64 fromPid).toList ++ (leBytes64 toPid).toList ++ (leBytes32 fromSlot).toList ++
      (leBytes32 toSlot).toList ++ (leBytes64 newCapId).toList ++ [perms.toByte]
  | EndpointCreated id owner => (leBytes64 id).toList ++ (leBytes64 owner).toList
  | EndpointDestroyed id => (leBytes64 id).toList
  | MessageSent fromPid toEndpoint tag size =>
    (leBytes64 fromPid).toList ++ (leBytes64 toEndpoint).toList ++ (leBytes32 tag).toList ++
      (leBytes64 (UInt64.ofNat size)).toList

end CommitType

-- The bytes that `computeHash` feeds to the hash, in order.
def Commit.hashInput (commit : Commit) : List UInt8 :=
  commit.prevCommit.toList ++ (leBytes64 commit.seq).toList ++
    (leBytes64 commit.timestamp).toList ++ [commit.commitType.typeByte] ++
    commit.commitType.payload

def MAX_COMMITLOG_ENTRIES : Nat := 100000

structure CommitLog where
  commits : List Commit
  nextSeq : UInt64
  lastHash : CommitId

namespace CommitLog

def computeHash (commit : Commit) : CommitId :=
  Fnv.expand (Fnv.writeAll Fnv.OFFSET commit.hashInput)

def new (timestamp : UInt64) : CommitLog :=
  let genesis := Commit.draft timestamp .Genesis
  let id := computeHash genesis
  { commits := [{ genesis with id }], nextSeq := 1, lastHash := id }

variable (log : CommitLog) (commitType : CommitType) (causedBy : Option EventId)

def trimIfNeeded : CommitLog :=
  if log.commits.length > MAX_COMMITLOG_ENTRIES then
    { log with commits := log.commits.drop (log.commits.length - MAX_COMMITLOG_ENTRIES) }
  else log

def append (timestamp : UInt64) : CommitLog :=
  let commit : Commit :=
    { id := zeroId, prevCommit := log.lastHash, seq := log.nextSeq, timestamp, commitType, causedBy }
  let id := computeHash commit
  trimIfNeeded
    { commits := log.commits ++ [{ commit with id }], nextSeq := log.nextSeq + 1, lastHash := id }

-- A saturating subtraction.
def currentSeq : UInt64 := if log.nextSeq = 0 then 0 else log.nextSeq - 1

-- The mutations recorded in the log, oldest first.
def commitTypes : List CommitType := log.commits.map Commit.commitType

lemma commitTypes_append :
    (log.append commitType causedBy now).commitTypes =
      (log.commitTypes ++ [commitType]).drop
        (log.commitTypes.length + 1 - MAX_COMMITLOG_ENTRIES) := by
  simp only [append, trimIfNeeded, commitTypes, List.length_append, List.length_singleton,
    List.length_map]
  split_ifs with hf
  · simp [List.map_drop]
  · rw [Nat.sub_eq_zero_of_le (Nat.le_of_not_lt hf)]
    simp

end CommitLog

end ZeroOS
