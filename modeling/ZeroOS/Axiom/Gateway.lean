import ZeroOS.Axiom.CommitLog
import ZeroOS.Lib.Slice

/-!
The gateway pairs the syscall audit log with the commit log.
-/

namespace ZeroOS

open Slice

-- The four argument words of a raw syscall.
abbrev SyscallArgs := Vector UInt32 4

def SyscallArgs.zero : SyscallArgs := #v[0, 0, 0, 0]

-- The words of the array that calls read, by their index.

def SyscallArgs.word0 (args : SyscallArgs) : UInt32 := args[0]

def SyscallArgs.word1 (args : SyscallArgs) : UInt32 := args[1]

def SyscallArgs.word2 (args : SyscallArgs) : UInt32 := args[2]

inductive SysEventType where
  | Request (syscallNum : UInt32) (args : SyscallArgs)
  | Response (requestId : EventId) (result : Int64)
deriving DecidableEq

structure SysEvent where
  id : EventId
  sender : ProcessId
  timestamp : UInt64
  eventType : SysEventType
deriving DecidableEq

def MAX_SYSLOG_EVENTS : Nat := 10000

structure SysLog where
  events : List SysEvent
  nextId : EventId

namespace SysLog

def new : SysLog := ⟨[], 0⟩

variable (log : SysLog) (sender : ProcessId) (timestamp : UInt64)

def trimIfNeeded : SysLog :=
  if log.events.length > MAX_SYSLOG_EVENTS then
    { log with events := log.events.drop (log.events.length - MAX_SYSLOG_EVENTS) }
  else log

def logEvent (eventType : SysEventType) : SysLog :=
  trimIfNeeded
    { events := log.events ++ [{ id := log.nextId, sender, timestamp, eventType }],
      nextId := log.nextId + 1 }

def logRequest (syscallNum : UInt32) (args : SyscallArgs) (timestamp : UInt64) : EventId × SysLog :=
  (log.nextId, log.logEvent sender timestamp (.Request syscallNum args))

def logResponse (requestId : EventId) (result : Int64) (timestamp : UInt64) : SysLog :=
  log.logEvent sender timestamp (.Response requestId result)

lemma logEvent_events :
    (log.logEvent sender timestamp eventType).events =
      recent MAX_SYSLOG_EVENTS (log.events ++ [⟨log.nextId, sender, timestamp, eventType⟩]) := by
  unfold logEvent trimIfNeeded
  generalize MAX_SYSLOG_EVENTS = cap
  split
  case isTrue => rfl
  case isFalse hf => exact (recent_of_length_le (Nat.le_of_not_lt hf)).symm

lemma logEvent_nextId : (log.logEvent sender timestamp eventType).nextId = log.nextId + 1 := by
  unfold logEvent trimIfNeeded
  split
  case isTrue => rfl
  case isFalse => rfl

end SysLog

structure AxiomGateway where
  syslog : SysLog
  commitlog : CommitLog

namespace AxiomGateway

def new (timestamp : UInt64) : AxiomGateway := ⟨SysLog.new, CommitLog.new timestamp⟩

def appendInternalCommit (gateway : AxiomGateway) (commitType : CommitType)
    (timestamp : UInt64) : AxiomGateway :=
  { gateway with commitlog := gateway.commitlog.append commitType none timestamp }

-- The loop in which the callers append what one operation returned.
def appendAll (gateway : AxiomGateway) (commitTypes : List CommitType)
    (timestamp : UInt64) : AxiomGateway :=
  commitTypes.foldl (fun gateway commitType => gateway.appendInternalCommit commitType timestamp)
    gateway

variable (gateway : AxiomGateway) (commitTypes : List CommitType) (timestamp : UInt64)

lemma commitlog_appendAll {first second : AxiomGateway} (hl : first.commitlog = second.commitlog)
    (commitTypes : List CommitType) (timestamp : UInt64) :
    (first.appendAll commitTypes timestamp).commitlog =
      (second.appendAll commitTypes timestamp).commitlog := by
  induction commitTypes generalizing first second with
  | nil => exact hl
  | cons _ _ ih =>
    refine ih ?_
    simp only [appendInternalCommit, hl]

lemma commitTypes_appendAll (hf : gateway.commitlog.commitTypes.length ≤ MAX_COMMITLOG_ENTRIES) :
    (gateway.appendAll commitTypes timestamp).commitlog.commitTypes =
      recent MAX_COMMITLOG_ENTRIES (gateway.commitlog.commitTypes ++ commitTypes) := by
  induction commitTypes generalizing gateway with
  | nil => rw [List.append_nil, recent_of_length_le hf, appendAll, List.foldl_nil]
  | cons commitType rest ih =>
    have hn : (gateway.appendInternalCommit commitType timestamp).commitlog.commitTypes =
        recent MAX_COMMITLOG_ENTRIES (gateway.commitlog.commitTypes ++ [commitType]) := by
      rw [recent, List.length_append]
      exact CommitLog.commitTypes_append _ _ _
    have hr := ih (gateway.appendInternalCommit commitType timestamp) (hn ▸ length_recent_le)
    rw [hn, recent_recent_append, List.append_assoc] at hr
    exact hr

lemma syslog_appendAll : (gateway.appendAll commitTypes timestamp).syslog = gateway.syslog := by
  induction commitTypes generalizing gateway with
  | nil => rfl
  | cons _ _ ih => exact ih _

end AxiomGateway

end ZeroOS
