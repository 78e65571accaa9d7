import ZeroOS.Kernel.System.Run

/-!
The audit log of raw syscalls.
-/

namespace ZeroOS

open AxiomGateway List SysLog

-- A completed call, as the audit log tells of it.
structure AuditedCall where
  sender : ProcessId
  syscallNum : UInt32
  args : SyscallArgs
  timestamp : UInt64
  result : Int64
deriving DecidableEq

def AuditedCall.events (entry : AuditedCall × Nat) : List SysEvent :=
  let (call, index) := entry
  [⟨UInt64.ofNat (2 * index), call.sender, call.timestamp, .Request call.syscallNum call.args⟩,
    ⟨UInt64.ofNat (2 * index + 1), call.sender, call.timestamp,
      .Response (UInt64.ofNat (2 * index)) call.result⟩]

def SystemOp.rawCall : SystemOp → Option (ProcessId × UInt32 × SyscallArgs)
  | .ProcessSyscall sender syscallNum args _ => some (sender, syscallNum, args)
  | _ => none

namespace System

def audited (system : System) (input : Hal × SystemOp) : List AuditedCall :=
  match input.2 with
  | .ProcessSyscall sender syscallNum args data =>
    [⟨sender, syscallNum, args, system.uptimeNanos input.1,
      (system.processSyscall input.1 sender syscallNum args data).2.1⟩]
  | _ => []

def audit (calls : List AuditedCall) : List SysEvent := calls.zipIdx.flatMap AuditedCall.events

structure AuditHolds (calls : List AuditedCall) (system : System) : Prop where
  nextId : system.gateway.syslog.nextId = UInt64.ofNat (2 * calls.length)
  events : system.gateway.syslog.events = Slice.recent MAX_SYSLOG_EVENTS (audit calls)

lemma audit_append :
    audit (calls ++ [call]) = audit calls ++ AuditedCall.events (call, calls.length) := by
  simp [audit, zipIdx_append]

lemma step_syslog {system : System} (hr : op.rawCall = none) :
    (system.step (hal, op)).gateway.syslog = system.gateway.syslog ∧
      system.audited (hal, op) = [] := by
  cases op with
  | ProcessSyscall => cases hr
  | InjectToInit =>
    simp only [step, injectToInit_eq]
    exact ⟨syslog_appendAll .., rfl⟩
  | DeleteCapabilityWithNotification =>
    simp only [step, deleteCapabilityWithNotification_eq]
    exact ⟨syslog_appendAll .., rfl⟩
  | IpcReceive | AllocateMemory | FreeMemory | UpdateProcessMemory => exact ⟨rfl, rfl⟩
  | _ => exact ⟨syslog_appendAll .., rfl⟩

lemma processSyscall_syslog (system : System) (hal : Hal) (sender : ProcessId)
    (num : UInt32) (args : SyscallArgs) (data : List UInt8) :
    (system.processSyscall hal sender num args data).1.gateway.syslog =
      (system.gateway.syslog.logEvent sender (system.uptimeNanos hal)
        (.Request num args)).logEvent sender (system.uptimeNanos hal)
          (.Response system.gateway.syslog.nextId
            (system.processSyscall hal sender num args data).2.1) := by
  simp only [processSyscall, syslog_appendAll]
  rfl

lemma AuditHolds.processSyscall (hh : AuditHolds calls system)
    (hc : call = ⟨sender, num, args, system.uptimeNanos hal,
      (system.processSyscall hal sender num args data).2.1⟩) :
    AuditHolds (calls ++ [call]) (system.processSyscall hal sender num args data).1 := by
  have hl := system.processSyscall_syslog hal sender num args data
  have hn : UInt64.ofNat (2 * calls.length) + 1 = UInt64.ofNat (2 * calls.length + 1) := by
    rw [UInt64.ofNat_add]
    rfl
  constructor
  · rw [hl, logEvent_nextId, logEvent_nextId, hh.nextId, UInt64.add_assoc,
      length_append, length_singleton, Nat.mul_add, UInt64.ofNat_add]
    rfl
  · rw [hl, logEvent_events, logEvent_events, logEvent_nextId,
      hh.nextId, hh.events, hn, Slice.recent_recent_append, append_assoc,
      Slice.recent_recent_append, audit_append, hc]
    rfl

lemma AuditHolds.other (hh : AuditHolds calls system)
    (hs : (system.step input).gateway.syslog = system.gateway.syslog ∧ system.audited input = []) :
    AuditHolds (calls ++ system.audited input) (system.step input) := by
  obtain ⟨hl, hn⟩ := hs
  rw [hn, append_nil]
  exact ⟨hl ▸ hh.nextId, hl ▸ hh.events⟩

lemma AuditHolds.step (input : Hal × SystemOp) (hh : AuditHolds calls system) :
    AuditHolds (calls ++ system.audited input) (system.step input) := by
  obtain ⟨hal, op⟩ := input
  cases op with
  | ProcessSyscall => exact hh.processSyscall rfl
  | _ => exact hh.other (step_syslog rfl)

lemma rawCalls_of_run :
    (Run.observed step audited system inputs).map
        (fun call => (call.sender, call.syscallNum, call.args)) =
      inputs.filterMap (fun input => input.2.rawCall) := by
  induction inputs generalizing system with
  | nil => rfl
  | cons input _ ih =>
    rw [Run.observed, map_append, ih, filterMap_cons]
    obtain ⟨_, op⟩ := input
    cases op with
    | _ => rfl

-- The log holds the last five thousand completed calls, or all of them while there are no
-- more, each as a request and the response to it; and these are the calls that were made.
theorem syslog_pairs_of_run (boot : Hal) (inputs : List (Hal × SystemOp)) :
    let calls := Run.observed step audited (System.new boot) inputs
    (Run.run step (System.new boot) inputs).gateway.syslog.events =
        (calls.zipIdx.drop (calls.length - 5000)).flatMap AuditedCall.events ∧
      calls.map (fun call => (call.sender, call.syscallNum, call.args)) =
        inputs.filterMap (fun input => input.2.rawCall) := by
  intro calls
  have hh : AuditHolds calls (Run.run step (System.new boot) inputs) :=
    Run.run_observed_invariant step (fun _ _ => True) audited AuditHolds
      (fun _ _ input hh _ => hh.step input) ⟨rfl, rfl⟩
      (Run.along_of_forall _ (fun _ _ => trivial) _)
  have hp := Slice.recent_flatMap (f := AuditedCall.events) (fun _ => (rfl : _ = 2)) 5000
    calls.zipIdx
  have hc : MAX_SYSLOG_EVENTS = 2 * 5000 := rfl
  refine ⟨?_, rawCalls_of_run⟩
  rw [hh.events, hc, audit, hp, Slice.recent, length_zipIdx]

end System

end ZeroOS
