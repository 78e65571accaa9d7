import ZeroOS.Kernel.Effect.Lemmas

/-!
Raw syscalls as kernel operations.
-/

namespace ZeroOS

open Permissions

inductive RawCall where
  | Nothing
  | Single (op : Op)
  | CreateEndpointFor (target : ProcessId)
  | Receive (slot : CapSlot)

-- The name under which 0x17 registers a process, once its payload has passed every check.
def spawnName (data : List UInt8) : Option String :=
  match splitPrefixed data with
  | none => none
  | some (nameBytes, binary) =>
    match fromUtf8 nameBytes with
    | none => none
    | some name => if binary = [] then none else some name

def RawCall.decode (sender : ProcessId) (syscallNum : UInt32) (args : SyscallArgs)
    (data : List UInt8) : RawCall :=
  if syscallNum = 0x11 then .Single (.KillProcess sender)
  else if syscallNum = 0x13 then .Single (.KillProcessWithCapCheck sender args.word0.toUInt64)
  else if syscallNum = 0x14 then
    if sender = 1 then .Single (.RegisterProcess ((fromUtf8 data).getD "unknown")) else .Nothing
  else if syscallNum = 0x15 then
    if sender = 1 then .CreateEndpointFor args.word0.toUInt64 else .Nothing
  else if syscallNum = 0x17 then
    if sender = 1 then
      match spawnName data with
      | some name => .Single (.RegisterProcess name)
      | none => .Nothing
    else .Nothing
  else if syscallNum = 0x30 then
    .Single (.GrantCapability sender args.word0 args.word1.toUInt64
      (Permissions.fromByte args.word2.toUInt8))
  else if syscallNum = 0x31 then .Single (.DeleteCapability args.word0.toUInt64 args.word1)
  else if syscallNum = 0x35 then .Single (.CreateEndpoint sender)
  else if syscallNum = 0x40 then .Single (.IpcSend sender args.word0 args.word1 data)
  else if syscallNum = 0x41 then .Receive args.word0
  else .Nothing

namespace RawCall

-- The numbers that stand for some work of the kernel.
def numbers : List UInt32 := [0x11, 0x13, 0x14, 0x15, 0x17, 0x30, 0x31, 0x35, 0x40, 0x41]

-- The decoder as a table, for reasoning by cases.
inductive Decodes (sender : ProcessId) (args : SyscallArgs) (data : List UInt8) :
    UInt32 → RawCall → Prop where
  | Exit : Decodes sender args data 0x11 (.Single (.KillProcess sender))
  | Kill : Decodes sender args data 0x13
      (.Single (.KillProcessWithCapCheck sender args.word0.toUInt64))
  | Register (hinit : sender = 1) : Decodes sender args data 0x14
      (.Single (.RegisterProcess ((fromUtf8 data).getD "unknown")))
  | NoRegister (hinit : sender ≠ 1) : Decodes sender args data 0x14 .Nothing
  | EndpointFor (hinit : sender = 1) : Decodes sender args data 0x15
      (.CreateEndpointFor args.word0.toUInt64)
  | NoEndpointFor (hinit : sender ≠ 1) : Decodes sender args data 0x15 .Nothing
  | Spawn (name : String) (hinit : sender = 1) (hname : spawnName data = some name) :
      Decodes sender args data 0x17 (.Single (.RegisterProcess name))
  | NoSpawn (hrefused : sender = 1 → spawnName data = none) : Decodes sender args data 0x17 .Nothing
  | Grant : Decodes sender args data 0x30 (.Single (.GrantCapability sender args.word0
      args.word1.toUInt64 (Permissions.fromByte args.word2.toUInt8)))
  | Delete : Decodes sender args data 0x31 (.Single (.DeleteCapability args.word0.toUInt64 args.word1))
  | CreateEndpoint : Decodes sender args data 0x35 (.Single (.CreateEndpoint sender))
  | Send : Decodes sender args data 0x40 (.Single (.IpcSend sender args.word0 args.word1 data))
  | Receive : Decodes sender args data 0x41 (.Receive args.word0)
  | Other (syscallNum : UInt32) (hother : syscallNum ∉ numbers) :
      Decodes sender args data syscallNum .Nothing

lemma decodes (sender : ProcessId) (num : UInt32) (args : SyscallArgs) (data : List UInt8) :
    Decodes sender args data num (.decode sender num args data) := by
  unfold decode
  by_cases h11 : num = 0x11
  · rw [if_pos h11]
    exact h11 ▸ .Exit
  by_cases h13 : num = 0x13
  · rw [if_pos h13]
    exact h13 ▸ .Kill
  rw [if_neg h13]
  by_cases h14 : num = 0x14
  · rw [if_pos h14]
    by_cases hi : sender = 1
    · rw [if_pos hi]
      exact h14 ▸ .Register hi
    · rw [if_neg hi]
      exact h14 ▸ .NoRegister hi
  by_cases h15 : num = 0x15
  · rw [if_neg h14, if_pos h15]
    by_cases hi : sender = 1
    · rw [if_pos hi]
      exact h15 ▸ .EndpointFor hi
    · rw [if_neg hi]
      exact h15 ▸ .NoEndpointFor hi
  by_cases h17 : num = 0x17
  · rw [if_neg h14, if_neg h15, if_pos h17]
    by_cases hi : sender = 1
    · rw [if_pos hi]
      cases hn : spawnName data with
      | none => exact h17 ▸ .NoSpawn fun _ => hn
      | some name => exact h17 ▸ .Spawn name hi hn
    · rw [if_neg hi]
      exact h17 ▸ .NoSpawn fun h => absurd h hi
  rw [if_neg h15, if_neg h17]
  split_ifs with h30 h31 h35 h40 h41
  · exact h30 ▸ .Grant
  · exact h31 ▸ .Delete
  · exact h35 ▸ .CreateEndpoint
  · exact h40 ▸ .Send
  · exact h41 ▸ .Receive
  · exact .Other num (by simp [numbers, *])

end RawCall

namespace KernelCore

section

variable (kernel : KernelCore) (now : UInt64) (sender : ProcessId)

def rawSyscall (hal : Hal) (syscallNum : UInt32) (sender : ProcessId) (args : SyscallArgs)
    (data : List UInt8) (now : UInt64) : KernelCore × List CommitType :=
  let raw := kernel.executeSyscallKernelFn hal syscallNum sender args data now
  let rich := raw.kernel.getSyscallRichResult sender syscallNum args raw.result now
  (rich.kernel, raw.commits ++ rich.commits)

-- Init is given its capability like anyone else, but the commit of that is dropped.
def performFor (target : ProcessId) : KernelCore × List CommitType :=
  let created := kernel.createEndpoint target now
  match created.result with
  | .error _ => (created.kernel, commitTypesOf created.commits)
  | .ok (eid, _) =>
    ((created.kernel.grantCapabilityToEndpoint target eid 1 Permissions.full now).kernel,
      commitTypesOf created.commits)

-- A receive that finds a message is followed by a second one.
def performReceive (slot : CapSlot) : KernelCore × List CommitType :=
  match kernel.ipcReceive sender slot now with
  | (kernel, .ok (some _)) => kernel.perform now (.IpcReceiveWithCaps sender slot)
  | (kernel, _) => (kernel, [])

def performRaw :
    RawCall → KernelCore × List CommitType
  | .Nothing => (kernel, [])
  | .Single op => kernel.perform now op
  | .CreateEndpointFor target => kernel.performFor now target
  | .Receive slot => kernel.performReceive now sender slot

end

-- Two outcomes that differ in metrics alone.
def SameOutcome (first second : KernelCore × List CommitType) : Prop :=
  first.1.view = second.1.view ∧ first.2 = second.2

variable (kernel : KernelCore)

lemma getSyscallRichResult_eq (sender : ProcessId) (args : SyscallArgs) (result : Int64)
    (now : UInt64) (hn : num ≠ 0x35 ∧ num ≠ 0x50 ∧ num ≠ 0x41) :
    (kernel.getSyscallRichResult sender num args result now).kernel = kernel ∧
      (kernel.getSyscallRichResult sender num args result now).commits = [] := by
  simp only [getSyscallRichResult, hn.1, hn.2.1, hn.2.2, ite_false, defaultRichResult]
  split_ifs
  · exact ⟨rfl, rfl⟩
  · exact ⟨rfl, rfl⟩

section

variable (hal : Hal) (sender : ProcessId) (args : SyscallArgs) (data : List UInt8) (now : UInt64)

lemma executeCreateEndpointFor_eq :
    ((kernel.executeCreateEndpointFor 1 args now).kernel,
      (kernel.executeCreateEndpointFor 1 args now).commits) =
        kernel.performFor now args.word0.toUInt64 := by
  rcases kernel.createEndpoint_cases args.word0.toUInt64 now with
    ⟨-, he⟩ | ⟨-, -, _, he, -⟩ | ⟨cs, -, -, he⟩
  · simp [executeCreateEndpointFor, performFor, he]
  · simp [executeCreateEndpointFor, performFor, he]
  · simp only [executeCreateEndpointFor, performFor, he, ne_eq, grantCapabilityToEndpoint]
    have hg : ((kernel.openEndpoint args.word0.toUInt64).installCap args.word0.toUInt64 cs
        (.endpoint kernel.nextCapId kernel.nextEndpointId full)).endpoints[kernel.nextEndpointId]? =
        some ⟨kernel.nextEndpointId, args.word0.toUInt64, [], {}⟩ := by
      simp [installCap, openEndpoint]
    generalize (kernel.openEndpoint args.word0.toUInt64).installCap args.word0.toUInt64 cs
      (.endpoint kernel.nextCapId kernel.nextEndpointId full) = opened at hg ⊢
    simp only [hg, takeNextCapId]
    cases opened.capSpaces[(1 : ProcessId)]? with
    | none | some => rfl

lemma executeSyscallKernelFn_receive :
    kernel.executeSyscallKernelFn hal 0x41 sender args data now =
      match kernel.ipcReceive sender args.word0 now with
      | (kernel, .ok (some msg)) => { kernel, result := 1, data := serializeIpcMessage msg }
      | (kernel, .ok none) => { kernel, result := 0 }
      | (kernel, .error _) => { kernel, result := -1 } := by
  simp only [executeSyscallKernelFn, executeIpcSyscall]
  generalize kernel.ipcReceive sender args.word0 now = received
  obtain ⟨_, e | _ | msg⟩ := received
  · simp
  · simp
  · simp

lemma rawSyscall_receive :
    kernel.rawSyscall hal 0x41 sender args data now = kernel.performReceive now sender args.word0 := by
  have hr : ∀ (kernel : KernelCore) (result : Int64),
      kernel.getSyscallRichResult sender 0x41 args result now =
        kernel.formatReceiveResult sender args result now := by
    simp [getSyscallRichResult]
  simp only [rawSyscall, executeSyscallKernelFn_receive, hr, performReceive]
  generalize kernel.ipcReceive sender args.word0 now = received
  obtain ⟨after, e | _ | _⟩ := received
  · simp [formatReceiveResult]
  · simp [formatReceiveResult]
  · simp only [formatReceiveResult, perform]
    generalize after.ipcReceiveWithCaps sender args.word0 now = outcome
    obtain ⟨_, e | _ | ⟨_, _⟩, _⟩ := outcome
    · rfl
    · rfl
    · rfl

lemma executeSpawnProcess_eq :
    ((kernel.executeSpawnProcess hal sender data now).kernel,
      (kernel.executeSpawnProcess hal sender data now).commits) =
        if sender = 1 then
          match spawnName data with
          | some name => kernel.perform now (.RegisterProcess name)
          | none => (kernel, [])
        else (kernel, []) := by
  unfold executeSpawnProcess spawnName INIT
  by_cases hi : sender = 1
  · simp only [hi]
    cases splitPrefixed data with
    | none => rfl
    | some parts =>
      obtain ⟨nameBytes, binary⟩ := parts
      dsimp only
      cases fromUtf8 nameBytes with
      | none => rfl
      | some =>
        by_cases he : binary = []
        · simp [he]
        · simp [he, perform]
  · simp [hi]

lemma executeLoadBinary_eq :
    ∃ result bytes, kernel.executeLoadBinary hal sender data =
      { kernel, result, data := bytes } := by
  unfold executeLoadBinary
  split
  · exact ⟨_, _, rfl⟩
  · split
    · exact ⟨_, _, rfl⟩
    · split <;> exact ⟨_, _, rfl⟩

end

lemma rawSyscall_of_raw (ha : kernel.executeSyscallKernelFn hal num sender args data now = raw)
    (hn : num ≠ 0x35 ∧ num ≠ 0x50 ∧ num ≠ 0x41) :
    kernel.rawSyscall hal num sender args data now = (raw.kernel, raw.commits) := by
  have hr := raw.kernel.getSyscallRichResult_eq sender args raw.result now hn
  simp only [rawSyscall, ha, hr.1, hr.2, List.append_nil]

variable (hal : Hal) (sender : ProcessId) (args : SyscallArgs) (data : List UInt8) (now : UInt64)

lemma rawSyscall_exit :
    kernel.rawSyscall hal 0x11 sender args data now = kernel.perform now (.KillProcess sender) := by
  have hr : kernel.executeSyscallKernelFn hal 0x11 sender args data now =
      kernel.executeExit sender now := by
    simp [executeSyscallKernelFn, executeProcessSyscall]
  rw [kernel.rawSyscall_of_raw hr (by decide)]
  rfl

lemma rawSyscall_kill :
    kernel.rawSyscall hal 0x13 sender args data now =
      kernel.perform now (.KillProcessWithCapCheck sender args.word0.toUInt64) := by
  have hr : kernel.executeSyscallKernelFn hal 0x13 sender args data now =
      kernel.executeKillWithCap sender args now := by
    simp [executeSyscallKernelFn, executeProcessSyscall]
  rw [kernel.rawSyscall_of_raw hr (by decide)]
  unfold executeKillWithCap
  rcases kernel.killProcessWithCapCheck_cases sender args.word0.toUInt64 now with
    ⟨e, _, he⟩ | ⟨_, _, he⟩
  · simp only [perform, he]
    rfl
  · simp only [perform, he]

lemma rawSyscall_register :
    kernel.rawSyscall hal 0x14 sender args data now =
      if sender = 1 then kernel.perform now (.RegisterProcess ((fromUtf8 data).getD "unknown"))
      else (kernel, []) := by
  have hr : kernel.executeSyscallKernelFn hal 0x14 sender args data now =
      kernel.executeRegisterProcess sender data now := by
    simp [executeSyscallKernelFn, executeProcessSyscall]
  rw [kernel.rawSyscall_of_raw hr (by decide)]
  unfold executeRegisterProcess
  by_cases hi : sender = 1
  · rw [if_pos hi, if_neg (not_not_intro hi)]
    rfl
  · rw [if_neg hi, if_pos hi]

lemma rawSyscall_endpointFor :
    kernel.rawSyscall hal 0x15 sender args data now =
      if sender = 1 then kernel.performFor now args.word0.toUInt64 else (kernel, []) := by
  have hr : kernel.executeSyscallKernelFn hal 0x15 sender args data now =
      kernel.executeCreateEndpointFor sender args now := by
    simp [executeSyscallKernelFn, executeProcessSyscall]
  rw [kernel.rawSyscall_of_raw hr (by decide)]
  by_cases hi : sender = 1
  · subst hi
    rw [if_pos rfl, executeCreateEndpointFor_eq]
  · rw [if_neg hi, executeCreateEndpointFor, if_pos hi]

lemma rawSyscall_spawn :
    kernel.rawSyscall hal 0x17 sender args data now =
      if sender = 1 then
        match spawnName data with
        | some name => kernel.perform now (.RegisterProcess name)
        | none => (kernel, [])
      else (kernel, []) := by
  have hr : kernel.executeSyscallKernelFn hal 0x17 sender args data now =
      kernel.executeSpawnProcess hal sender data now := by
    simp [executeSyscallKernelFn, executeProcessSyscall]
  rw [kernel.rawSyscall_of_raw hr (by decide), executeSpawnProcess_eq]

lemma rawSyscall_grant :
    kernel.rawSyscall hal 0x30 sender args data now =
      kernel.perform now (.GrantCapability sender args.word0 args.word1.toUInt64
        (fromByte args.word2.toUInt8)) := by
  have hr : kernel.executeSyscallKernelFn hal 0x30 sender args data now =
      kernel.executeCapabilitySyscall 0x30 sender args now := by
    simp [executeSyscallKernelFn]
  rw [kernel.rawSyscall_of_raw hr (by decide)]
  simp only [executeCapabilitySyscall, ite_true, perform]
  rcases kernel.grantCapability_cases sender args.word0 args.word1.toUInt64
    (fromByte args.word2.toUInt8) now with
    ⟨e, -, he⟩ | ⟨_, _, _, he⟩ | ⟨_, _, _, _, he⟩
  · rw [he]
    rfl
  · rw [he]
    rfl
  · rw [he]

lemma rawSyscall_delete :
    kernel.rawSyscall hal 0x31 sender args data now =
      kernel.perform now (.DeleteCapability args.word0.toUInt64 args.word1) := by
  have hr : kernel.executeSyscallKernelFn hal 0x31 sender args data now =
      kernel.executeCapabilitySyscall 0x31 sender args now := by
    simp [executeSyscallKernelFn]
  rw [kernel.rawSyscall_of_raw hr (by decide)]
  simp only [executeCapabilitySyscall, ite_true, perform]
  rw [if_neg (by decide)]
  rcases kernel.deleteCapability_cases args.word0.toUInt64 args.word1 now with
    ⟨e, _, he⟩ | ⟨_, _, _, _, he⟩
  · rw [he]
    rfl
  · rw [he]

lemma rawSyscall_send :
    kernel.rawSyscall hal 0x40 sender args data now =
      kernel.perform now (.IpcSend sender args.word0 args.word1 data) := by
  have hr : kernel.executeSyscallKernelFn hal 0x40 sender args data now =
      kernel.executeIpcSyscall 0x40 sender args data now := by
    simp [executeSyscallKernelFn]
  rw [kernel.rawSyscall_of_raw hr (by decide)]
  simp only [executeIpcSyscall, ite_true, perform]
  rcases kernel.ipcSend_cases sender args.word0 args.word1 data now with
    ⟨e, -, he⟩ | ⟨_, _, _, _, _, he, _⟩
  · rw [he]
  · rw [he]

lemma executeSyscallKernelFn_createEndpoint :
    ∃ result, kernel.executeSyscallKernelFn hal 0x35 sender args data now =
      { kernel := (kernel.createEndpoint sender now).kernel, result,
        commits := commitTypesOf (kernel.createEndpoint sender now).commits } := by
  simp only [executeSyscallKernelFn, executeCapabilitySyscall]
  generalize kernel.createEndpoint sender now = outcome
  obtain ⟨_, e | ⟨eid, _⟩, commits⟩ := outcome
  · exact ⟨-1, by simp⟩
  · exact ⟨eid.toInt64, by simp⟩

lemma rawSyscall_createEndpoint :
    kernel.rawSyscall hal 0x35 sender args data now =
      ((kernel.perform now (.CreateEndpoint sender)).1.updateSyscallMetrics sender now,
        (kernel.perform now (.CreateEndpoint sender)).2) := by
  obtain ⟨result, hr⟩ := kernel.executeSyscallKernelFn_createEndpoint hal sender args data now
  have hi : ∀ kernel : KernelCore, kernel.getSyscallRichResult sender 0x35 args result now =
      kernel.formatCapsList sender result now := by
    simp [getSyscallRichResult]
  simp only [rawSyscall, hr, hi, perform]
  exact congrArg (_, ·) (List.append_nil _)

lemma rawSyscall_nothing (hal : Hal) (sender : ProcessId) (args : SyscallArgs) (data : List UInt8)
    (now : UInt64) (ho : num ∉ RawCall.numbers) :
    kernel.rawSyscall hal num sender args data now = (kernel, []) ∨
      kernel.rawSyscall hal num sender args data now =
        (kernel.updateSyscallMetrics sender now, []) := by
  simp only [RawCall.numbers, List.mem_cons, List.not_mem_nil, or_false, not_or] at ho
  obtain ⟨h11, h13, h14, h15, h17, h30, h31, h35, h40, h41⟩ := ho
  have hr : ∃ result bytes, kernel.executeSyscallKernelFn hal num sender args data now =
      { kernel, result, data := bytes } := by
    simp only [executeSyscallKernelFn, executeProcessSyscall, h30, h31,
      h35, h40, h41, ite_false, or_self]
    split_ifs
    · exact ⟨_, _, rfl⟩
    · exact ⟨_, _, rfl⟩
    · exact kernel.executeLoadBinary_eq ..
    all_goals exact ⟨_, _, rfl⟩
  obtain ⟨result, bytes, hr⟩ := hr
  by_cases h50 : num = 0x50
  · subst h50
    have hi : kernel.getSyscallRichResult sender 0x50 args result now =
        kernel.formatProcessList sender result now := by simp [getSyscallRichResult]
    refine .inr ?_
    simp only [rawSyscall, hr, hi]
    rfl
  · exact .inl (kernel.rawSyscall_of_raw hr ⟨h35, h50, h41⟩)

-- What a raw syscall does to the kernel and what it commits. The listing numbers update the
-- caller's metrics in the end.
lemma rawSyscall_cases (hal : Hal) (num : UInt32) (sender : ProcessId)
    (args : SyscallArgs) (data : List UInt8) (now : UInt64) :
    let outcome := kernel.performRaw now sender (.decode sender num args data)
    kernel.rawSyscall hal num sender args data now = outcome ∨
      kernel.rawSyscall hal num sender args data now =
        (outcome.1.updateSyscallMetrics sender now, outcome.2) := by
  have hd := RawCall.decodes sender num args data
  generalize RawCall.decode sender num args data = call at hd ⊢
  cases hd with
  | Exit => exact .inl (kernel.rawSyscall_exit ..)
  | Kill => exact .inl (kernel.rawSyscall_kill ..)
  | Register hi => exact .inl ((kernel.rawSyscall_register ..).trans (if_pos hi))
  | NoRegister hi => exact .inl ((kernel.rawSyscall_register ..).trans (if_neg hi))
  | EndpointFor hi => exact .inl ((kernel.rawSyscall_endpointFor ..).trans (if_pos hi))
  | NoEndpointFor hi => exact .inl ((kernel.rawSyscall_endpointFor ..).trans (if_neg hi))
  | Spawn _ hi hn =>
    refine .inl ((kernel.rawSyscall_spawn ..).trans ?_)
    rw [if_pos hi, hn]
    rfl
  | NoSpawn hr =>
    refine .inl ((kernel.rawSyscall_spawn ..).trans ?_)
    by_cases hi : sender = 1
    · rw [if_pos hi, hr hi]
      rfl
    · rw [if_neg hi]
      rfl
  | Grant => exact .inl (kernel.rawSyscall_grant ..)
  | Delete => exact .inl (kernel.rawSyscall_delete ..)
  | CreateEndpoint => exact .inr (kernel.rawSyscall_createEndpoint ..)
  | Send => exact .inl (kernel.rawSyscall_send ..)
  | Receive => exact .inl (kernel.rawSyscall_receive ..)
  | Other _ ho => exact kernel.rawSyscall_nothing hal _ _ _ now ho

lemma rawSyscall_eq (num : UInt32) (sender : ProcessId) (args : SyscallArgs)
    (data : List UInt8) (now : UInt64) :
    SameOutcome (kernel.rawSyscall hal num sender args data now)
      (kernel.performRaw now sender (.decode sender num args data)) := by
  rcases kernel.rawSyscall_cases hal num sender args data now with hr | hr
  · rw [hr]
    exact ⟨rfl, rfl⟩
  · rw [hr]
    exact ⟨view_updateSyscallMetrics .., rfl⟩

end KernelCore

end ZeroOS
