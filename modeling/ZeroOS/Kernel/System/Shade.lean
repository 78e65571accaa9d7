import ZeroOS.Kernel.Shade

/-!
Raw syscalls on kernels that look alike.
-/

namespace ZeroOS

def RawOutcome.Alike (hidden : Veil) (first second : RawOutcome) : Prop :=
  second.result = first.result ∧ second.data = first.data ∧
    KernelCore.SameShade hidden first.kernel second.kernel

namespace KernelCore

-- What a process is given back by a raw syscall: the result code and the response bytes.
def rawReply (kernel : KernelCore) (hal : Hal) (syscallNum : UInt32) (sender : ProcessId)
    (args : SyscallArgs) (data : List UInt8) (now : UInt64) : Int64 × List UInt8 :=
  let raw := kernel.executeSyscallKernelFn hal syscallNum sender args data now
  let rich := raw.kernel.getSyscallRichResult sender syscallNum args raw.result now
  (raw.result, if raw.data ≠ [] then raw.data else rich.data)

def SameReply (hidden : Veil) (first second : Int64 × List UInt8) : Prop :=
  second = first ∨ ∃ msg msg' : Message, hidden.hides msg = true ∧ hidden.hides msg' = true ∧
    msg'.fromPid = msg.fromPid ∧ first = (1, serializeIpcMessage msg) ∧
    second = (1, serializeIpcMessage msg')

namespace SameShade

variable {hidden : Veil} {first second : KernelCore} (hsh : SameShade hidden first second)

include hsh

section

variable (hal : Hal) (syscallNum : UInt32) (sender : ProcessId) (args : SyscallArgs)
  (data : List UInt8) (now : UInt64)

lemma executeExit :
    RawOutcome.Alike hidden (first.executeExit sender now) (second.executeExit sender now) :=
  ⟨rfl, rfl, hsh.killProcess ..⟩

lemma executeKillWithCap :
    RawOutcome.Alike hidden (first.executeKillWithCap sender args now)
      (second.executeKillWithCap sender args now) := by
  obtain ⟨hr, ha⟩ := hsh.killProcessWithCapCheck sender args.word0.toUInt64 now
  simp only [KernelCore.executeKillWithCap, hr]
  cases (first.killProcessWithCapCheck sender args.word0.toUInt64 now).result with
  | error | ok => exact ⟨rfl, rfl, ha⟩

lemma executeRegisterProcess :
    RawOutcome.Alike hidden (first.executeRegisterProcess sender data now)
      (second.executeRegisterProcess sender data now) := by
  obtain ⟨hp, ha⟩ := hsh.registerProcessWithParent ((fromUtf8 data).getD "unknown") 0 now
  unfold KernelCore.executeRegisterProcess
  by_cases hi : sender = 1
  · rw [if_neg (not_not_intro hi), if_neg (not_not_intro hi)]
    exact ⟨congrArg UInt64.toInt64 hp, rfl, ha⟩
  · rw [if_pos hi, if_pos hi]
    exact ⟨rfl, rfl, hsh⟩

lemma executeCreateEndpointFor :
    RawOutcome.Alike hidden (first.executeCreateEndpointFor sender args now)
      (second.executeCreateEndpointFor sender args now) := by
  obtain ⟨hr, ha⟩ := hsh.createEndpoint args.word0.toUInt64 now
  unfold KernelCore.executeCreateEndpointFor
  by_cases hi : sender = 1
  · rw [if_neg (not_not_intro hi), if_neg (not_not_intro hi)]
    simp only [hr]
    generalize first.createEndpoint args.word0.toUInt64 now = made at ha ⊢
    cases made.result with
    | error => exact ⟨rfl, rfl, ha⟩
    | ok opened =>
      simp only [takeNextCapId]
      cases hc : made.kernel.capSpaces[(1 : ProcessId)]? with
      | none =>
        simp only [ha.getSpace hc]
        exact ⟨rfl, rfl, ha.burnCapId⟩
      | some =>
        simp only [ha.getSpace hc]
        exact ⟨rfl, rfl, ha.installCap 1 _
          (congrArg (Capability.endpoint · opened.1 Permissions.full) ha.nextCapId)⟩
  · rw [if_pos hi, if_pos hi]
    exact ⟨rfl, rfl, hsh⟩

lemma executeLoadBinary :
    RawOutcome.Alike hidden (first.executeLoadBinary hal sender data)
      (second.executeLoadBinary hal sender data) := by
  unfold KernelCore.executeLoadBinary
  by_cases hi : sender = INIT
  · rw [if_neg (not_not_intro hi), if_neg (not_not_intro hi)]
    cases fromUtf8 data with
    | none => exact ⟨rfl, rfl, hsh⟩
    | some =>
      dsimp only
      split <;> exact ⟨rfl, rfl, hsh⟩
  · rw [if_pos hi, if_pos hi]
    exact ⟨rfl, rfl, hsh⟩

lemma executeSpawnProcess :
    RawOutcome.Alike hidden (first.executeSpawnProcess hal sender data now)
      (second.executeSpawnProcess hal sender data now) := by
  unfold KernelCore.executeSpawnProcess
  by_cases hi : sender = INIT
  · rw [if_neg (not_not_intro hi), if_neg (not_not_intro hi)]
    cases splitPrefixed data with
    | none => exact ⟨rfl, rfl, hsh⟩
    | some parts =>
      dsimp only
      cases fromUtf8 parts.1 with
      | none => exact ⟨rfl, rfl, hsh⟩
      | some name =>
        dsimp only
        by_cases hb : parts.2 = []
        · rw [if_pos hb, if_pos hb]
          exact ⟨rfl, rfl, hsh⟩
        · rw [if_neg hb, if_neg hb]
          obtain ⟨hp, ha⟩ := hsh.registerProcessWithParent name 0 now
          refine ⟨?_, rfl, ha⟩
          have hs : (second.registerProcess name now).2.1 =
            (first.registerProcess name now).2.1 := hp
          simp only [hs]
  · rw [if_pos hi, if_pos hi]
    exact ⟨rfl, rfl, hsh⟩

lemma executeProcessSyscall :
    RawOutcome.Alike hidden (first.executeProcessSyscall hal syscallNum sender args data now)
      (second.executeProcessSyscall hal syscallNum sender args data now) := by
  unfold KernelCore.executeProcessSyscall
  split_ifs
  · exact hsh.executeExit ..
  · exact ⟨rfl, rfl, hsh⟩
  · exact hsh.executeKillWithCap ..
  · exact hsh.executeRegisterProcess ..
  · exact hsh.executeCreateEndpointFor ..
  · exact hsh.executeLoadBinary ..
  · exact hsh.executeSpawnProcess ..
  · exact ⟨rfl, rfl, hsh⟩

lemma executeCapabilitySyscall :
    RawOutcome.Alike hidden (first.executeCapabilitySyscall syscallNum sender args now)
      (second.executeCapabilitySyscall syscallNum sender args now) := by
  unfold KernelCore.executeCapabilitySyscall
  split_ifs
  · obtain ⟨hr, ha⟩ := hsh.grantCapability sender args.word0 args.word1.toUInt64
      (Permissions.fromByte args.word2.toUInt8) now
    simp only [hr]
    split <;> exact ⟨rfl, rfl, ha⟩
  · obtain ⟨hr, ha⟩ := hsh.deleteCapability args.word0.toUInt64 args.word1 now
    simp only [hr]
    split <;> exact ⟨rfl, rfl, ha⟩
  · obtain ⟨hr, ha⟩ := hsh.createEndpoint sender now
    simp only [hr]
    split <;> exact ⟨rfl, rfl, ha⟩
  · exact ⟨rfl, rfl, hsh⟩

lemma executeSend (hm : Message.veil hidden ⟨sender, args.word1, data', []⟩ =
      Message.veil hidden ⟨sender, args.word1, data, []⟩) :
    RawOutcome.Alike hidden (first.executeIpcSyscall 0x40 sender args data now)
      (second.executeIpcSyscall 0x40 sender args data' now) := by
  have hs := hsh.ipcSend sender args.word0 now hm
  simp only [executeIpcSyscall, hs.1]
  cases (first.ipcSend sender args.word0 args.word1 data now).2.1 with
  | error | ok => exact ⟨rfl, rfl, hs.2⟩

end

lemma executeSyscallKernelFn (hal : Hal) (sender : ProcessId) (args : SyscallArgs)
    (data : List UInt8) (now : UInt64) (hn : syscallNum ≠ 0x41) :
    RawOutcome.Alike hidden (first.executeSyscallKernelFn hal syscallNum sender args data now)
      (second.executeSyscallKernelFn hal syscallNum sender args data now) := by
  unfold KernelCore.executeSyscallKernelFn
  split_ifs with _ _ _ hi
  · exact ⟨rfl, rfl, hsh⟩
  · exact hsh.executeProcessSyscall ..
  · exact hsh.executeCapabilitySyscall ..
  · obtain rfl := hi.resolve_right hn
    exact hsh.executeSend _ _ _ _ rfl
  all_goals exact ⟨rfl, rfl, hsh⟩

lemma processList :
    (second.processes.toList.map fun (pid, process) => (pid, process.name, process.state)) =
      first.processes.toList.map fun (pid, process) => (pid, process.name, process.state) := by
  have hl (kernel : KernelCore) : kernel.processes.toList.map
      (fun entry => (entry.1, entry.2.name, entry.2.state)) =
        kernel.view.processes.toList.map fun entry => (entry.1, entry.2.name, entry.2.state) := by
    rw [KernelCore.view, Std.ExtTreeMap.toList_map, List.map_map]
    rfl
  have hs := hl second
  rw [hsh.view_processes, ← hl first] at hs
  exact hs

lemma getSyscallRichResult (hn : syscallNum ≠ 0x41) :
    (second.getSyscallRichResult sender syscallNum args result now).data =
      (first.getSyscallRichResult sender syscallNum args result now).data := by
  have hp := (hsh.updateSyscallMetrics sender now).processList
  have hc := (hsh.updateSyscallMetrics sender now).capSpaces
  unfold KernelCore.getSyscallRichResult
  split_ifs
  · simp only [formatCapsList, handleSyscall, KernelCore.dispatchSyscall, handleListCaps, hc]
  · simp only [formatProcessList, handleSyscall, KernelCore.dispatchSyscall, handleListProcesses,
      hp]
  · unfold defaultRichResult
    split_ifs <;> rfl

section

variable (hal hal' : Hal) (syscallNum : UInt32) (now : UInt64) (sender : ProcessId)
  (args : SyscallArgs) (data : List UInt8)

lemma rawReply_receive :
    SameReply hidden (first.rawReply hal 0x41 sender args data now)
      (second.rawReply hal' 0x41 sender args data now) := by
  have hr (kernel : KernelCore) (result : Int64) (he : result ≠ 1) :
      (kernel.getSyscallRichResult sender 0x41 args result now).data = [] := by
    simp only [KernelCore.getSyscallRichResult, formatReceiveResult]
    split_ifs <;> simp_all
  unfold rawReply
  simp only [executeSyscallKernelFn_receive]
  obtain ⟨e, hf, hs⟩ | ⟨hf, hs⟩ |
    ⟨msg, msg', _, _, hf, hs, hm, -⟩ := hsh.ipcReceive_cases sender args.word0 now
  · rw [hf, hs]
    simp [hr, SameReply]
  · rw [hf, hs]
    simp [hr, SameReply]
  · rw [hf, hs]
    obtain rfl | ⟨hn, hs', hp⟩ := Message.eq_or_hidden hm
    · exact .inl rfl
    · exact .inr ⟨msg, msg', hn, hs', hp, rfl, rfl⟩

lemma rawReply (now : UInt64) :
    SameReply hidden (first.rawReply hal syscallNum sender args data now)
      (second.rawReply hal syscallNum sender args data now) := by
  by_cases hn : syscallNum = 0x41
  · subst hn
    exact hsh.rawReply_receive ..
  · obtain ⟨hr, hb, ha⟩ := hsh.executeSyscallKernelFn hal sender args data now hn
    refine .inl ?_
    simp only [KernelCore.rawReply, hr, hb, ha.getSyscallRichResult hn]

lemma performFor :
    SameShade hidden (first.performFor now target).1 (second.performFor now target).1 := by
  obtain ⟨hr, ha⟩ := hsh.createEndpoint target now
  simp only [KernelCore.performFor, hr]
  split
  · exact ha
  · exact (ha.grantCapabilityToEndpoint ..).2

lemma performReceive :
    SameShade hidden (first.performReceive now sender slot).1
      (second.performReceive now sender slot).1 := by
  unfold KernelCore.performReceive
  obtain ⟨e, hf, hs⟩ | ⟨hf, hs⟩ | ⟨_, _, _, _, hf, hs, -, hr⟩ :=
    hsh.ipcReceive_cases sender slot now
  · rw [hf, hs]
    exact hsh
  · rw [hf, hs]
    exact hsh
  · rw [hf, hs]
    exact hr.perform now

lemma performRaw (call : RawCall) :
    SameShade hidden (first.performRaw now sender call).1
      (second.performRaw now sender call).1 := by
  cases call with
  | Nothing => exact hsh
  | Single => exact hsh.perform ..
  | CreateEndpointFor => exact hsh.performFor ..
  | Receive => exact hsh.performReceive ..

lemma rawSyscall :
    SameShade hidden (first.rawSyscall hal syscallNum sender args data now).1
      (second.rawSyscall hal' syscallNum sender args data now).1 :=
  (hsh.performRaw now _ (.decode sender syscallNum args data)).of_views (first.rawSyscall_eq ..).1
    (second.rawSyscall_eq ..).1

end

lemma rawSyscall_send (hal hal' : Hal) (sender : ProcessId) (now : UInt64)
    (hs : args'.word0 = args.word0)
    (hm : Message.veil hidden ⟨sender, args'.word1, data', []⟩ =
      Message.veil hidden ⟨sender, args.word1, data, []⟩) :
    SameShade hidden (first.rawSyscall hal 0x40 sender args data now).1
      (second.rawSyscall hal' 0x40 sender args' data' now).1 := by
  rw [KernelCore.rawSyscall_send, KernelCore.rawSyscall_send, hs]
  exact (hsh.ipcSend _ args.word0 now hm).2

lemma performWork (hal hal' : Hal) (now : UInt64) (work : Work) :
    SameShade hidden (first.performWork hal now work).1 (second.performWork hal' now work).1 := by
  cases work with
  | Core => exact hsh.perform ..
  | Inject => exact hsh.inject
  | Raw => exact hsh.rawSyscall ..

end SameShade

end KernelCore

namespace System

end System

end ZeroOS
