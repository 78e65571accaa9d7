import ZeroOS.Kernel.System.Run

/-!
The calls that only look at the kernel.
-/

namespace ZeroOS

open BTreeMap KernelCore Capability

-- The numbers of these calls, as the processes know them.

def SYS_TIME : UInt32 := 0x04

def SYS_WALLCLOCK : UInt32 := 0x06

def SYS_CAP_LIST : UInt32 := 0x35

def SYS_PS : UInt32 := 0x50

def introspectionCalls : List UInt32 := [SYS_CAP_LIST, SYS_PS, SYS_TIME, SYS_WALLCLOCK]

def leU64 (b0 b1 b2 b3 b4 b5 b6 b7 : UInt8) : UInt64 :=
  b0.toUInt64 ||| (b1.toUInt64 <<< 8) ||| (b2.toUInt64 <<< 16) ||| (b3.toUInt64 <<< 24) |||
    (b4.toUInt64 <<< 32) ||| (b5.toUInt64 <<< 40) ||| (b6.toUInt64 <<< 48) |||
    (b7.toUInt64 <<< 56)

-- The loop of `list_caps`, which stops at a record that is cut off.
def readCaps : Nat → List UInt8 → List (CapSlot × UInt8 × UInt64)
  | count + 1, s0 :: s1 :: s2 :: s3 :: type ::
      i0 :: i1 :: i2 :: i3 :: i4 :: i5 :: i6 :: i7 :: rest =>
    (leU32 s0 s1 s2 s3, type, leU64 i0 i1 i2 i3 i4 i5 i6 i7) :: readCaps count rest
  | _, _ => []

def listCaps : List UInt8 → List (CapSlot × UInt8 × UInt64)
  | c0 :: c1 :: c2 :: c3 :: rest => readCaps (leU32 c0 c1 c2 c3).toNat rest
  | _ => []

variable (entry : CapSlot × Capability) (caps : List (CapSlot × Capability))

def Capability.listed : CapSlot × UInt8 × UInt64 :=
  (entry.1, entry.2.objectType.toU8, entry.2.objectId)

lemma leU64_toUInt8 {v : UInt64} :
    leU64 v.toUInt8 (v >>> 8).toUInt8 (v >>> 16).toUInt8 (v >>> 24).toUInt8 (v >>> 32).toUInt8
      (v >>> 40).toUInt8 (v >>> 48).toUInt8 (v >>> 56).toUInt8 = v := by
  apply UInt64.toBitVec_inj.mp
  apply BitVec.eq_of_getLsbD_eq
  simp only [leU64, UInt64.toBitVec_or, UInt64.toBitVec_shiftLeft, UInt8.toBitVec_toUInt64,
    UInt64.toBitVec_toUInt8, UInt64.toBitVec_shiftRight, UInt64.toBitVec_ofNat, BitVec.getLsbD_or]
  all_goals grind

lemma length_readCaps_le (count : Nat) (bytes : List UInt8) :
    (readCaps count bytes).length ≤ count := by
  fun_induction readCaps count bytes with
  | case1 => simpa using by assumption
  | case2 => exact Nat.zero_le _

-- The bytes of a listing, without the count in front.
def capBytes : List UInt8 :=
  (leBytes32 entry.1).toList ++ [entry.2.objectType.toU8] ++ (leBytes64 entry.2.objectId).toList

lemma readCaps_capBytes : readCaps caps.length (caps.flatMap capBytes) = caps.map listed := by
  induction caps with
  | nil => rfl
  | cons entry rest ih =>
    rw [List.flatMap_cons, List.length_cons, List.map_cons, ← ih]
    refine List.cons_eq_cons.mpr ⟨?_, rfl⟩
    exact Prod.ext leU32_toUInt8 (Prod.ext rfl leU64_toUInt8)

def capListBytes : List UInt8 :=
  (leBytes32 (UInt32.ofNat caps.length)).toList ++ caps.flatMap capBytes

lemma listCaps_eq_iff :
    listCaps (capListBytes caps) = caps.map listed ↔ caps.length < 4294967296 := by
  have hr : listCaps (capListBytes caps) =
      readCaps (caps.length % 4294967296) (caps.flatMap capBytes) := by
    refine (congrArg (fun count : UInt32 => readCaps count.toNat (caps.flatMap capBytes))
      leU32_toUInt8).trans ?_
    rw [UInt32.toNat_ofNat']
  rw [hr]
  constructor
  · intro hl
    have hn := congrArg List.length hl
    have he := length_readCaps_le (caps.length % 4294967296) (caps.flatMap capBytes)
    rw [List.length_map] at hn
    omega
  · intro hf
    rw [Nat.mod_eq_of_lt hf, readCaps_capBytes]

namespace KernelCore

variable (kernel : KernelCore)

def capsOf (pid : ProcessId) : List (CapSlot × Capability) :=
  (kernel.capSpaces[pid]?.map CapabilitySpace.list).getD []

lemma updateSyscallMetrics_processes_iff (pid : ProcessId) (now : UInt64) :
    (kernel.updateSyscallMetrics pid now).processes = kernel.processes ↔
      pid ∉ kernel.processes := by
  rw [not_mem_iff]
  constructor
  · intro hs
    cases hg : kernel.processes[pid]? with
    | none => rfl
    | some process =>
      have hc := congrArg (fun processes : BTreeMap ProcessId Process =>
        processes[pid]?.map fun process => process.metrics.syscallCount) hs
      simp [updateSyscallMetrics, hg] at hc
  · intro hn
    apply ext_get
    intro other
    simp only [updateSyscallMetrics, get_modify]
    split
    · next he => rw [← he, hn, Option.map_none]
    · rfl

lemma createEndpoint_of_noSpace {owner : ProcessId} (now : UInt64)
    (hr : owner ∈ kernel.processes) (hc : kernel.capSpaces[owner]? = none) :
    kernel.createEndpoint owner now =
      ⟨{ kernel with
          nextEndpointId := kernel.nextEndpointId + 1
          nextCapId := kernel.nextCapId + 1
          endpoints := kernel.endpoints.erase kernel.nextEndpointId },
        .error .ProcessNotFound, []⟩ := by
  simp only [createEndpoint, hr, not_true_eq_false, ite_false, grantOwnerEndpointCap_eq, hc,
    erase_insert]

lemma rawSyscall_clock (hal : Hal) (sender : ProcessId) (args : SyscallArgs) (data : List UInt8)
    (now : UInt64) (hn : num = SYS_TIME ∨ num = SYS_WALLCLOCK) :
    kernel.rawSyscall hal num sender args data now = (kernel, []) := by
  rcases hn with rfl | rfl
  · exact kernel.rawSyscall_of_raw rfl (by decide)
  · exact kernel.rawSyscall_of_raw rfl (by decide)

lemma processes_createEndpoint {owner : ProcessId} :
    (kernel.createEndpoint owner now).kernel.processes = kernel.processes := by
  rcases kernel.createEndpoint_cases owner now with
    ⟨-, he⟩ | ⟨hr, hc, -⟩ | ⟨_, -, -, he⟩
  · rw [he]
  · rw [kernel.createEndpoint_of_noSpace now hr hc]
  · rw [he]
    rfl

end KernelCore

namespace System

-- The tables and the log are the same, what is counted for each process apart.
structure TablesKept (before after : System) : Prop where
  processes : after.kernel.view.processes = before.kernel.view.processes
  capSpaces : after.kernel.capSpaces = before.kernel.capSpaces
  endpoints : after.kernel.endpoints = before.kernel.endpoints
  commitlog : after.commitlog = before.commitlog

-- A call with one of the numbers only looks, and tells a process what it holds.
def ReadOnly (system : System) (hal : Hal) (sender : ProcessId) (syscallNum : UInt32)
    (args : SyscallArgs) (data : List UInt8) : Prop :=
  TablesKept system (system.processSyscall hal sender syscallNum args data).1 ∧
    (syscallNum = SYS_CAP_LIST →
      listCaps (system.processSyscall hal sender syscallNum args data).2.2.2 =
        (system.kernel.capsOf sender).map Capability.listed)

-- No endpoint can be made for the caller, nor one be removed again, and the count of what it
-- holds fits into a word.
def Inspects (system : System) (sender : ProcessId) (syscallNum : UInt32) : Prop :=
  syscallNum = SYS_CAP_LIST →
    (sender ∈ system.kernel.processes → sender ∉ system.kernel.capSpaces ∧
      system.kernel.nextEndpointId ∉ system.kernel.endpoints) ∧
    (system.kernel.capsOf sender).length < 4294967296

variable (system : System) (hal : Hal) (sender : ProcessId) (args : SyscallArgs)
  (data : List UInt8)

lemma tablesKept_of_raw {kernel : KernelCore}
    (hr : system.kernel.rawSyscall hal num sender args data (system.uptimeNanos hal) =
      (kernel, [])) (hp : kernel.view.processes = system.kernel.view.processes)
    (hc : kernel.capSpaces = system.kernel.capSpaces)
    (he : kernel.endpoints = system.kernel.endpoints) :
    TablesKept system (system.processSyscall hal sender num args data).1 := by
  have hk : (system.processSyscall hal sender num args data).1.kernel = kernel :=
    congrArg Prod.fst hr
  have hl := system.processSyscall_commitlog hal sender num args data
  rw [hr] at hl
  exact ⟨hk ▸ hp, hk ▸ hc, hk ▸ he, hl⟩

lemma processes_view_updateSyscallMetrics {kernel : KernelCore} :
    (kernel.updateSyscallMetrics pid now).view.processes = kernel.view.processes :=
  congrArg KernelView.processes (view_updateSyscallMetrics ..)

lemma processSyscall_capList :
    (system.processSyscall hal sender SYS_CAP_LIST args data).2.2.2 =
      capListBytes
        ((system.kernel.createEndpoint sender (system.uptimeNanos hal)).kernel.capsOf sender) := by
  obtain ⟨result, hr⟩ := system.kernel.executeSyscallKernelFn_createEndpoint hal sender args data
    (system.uptimeNanos hal)
  simp only [processSyscall, SYS_CAP_LIST, hr]
  rfl

lemma readOnly_capList_iff :
    system.ReadOnly hal sender SYS_CAP_LIST args data ↔ system.Inspects sender SYS_CAP_LIST := by
  have hr := system.kernel.rawSyscall_createEndpoint hal sender args data (system.uptimeNanos hal)
  have hrs := system.processSyscall_capList hal sender args data
  simp only [perform] at hr
  have hk : (system.processSyscall hal sender SYS_CAP_LIST args data).1.kernel = _ :=
    congrArg Prod.fst hr
  rcases system.kernel.createEndpoint_cases sender (system.uptimeNanos hal) with
    ⟨he, hq⟩ | ⟨he, hs, -⟩ | ⟨cs, he, hs, hq⟩
  · rw [hq] at hr hrs
    have hp := system.tablesKept_of_raw hal sender args data hr
      processes_view_updateSyscallMetrics rfl rfl
    have hl := listCaps_eq_iff (system.kernel.capsOf sender)
    rw [← hrs] at hl
    constructor
    · exact fun hd _ => ⟨fun hm => absurd hm he, hl.mp (hd.2 rfl)⟩
    · exact fun hi => ⟨hp, fun _ => hl.mpr (hi rfl).2⟩
  · -- The caller has no space, so that there is nothing to list and no room for a capability.
    have hq := system.kernel.createEndpoint_of_noSpace (system.uptimeNanos hal) he hs
    have ho : sender ∉ system.kernel.capSpaces := not_mem_iff.mpr hs
    have ha : system.kernel.capsOf sender = [] := by rw [capsOf, hs]; rfl
    rw [hq] at hr hrs hk
    constructor
    · intro hd _
      have hn := hd.1.endpoints
      rw [hk] at hn
      refine ⟨fun _ => ⟨ho, fun hm => ?_⟩, by rw [ha]; decide⟩
      obtain ⟨ep, hg⟩ := (mem_iff ..).mp hm
      exact erase_ne hg hn
    · intro hi
      have hf := ((hi rfl).1 he).2
      refine ⟨system.tablesKept_of_raw hal sender args data hr
        processes_view_updateSyscallMetrics rfl
        (erase_of_get_none (not_mem_iff.mp hf)), fun _ => ?_⟩
      rw [hrs]
      exact (listCaps_eq_iff (system.kernel.capsOf sender)).mpr (by rw [ha]; decide)
  · refine iff_of_false (fun hd => ?_) fun hi =>
      ((hi rfl).1 he).1 ((mem_iff ..).mpr ⟨cs, hs⟩)
    have hc := hd.1.capSpaces
    rw [hk, hq] at hc
    have hsl := congrArg (fun spaces : CapSpaces => spaces[sender]?.map CapabilitySpace.nextSlot) hc
    simp [updateSyscallMetrics, installCap, hs, CapabilitySpace.insert] at hsl

-- Which of these calls leave the tables and the log alone, and which of them even the counts
-- that are kept for each process.
theorem introspection_iff (syscallNum : UInt32) (hnum : syscallNum ∈ introspectionCalls) :
    (system.ReadOnly hal sender syscallNum args data ↔ system.Inspects sender syscallNum) ∧
      ((system.processSyscall hal sender syscallNum args data).1.kernel.processes =
          system.kernel.processes ↔
        syscallNum = SYS_TIME ∨ syscallNum = SYS_WALLCLOCK ∨ sender ∉ system.kernel.processes) := by
  simp only [introspectionCalls, List.mem_cons, List.not_mem_nil, or_false] at hnum
  rcases hnum with rfl | rfl | hl
  · refine ⟨system.readOnly_capList_iff hal sender args data, ?_⟩
    have hr := system.kernel.rawSyscall_createEndpoint hal sender args data
      (system.uptimeNanos hal)
    have hc := (system.kernel.createEndpoint sender
      (system.uptimeNanos hal)).kernel.updateSyscallMetrics_processes_iff sender
        (system.uptimeNanos hal)
    rw [system.kernel.processes_createEndpoint] at hc
    have hkr : (system.processSyscall hal sender SYS_CAP_LIST args data).1.kernel = _ :=
      congrArg Prod.fst hr
    rw [hkr]
    exact hc.trans (by simp [SYS_CAP_LIST, SYS_TIME, SYS_WALLCLOCK])
  · have hk := system.tablesKept_of_raw hal sender args data
      (show system.kernel.rawSyscall hal SYS_PS sender args data _ = (_, []) from rfl)
      processes_view_updateSyscallMetrics rfl rfl
    have hc := system.kernel.updateSyscallMetrics_processes_iff sender
      (system.uptimeNanos hal)
    exact ⟨iff_of_true ⟨hk, nofun⟩ nofun,
      hc.trans (by simp [SYS_PS, SYS_TIME, SYS_WALLCLOCK])⟩
  · have hr := system.kernel.rawSyscall_clock hal sender args data (system.uptimeNanos hal) hl
    have hk := system.tablesKept_of_raw hal sender args data hr rfl rfl rfl
    have ho : syscallNum ≠ SYS_CAP_LIST := by
      rcases hl with rfl | rfl
      · decide
      · decide
    refine ⟨iff_of_true ⟨hk, fun h => absurd h ho⟩ fun h => absurd h ho, ?_⟩
    exact iff_of_true (congrArg (fun outcome => outcome.1.processes) hr)
      (or_assoc.mp (.inl hl))

theorem introspection_ps :
    let system := ((System.new (.unsupported 0)).registerProcess (.unsupported 0) "process").1
    SYS_PS ∈ introspectionCalls ∧ system.ReadOnly (.unsupported 0) 1 SYS_PS .zero [] := by
  intro system
  have hn : SYS_PS ∈ introspectionCalls := by decide
  exact ⟨hn, (introspection_iff system _ 1 .zero [] SYS_PS hn).1.mpr nofun⟩

-- A process that asks for its capabilities, of which it has none, owns an endpoint afterwards.
theorem capList_creates_endpoint :
    let system := ((System.new (.unsupported 0)).registerProcess (.unsupported 0) "process").1
    let (after, result, _, response) :=
      system.processSyscall (.unsupported 0) 1 SYS_CAP_LIST .zero []
    system.kernel.endpoints.size = 0 ∧ after.kernel.endpoints.size = 1 ∧ result = 1 ∧
      system.kernel.capsOf 1 = [] ∧ listCaps response = [(0, 1, 1)] := by
  decide +kernel

end System

end ZeroOS
