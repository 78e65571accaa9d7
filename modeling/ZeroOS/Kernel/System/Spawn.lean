import ZeroOS.Kernel.System.Dispatch

/-!
What a request to spawn a process leaves behind.
-/

namespace ZeroOS.KernelCore

-- The name and the binary of a payload.
def decodeSpawn (data : List UInt8) : Option (String × List UInt8) :=
  (splitPrefixed data).bind fun (nameBytes, binary) =>
    (fromUtf8 nameBytes).bind fun name => if binary = [] then none else some (name, binary)

variable (kernel : KernelCore) (hal : Hal) (sender : ProcessId) (args : SyscallArgs)
  (data : List UInt8) (timestamp : UInt64)

def KeepsTables (next : KernelCore) : Prop :=
  next.processes = kernel.processes ∧ next.capSpaces = kernel.capSpaces ∧
    next.endpoints = kernel.endpoints

-- Exactly one process has come, under a pid that was free, and the platform runs it.
structure Spawned (outcome : RawOutcome) : Prop where
  fresh : kernel.nextPid ∉ kernel.processes ∧ kernel.nextPid ∉ kernel.capSpaces
  result : outcome.result = kernel.nextPid.toInt64
  endpoints : outcome.kernel.endpoints = kernel.endpoints
  capSpaces : outcome.kernel.capSpaces = kernel.capSpaces.insert kernel.nextPid .new
  started : ∃ name binary, decodeSpawn data = some (name, binary) ∧
    hal.spawnProcessWithPid kernel.nextPid name binary = .ok () ∧
    outcome.kernel.processes = kernel.processes.insert kernel.nextPid
      (createProcessEntry kernel.nextPid name timestamp)

def SpawnContract : Prop :=
  let outcome := kernel.executeSyscallKernelFn hal 0x17 sender args data timestamp
  (outcome.result < 0 → kernel.KeepsTables outcome.kernel) ∧
    (0 ≤ outcome.result → kernel.Spawned hal data timestamp outcome)

-- The platform takes the process, under a pid that is free and no error code; or registering
-- the process changes nothing.
def Spawnable (name : String) (binary : List UInt8) : Prop :=
  (hal.spawnProcessWithPid kernel.nextPid name binary = .ok () ∧ 0 ≤ kernel.nextPid.toInt64 ∧
    kernel.nextPid ∉ kernel.processes ∧ kernel.nextPid ∉ kernel.capSpaces) ∨
  ((hal.spawnProcessWithPid kernel.nextPid name binary = .ok () → kernel.nextPid.toInt64 < 0) ∧
    kernel.processes[kernel.nextPid]? = some (createProcessEntry kernel.nextPid name timestamp) ∧
    kernel.capSpaces[kernel.nextPid]? = some .new)

lemma executeSpawnProcess_cases :
    ((sender = INIT → decodeSpawn data = none) ∧ ∃ code : Int64, code < 0 ∧
      kernel.executeSpawnProcess hal sender data timestamp = { kernel, result := code }) ∨
    ∃ name binary, sender = INIT ∧ decodeSpawn data = some (name, binary) ∧
      kernel.executeSpawnProcess hal sender data timestamp =
        { kernel := (kernel.registerProcess name timestamp).1
          result := match hal.spawnProcessWithPid kernel.nextPid name binary with
            | .ok () => kernel.nextPid.toInt64
            | .error _ => SyscallError.SPAWN_FAILED
          commits := commitTypesOf (kernel.registerProcess name timestamp).2.2 } := by
  unfold executeSpawnProcess decodeSpawn
  by_cases hi : sender = INIT
  · rw [if_neg (not_not.mpr hi)]
    cases splitPrefixed data with
    | none => exact .inl ⟨fun _ => rfl, _, by decide, rfl⟩
    | some parts =>
      obtain ⟨nameBytes, binary⟩ := parts
      dsimp only [Option.bind_some]
      cases fromUtf8 nameBytes with
      | none => exact .inl ⟨fun _ => rfl, SyscallError.INVALID_UTF8, by decide, rfl⟩
      | some name =>
        by_cases he : binary = []
        · exact .inl ⟨fun _ => if_pos he, SyscallError.INVALID_ARGUMENT, by decide,
            if_pos he⟩
        · exact .inr ⟨name, binary, hi, if_neg he, if_neg he⟩
  · rw [if_pos hi]
    exact .inl ⟨fun h => absurd h hi, SyscallError.PERMISSION_DENIED, by decide, rfl⟩

lemma insert_eq_self_iff [Ord κ] [Std.TransOrd κ] [Std.LawfulEqOrd κ] [DecidableEq κ]
    {m : BTreeMap κ ν} : m.insert key value = m ↔ m[key]? = some value := by
  refine ⟨fun h => ?_, BTreeMap.insert_of_get⟩
  rw [← h, BTreeMap.get_insert, if_pos rfl]

-- The process is registered before the platform is asked, and is not taken out again when the
-- platform refuses.
theorem spawnContract_iff : kernel.SpawnContract hal sender args data timestamp ↔
    ∀ name binary, sender = INIT → decodeSpawn data = some (name, binary) →
      kernel.Spawnable hal timestamp name binary := by
  have hdi : kernel.executeSyscallKernelFn hal 0x17 sender args data timestamp =
      kernel.executeSpawnProcess hal sender data timestamp := rfl
  simp only [SpawnContract, hdi]
  rcases kernel.executeSpawnProcess_cases hal sender data timestamp with
    ⟨hr, code, hc, he⟩ | ⟨name, binary, hi, hd, he⟩
  · rw [he]
    refine iff_of_true ⟨fun _ => ⟨rfl, rfl, rfl⟩, fun h => absurd hc (Int64.not_lt.mpr h)⟩ ?_
    intro name binary hi hd
    rw [hr hi] at hd
    cases hd
  have hs : (∀ name binary, sender = INIT → decodeSpawn data = some (name, binary) →
      kernel.Spawnable hal timestamp name binary) ↔
        kernel.Spawnable hal timestamp name binary := by
    refine ⟨fun h => h name binary hi hd, fun h name' binary' _ hd' => ?_⟩
    cases hd.symm.trans hd'
    exact h
  have ha : kernel.KeepsTables (kernel.registerProcess name timestamp).1 ↔
      kernel.processes[kernel.nextPid]? =
        some (createProcessEntry kernel.nextPid name timestamp) ∧
      kernel.capSpaces[kernel.nextPid]? = some .new := by
    rw [← insert_eq_self_iff, ← insert_eq_self_iff]
    exact ⟨fun h => ⟨h.1, h.2.1⟩, fun h => ⟨h.1, h.2, rfl⟩⟩
  rw [hs, Spawnable, he, ← ha]
  cases hspa : hal.spawnProcessWithPid kernel.nextPid name binary with
  | error e =>
    have hc : SyscallError.SPAWN_FAILED < 0 := by decide
    simp only [hc, Int64.not_le.mpr hc]
    simp
  | ok _ =>
    by_cases hp : kernel.nextPid.toInt64 < 0
    · simp [hp, Int64.not_le.mpr hp]
    · have hl := Int64.not_lt.mp hp
      constructor
      · exact fun h => .inl ⟨rfl, hl, (h.2 hl).fresh⟩
      · rintro (⟨-, -, hf⟩ | ⟨hn, -⟩)
        · exact ⟨fun h => absurd h hp,
            fun _ => ⟨hf, rfl, rfl, rfl, name, binary, hd, hspa, rfl⟩⟩
        · exact absurd (hn rfl) hp

-- A name of one letter and a binary of one byte, which the platform does not start.
theorem failed_spawn_registered : ¬ KernelCore.new.SpawnContract (Hal.unsupported 0) 1
    .zero [1, 0, 0, 0, 97, 7] 0 := by
  intro h
  have hs := (h.1 (by decide +kernel)).1
  have hi := congrArg Std.ExtTreeMap.size hs
  revert hi
  decide +kernel

end ZeroOS.KernelCore
