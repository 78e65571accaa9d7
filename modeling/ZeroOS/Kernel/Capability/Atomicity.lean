import ZeroOS.Kernel.Ipc.Lemmas

/-!
What a failed operation on capabilities leaves behind.
-/

namespace ZeroOS

-- The operations that make, move and remove capabilities.
inductive CapOp where
  | GrantCapability (fromPid : ProcessId) (fromSlot : CapSlot) (toPid : ProcessId)
      (perms : Permissions)
  | GrantCapabilityToEndpoint (ownerPid : ProcessId) (eid : EndpointId) (toPid : ProcessId)
      (perms : Permissions)
  | DeriveCapability (pid : ProcessId) (slot : CapSlot) (perms : Permissions)
  | RevokeCapability (pid : ProcessId) (slot : CapSlot)
  | DeleteCapability (pid : ProcessId) (slot : CapSlot)
  | CreateEndpoint (owner : ProcessId)
  | IpcSendWithCaps (fromPid : ProcessId) (slot : CapSlot) (tag : UInt32) (data : List UInt8)
      (capSlots : List CapSlot)

-- What a call leaves, without the value of a success.
structure Attempt where
  kernel : KernelCore
  error : Option KernelError
  commits : List Commit

def Outcome.attempt (outcome : Outcome α) : Attempt where
  kernel := outcome.kernel
  error := match outcome.result with
    | .error e => some e
    | .ok _ => none
  commits := outcome.commits

def Attempt.Clean (before : KernelCore) (attempt : Attempt) : Prop :=
  attempt.error ≠ none → attempt.commits = [] ∧ attempt.kernel = before

namespace KernelCore

def attempt (kernel : KernelCore) (now : UInt64) : CapOp → Attempt
  | .GrantCapability fromPid fromSlot toPid perms =>
    (kernel.grantCapability fromPid fromSlot toPid perms now).attempt
  | .GrantCapabilityToEndpoint ownerPid eid toPid perms =>
    (kernel.grantCapabilityToEndpoint ownerPid eid toPid perms now).attempt
  | .DeriveCapability pid slot perms => (kernel.deriveCapability pid slot perms now).attempt
  | .RevokeCapability pid slot => (kernel.revokeCapability pid slot now).attempt
  | .DeleteCapability pid slot => (kernel.deleteCapability pid slot now).attempt
  | .CreateEndpoint owner => (kernel.createEndpoint owner now).attempt
  | .IpcSendWithCaps fromPid slot tag data capSlots =>
    (kernel.ipcSendWithCaps fromPid slot tag data capSlots now).attempt

-- The process that is to get a new capability has a space, or the call does not get that far.
def Placeable (kernel : KernelCore) (now : UInt64) : CapOp → Prop
  | .GrantCapability fromPid fromSlot toPid _ =>
    toPid ∈ kernel.capSpaces ∨ ∀ source, kernel.validateGrantSource fromPid fromSlot now ≠ .ok source
  | .GrantCapabilityToEndpoint ownerPid eid toPid _ =>
    toPid ∈ kernel.capSpaces ∨
      ∀ endpoint, kernel.endpoints[eid]? = some endpoint → endpoint.owner ≠ ownerPid
  | .CreateEndpoint owner => owner ∈ kernel.capSpaces ∨ owner ∉ kernel.processes
  | _ => True

variable {kernel : KernelCore}

variable {after : KernelCore} {e : KernelError} {outcome : Outcome α} {pid : ProcessId}

lemma clean_of_refused (hr : outcome = ⟨kernel, .error e, []⟩) : outcome.attempt.Clean kernel := by
  rw [hr]
  exact fun _ => ⟨rfl, rfl⟩

lemma clean_of_done
    (hd : outcome = ⟨after, .ok value, commits⟩) : outcome.attempt.Clean kernel := by
  rw [hd]
  exact fun hf => (hf rfl).elim

lemma not_clean_of_burnt (hb : outcome = ⟨after, .error e, []⟩)
    (hn : after.nextCapId = kernel.nextCapId + 1) : ¬ outcome.attempt.Clean kernel := by
  rw [hb]
  intro hc
  have hs : after = kernel := (hc nofun).2
  rw [hs] at hn
  simp at hn

lemma mem_of_get (hc : kernel.capSpaces[pid]? = some cs) : pid ∈ kernel.capSpaces :=
  (BTreeMap.mem_iff ..).mpr ⟨cs, hc⟩

-- A failed call changes nothing and returns no commit exactly if no id was taken in vain.
theorem attempt_clean_iff (kernel : KernelCore) (now : UInt64) (op : CapOp) :
    (kernel.attempt now op).Clean kernel ↔ kernel.Placeable now op := by
  cases op with
  | GrantCapability fromPid fromSlot toPid perms =>
    rcases kernel.grantCapability_cases fromPid fromSlot toPid perms now with
      ⟨e, hi, hg⟩ | ⟨source, hv, hc, hg⟩ | ⟨_, _, -, hc, hg⟩
    · exact iff_of_true (clean_of_refused hg) (.inr fun _ hv => nomatch hi.symm.trans hv)
    · refine iff_of_false (not_clean_of_burnt hg rfl) ?_
      rintro (hm | hi)
      · exact BTreeMap.not_mem_iff.mpr hc hm
      · exact hi source hv
    · exact iff_of_true (clean_of_done hg) (.inl (mem_of_get hc))
  | GrantCapabilityToEndpoint ownerPid eid toPid perms =>
    rcases kernel.grantCapabilityToEndpoint_cases ownerPid eid toPid perms now with
      ⟨e, ht, hg⟩ | ⟨ep, hge, ho, hc, hg⟩ |
        ⟨_, _, -, -, hc, hg⟩
    · exact iff_of_true (clean_of_refused hg) (.inr ht)
    · refine iff_of_false (not_clean_of_burnt hg rfl) ?_
      rintro (hm | ht)
      · exact BTreeMap.not_mem_iff.mpr hc hm
      · exact ht ep hge ho
    · exact iff_of_true (clean_of_done hg) (.inl (mem_of_get hc))
  | DeriveCapability pid slot perms =>
    refine iff_of_true ?_ trivial
    rcases kernel.deriveCapability_cases pid slot perms now with
      ⟨_, -, hd⟩ | ⟨_, _, -, -, hd⟩
    · exact clean_of_refused hd
    · exact clean_of_done hd
  | RevokeCapability pid slot =>
    refine iff_of_true ?_ trivial
    rcases kernel.revokeCapability_cases pid slot now with
      ⟨_, he⟩ | ⟨_, _, -, -, -, -, he⟩
    · exact clean_of_refused he
    · exact clean_of_done he
  | DeleteCapability pid slot =>
    refine iff_of_true ?_ trivial
    rcases kernel.deleteCapability_cases pid slot now with ⟨_, -, hl⟩ | ⟨_, _, -, -, hl⟩
    · exact clean_of_refused hl
    · exact clean_of_done hl
  | CreateEndpoint owner =>
    rcases kernel.createEndpoint_cases owner now with
      ⟨ho, hr⟩ | ⟨ho, hc, after, hr, hvi⟩ | ⟨_, -, hc, hr⟩
    · exact iff_of_true (clean_of_refused hr) (.inr ho)
    · refine iff_of_false (not_clean_of_burnt hr (congrArg KernelView.nextCapId hvi)) ?_
      rintro (hm | ha)
      · exact BTreeMap.not_mem_iff.mpr hc hm
      · exact ha ho
    · exact iff_of_true (clean_of_done hr) (.inl (mem_of_get hc))
  | IpcSendWithCaps fromPid slot tag data slots =>
    refine iff_of_true ?_ trivial
    rcases kernel.ipcSendWithCaps_cases fromPid slot tag data slots now with
      ⟨_, hs⟩ | ⟨_, _, _, _, -, -, -, -, -, hs, -⟩
    · exact clean_of_refused hs
    · exact clean_of_done hs

theorem grant_burns_id :
    let kernel := ((KernelCore.new.registerProcess "owner" 0).1.createEndpoint 1 0).kernel
    let attempt := kernel.attempt 0 (.GrantCapability 1 0 9 Permissions.full)
    attempt.error = some .ProcessNotFound ∧ kernel.nextCapId = 2 ∧
      attempt.kernel.nextCapId = 3 := by
  decide +kernel

end KernelCore

end ZeroOS
