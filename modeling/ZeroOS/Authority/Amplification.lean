import ZeroOS.Authority.Holdings
import ZeroOS.Lib.Run

/-!
Authority over an object spreads but never grows.
-/

namespace ZeroOS

open CapSpaces List Run

inductive Right where
  | Read
  | Write
  | Grant
deriving DecidableEq

def Permissions.has (perms : Permissions) : Right → Bool
  | .Read => perms.read
  | .Write => perms.write
  | .Grant => perms.grant

structure Capability.Covers (source cap : Capability) : Prop where
  objectType : cap.objectType = source.objectType
  objectId : cap.objectId = source.objectId
  rights : ∀ right, cap.permissions.has right = true → source.permissions.has right = true

lemma Capability.Covers.refl (cap : Capability) : cap.Covers cap := ⟨rfl, rfl, fun _ h => h⟩

lemma covers_derived (source : Capability) (id : UInt64) (requested : Permissions) :
    source.Covers (source.derived id (attenuatePermissions source.permissions requested)) where
  objectType := rfl
  objectId := rfl
  rights := by
    intro right h
    cases right <;> exact (Bool.and_eq_true_iff.mp h).1

-- The calls that move capabilities: the typed interface and the receive that
-- installs what a message carries.
inductive Call where
  | Syscall (pid : ProcessId) (syscall : ZeroOS.Syscall) (now : UInt64)
  | ReceiveWithCaps (pid : ProcessId) (slot : CapSlot) (now : UInt64)

namespace KernelCore

def call (kernel : KernelCore) : Call → KernelCore
  | .Syscall pid syscall now => (kernel.handleSyscall pid syscall now).kernel
  | .ReceiveWithCaps pid slot now => (kernel.ipcReceiveWithCaps pid slot now).kernel

def allocated (kernel : KernelCore) (call : Call) : List EndpointId :=
  if (kernel.call call).nextEndpointId = kernel.nextEndpointId then [] else [kernel.nextEndpointId]

end KernelCore

namespace KernelView

variable {view view' : KernelView}

-- Some capability, in a space or in flight, gives the right over the object.
def Authority (view : KernelView) (objectType : ObjectType) (objectId : UInt64)
    (right : Right) : Prop :=
  ∃ cap, view.Holds cap ∧ cap.objectType = objectType ∧ cap.objectId = objectId ∧
    cap.permissions.has right = true

def Entitles (view : KernelView) (call : Call) (pid : ProcessId) (cap : Capability) : Prop :=
  (∃ now, call = .Syscall pid .CreateEndpoint now ∧ cap.objectType = .Endpoint ∧
    cap.objectId = view.nextEndpointId ∧ cap.permissions = Permissions.full) ∨
  (∃ caller slot perms now source, call = .Syscall caller (.CapGrant slot pid perms) now ∧
    view.capSpaces.capAt caller slot = some source ∧ source.permissions.grant = true ∧
    source.Covers cap) ∨
  (∃ slot perms now source, call = .Syscall pid (.CapDerive slot perms) now ∧
    view.capSpaces.capAt pid slot = some source ∧ source.Covers cap) ∨
  (∃ slot now, call = .ReceiveWithCaps pid slot now ∧ view.Queued cap)

lemma capAt_putSpace_insert (hc : view.capSpaces[pid]? = some cs)
    (hh : (view.putSpace pid (cs.insert new).2).capSpaces.capAt other slot = some cap)
    (ha : view.capSpaces.capAt other slot ≠ some cap) : other = pid ∧ cap = new := by
  simp only [putSpace, capAt_insert] at hh
  split_ifs at hh with he
  · subst he
    rcases CapabilitySpace.eq_or_get_of_get_insert hh with hn | ho
    · exact ⟨rfl, hn⟩
    · exact absurd ((capAt_of_get hc _).trans ho) ha
  · exact absurd hh ha

lemma capAt_of_putSpace (hc : view.capSpaces[pid]? = some cs)
    (hs : ∀ slot cap, smaller.get slot = some cap → cs.get slot = some cap)
    (hh : (view.putSpace pid smaller).capSpaces.capAt other slot = some cap) :
    view.capSpaces.capAt other slot = some cap := by
  simp only [putSpace, capAt_insert] at hh
  split_ifs at hh with he
  · subst he
    exact (capAt_of_get hc _).trans (hs _ cap hh)
  · exact hh

end KernelView

namespace SyscallStep

open KernelView

variable {pid : ProcessId} {now : UInt64} {view view' : KernelView} {syscall : Syscall}
  {result : SyscallResult} {commits : List CommitType} {cap : Capability}

section

variable (hstep : SyscallStep pid now view syscall result commits view')

include hstep

lemma origin (h : view'.Holds cap) :
    (cap.objectType = .Endpoint ∧ cap.objectId = view.nextEndpointId ∧
      view'.nextEndpointId ≠ view.nextEndpointId) ∨
    ∃ source, view.Holds source ∧ source.Covers cap := by
  have ho : view.Holds cap → ∃ source, view.Holds source ∧ source.Covers cap :=
    fun h => ⟨cap, h, .refl cap⟩
  cases hstep with
  | Refused | Query | Empty | BurnId | Exit => exact .inr (ho h)
  | CreateEndpoint _ _ _ hc =>
    rcases holds_of_insert h hc with rfl | hr
    · refine .inl ⟨rfl, rfl, ?_⟩
      simp [putSpace, burnCapId, addEndpoint]
    · exact .inr (ho (holds_addEndpoint hr))
  | FailEndpoint => exact .inr (ho (holds_failEndpoint h))
  | Send _ _ _ _ _ _ _ _ _ _ _ _ hg =>
    rcases holds_of_push hg h with hn | hr
    · cases hn
    · exact .inr (ho hr)
  | SendWithCaps _ _ _ _ _ _ _ _ _ _ hg hc =>
    exact .inr (ho (holds_of_pushCaps hg hc h))
  | Receive _ _ _ _ _ _ _ _ _ hg hq => exact .inr (ho (holds_of_pop hg hq h))
  | CapGrant _ _ _ source _ hh _ _ hc | CapDerive _ _ source _ hh _ hc =>
    rcases holds_of_insert h hc with rfl | hr
    · exact .inr ⟨source, holds_of_capAt hh, covers_derived ..⟩
    · exact .inr (ho hr)
  | CapRemove _ _ _ _ _ hc => exact .inr (ho (holds_of_remove hc h))
  | Kill => exact .inr (ho (holds_dropProcess h))

lemma nextEndpointId :
    view'.nextEndpointId = view.nextEndpointId ∨
      view'.nextEndpointId = view.nextEndpointId + 1 := by
  cases hstep with
  | CreateEndpoint | FailEndpoint => exact .inr rfl
  | _ => exact .inl rfl

lemma entitles (hh : view'.capSpaces.capAt other slot = some cap)
    (ha : view.capSpaces.capAt other slot ≠ some cap) :
    view.Entitles (.Syscall pid syscall now) other cap := by
  cases hstep with
  | CreateEndpoint _ _ _ hc =>
    obtain ⟨rfl, rfl⟩ := capAt_putSpace_insert hc hh ha
    exact .inl ⟨now, rfl, rfl, rfl, rfl⟩
  | CapGrant fromSlot _ perms source _ hs hg _ hc =>
    obtain ⟨rfl, rfl⟩ := capAt_putSpace_insert hc hh ha
    exact .inr (.inl ⟨pid, fromSlot, perms, now, source, rfl, hs, hg, covers_derived ..⟩)
  | CapDerive fromSlot perms source _ hs _ hc =>
    obtain ⟨rfl, rfl⟩ := capAt_putSpace_insert hc hh ha
    exact .inr (.inr (.inl ⟨fromSlot, perms, now, source, rfl, hs, covers_derived ..⟩))
  | SendWithCaps _ _ _ _ _ _ _ _ _ _ _ hc =>
    exact absurd (capAt_of_putSpace hc (fun _ _ => CapabilitySpace.get_of_get_takeAll) hh) ha
  | CapRemove _ _ _ _ _ hc =>
    exact absurd (capAt_of_putSpace hc (fun _ _ => CapabilitySpace.get_of_get_remove) hh) ha
  | Kill =>
    simp only [dropProcess, capAt_erase] at hh
    split_ifs at hh
    exact absurd hh ha
  | Refused | Query | Empty | FailEndpoint | Send | Receive | BurnId | Exit =>
    exact absurd hh ha

end

end SyscallStep

namespace KernelCore

variable {kernel : KernelCore}

open KernelView

lemma ipcReceiveWithCaps_origin
    (h : (kernel.ipcReceiveWithCaps pid slot now).kernel.view.Holds cap) :
    kernel.view.Holds cap := by
  rcases kernel.view_ipcReceiveWithCaps pid slot now with
    hs | ⟨_, _, _, _, _, hg, hq, hc, hv⟩
  · rwa [hs] at h
  · rw [hv] at h
    exact holds_of_popCaps hg hq hc h

lemma authority_of_call {call : Call}
    (h : (kernel.call call).view.Authority objectType objectId right) :
    (objectType = .Endpoint ∧ objectId ∈ kernel.allocated call) ∨
      kernel.view.Authority objectType objectId right := by
  obtain ⟨cap, hh, rfl, rfl, hr⟩ := h
  cases call with
  | Syscall pid syscall now =>
    rcases (kernel.handleSyscall_step pid syscall now).origin hh with
      ⟨ht, hi, hm⟩ | ⟨source, hs, hc⟩
    · refine .inl ⟨ht, ?_⟩
      have hm : (kernel.call (.Syscall pid syscall now)).nextEndpointId ≠
        kernel.nextEndpointId := hm
      rw [allocated, if_neg hm, hi]
      exact mem_singleton_self _
    · exact .inr ⟨source, hs, hc.objectType.symm, hc.objectId.symm, hc.rights right hr⟩
  | ReceiveWithCaps => exact .inr ⟨cap, ipcReceiveWithCaps_origin hh, rfl, rfl, hr⟩

lemma authority_of_run (h : (run call kernel calls).view.Authority objectType objectId right) :
    (objectType = .Endpoint ∧ objectId ∈ observed call allocated kernel calls) ∨
      kernel.view.Authority objectType objectId right := by
  induction calls generalizing kernel with
  | nil => exact .inr h
  | cons _ _ ih =>
    rcases ih h with ⟨ht, hm⟩ | hb
    · exact .inl ⟨ht, mem_append_right _ hm⟩
    · rcases authority_of_call hb with ⟨ht, hm⟩ | hs
      · exact .inl ⟨ht, mem_append_left _ hm⟩
      · exact .inr hs

lemma nextEndpointId_call (kernel : KernelCore) (call : Call) :
    (kernel.call call).nextEndpointId = kernel.nextEndpointId ∨
      (kernel.call call).nextEndpointId = kernel.nextEndpointId + 1 := by
  cases call with
  | Syscall => exact (kernel.handleSyscall_step ..).nextEndpointId
  | ReceiveWithCaps pid slot now =>
    refine .inl ?_
    rcases kernel.view_ipcReceiveWithCaps pid slot now with
      hv | ⟨_, _, _, _, _, _, _, _, hv⟩
    · exact congrArg KernelView.nextEndpointId hv
    · exact congrArg KernelView.nextEndpointId hv

lemma mem_observed_allocated (h : eid ∈ observed call allocated kernel calls) :
    ∃ i < (observed call allocated kernel calls).length,
      eid.toNat = (kernel.nextEndpointId.toNat + i) % 2 ^ 64 := by
  induction calls generalizing kernel with
  | nil => cases h
  | cons next _ ih =>
    simp only [observed, length_append, mem_append] at h ⊢
    have hw := kernel.nextEndpointId.toNat_lt
    rcases kernel.nextEndpointId_call next with hs | hm
    · have hn : kernel.allocated next = [] := by rw [allocated, if_pos hs]
      rw [hn] at h ⊢
      rcases h with hni | hr
      · cases hni
      · obtain ⟨i, hi, he⟩ := ih hr
        rw [hs] at he
        exact ⟨i, by simpa using hi, he⟩
    · have ho : kernel.allocated next = [kernel.nextEndpointId] := by
        rw [allocated, if_neg (by rw [hm]; simp)]
      rw [ho] at h ⊢
      rcases h with hf | hr
      · rw [mem_singleton.mp hf]
        refine ⟨0, by simp only [length_singleton]; omega, ?_⟩
        omega
      · obtain ⟨i, hi, he⟩ := ih hr
        refine ⟨i + 1, by simp; omega, ?_⟩
        rw [he, hm, UInt64.toNat_add, UInt64.toNat_one]
        omega

lemma le_of_mem_observed_allocated (hw : kernel.nextEndpointId.toNat +
      (observed call allocated kernel calls).length ≤ 2 ^ 64)
    (h : eid ∈ observed call allocated kernel calls) : kernel.nextEndpointId ≤ eid := by
  obtain ⟨i, hi, he⟩ := mem_observed_allocated h
  rw [UInt64.le_iff_toNat_le]
  omega

lemma entitles_of_call {call : Call} (hh : (kernel.call call).capSpaces.capAt pid slot = some cap)
    (ha : kernel.capSpaces.capAt pid slot ≠ some cap) : kernel.view.Entitles call pid cap := by
  cases call with
  | Syscall => exact (kernel.handleSyscall_step ..).entitles hh ha
  | ReceiveWithCaps caller fromSlot now =>
    rcases kernel.view_ipcReceiveWithCaps caller fromSlot now with
      hs | ⟨eid, ep, _, msg, _, hg, hq, hcs, hv⟩
    · have hc := congrArg KernelView.capSpaces hs
      rw [call, ← view_capSpaces, hc] at hh
      exact absurd hh ha
    · have hc := congrArg KernelView.capSpaces hv
      rw [call, ← view_capSpaces, hc] at hh
      simp only [putSpace, capAt_insert] at hh
      split_ifs at hh with he
      · subst he
        rcases CapabilitySpace.mem_or_get_of_get_insertAll hh with hm | ho
        · exact .inr (.inr (.inr ⟨fromSlot, now, rfl, eid, ep, msg, hg, by simp [hq], hm⟩))
        · exact absurd ((capAt_of_get hcs _).trans ho) ha
      · exact absurd hh ha

-- Over a run, authority comes from the start or from an endpoint the run created, and
-- each call adds capabilities only to those entitled to them.
theorem no_amplification (kernel : KernelCore) (calls : List Call) :
    (∀ objectType objectId right,
      (Run.run call kernel calls).view.Authority objectType objectId right →
        (objectType = .Endpoint ∧ objectId ∈ Run.observed call allocated kernel calls) ∨
          kernel.view.Authority objectType objectId right) ∧
    (kernel.nextEndpointId.toNat + (Run.observed call allocated kernel calls).length ≤ 2 ^ 64 →
      ∀ eid ∈ Run.observed call allocated kernel calls, kernel.nextEndpointId ≤ eid) ∧
    (∀ call pid slot cap, (kernel.call call).capSpaces.capAt pid slot = some cap →
      kernel.capSpaces.capAt pid slot ≠ some cap → kernel.view.Entitles call pid cap) :=
  ⟨fun _ _ _ => authority_of_run, fun hw _ => le_of_mem_observed_allocated hw,
    fun _ _ _ _ => entitles_of_call⟩

def wrappingKernel : KernelCore :=
  { KernelCore.new with
    processes := (∅ : BTreeMap ProcessId Process).insert 1 ⟨1, "init", .Running, {}⟩
    capSpaces := (∅ : CapSpaces).insert 1 CapabilitySpace.new
    nextEndpointId := 0xFFFFFFFFFFFFFFFF }

lemma wrappingKernel_not_authority : ¬ wrappingKernel.view.Authority objectType objectId right := by
  rintro ⟨_, ⟨_, _, hh⟩ | ⟨_, _, _, hg, -⟩, -⟩
  · simp only [view_capSpaces, wrappingKernel, capAt_insert] at hh
    split_ifs at hh
    · simp [CapabilitySpace.new, CapabilitySpace.get] at hh
    · simp [capAt] at hh
  · simp [wrappingKernel, KernelCore.new] at hg

def twoEndpoints : List Call := [.Syscall 1 .CreateEndpoint 0, .Syscall 1 .CreateEndpoint 0]

theorem authority_below_counter :
    (Run.run call wrappingKernel twoEndpoints).view.Authority .Endpoint 0 .Read ∧
      ¬ (wrappingKernel.nextEndpointId ≤ 0 ∨ wrappingKernel.view.Authority .Endpoint 0 .Read) := by
  refine ⟨⟨⟨2, .Endpoint, 0, Permissions.full, 0, 0⟩, .inl ⟨1, 1, ?_⟩, rfl, rfl, rfl⟩, ?_⟩
  · decide +kernel
  · rintro (hl | ha)
    · exact absurd hl (by decide)
    · exact wrappingKernel_not_authority ha

theorem no_amplification_twoEndpoints :
    (0 : UInt64) ∈ Run.observed call allocated wrappingKernel twoEndpoints := by
  rcases (no_amplification wrappingKernel twoEndpoints).1 .Endpoint 0 .Read
    ⟨⟨2, .Endpoint, 0, Permissions.full, 0, 0⟩, .inl ⟨1, 1, by decide +kernel⟩, rfl, rfl, rfl⟩ with
    ⟨-, hm⟩ | ha
  · exact hm
  · exact absurd ha wrappingKernel_not_authority

end KernelCore

end ZeroOS
