import ZeroOS.Kernel.View.Lemmas
import ZeroOS.Permission.Service

/-!
The table of the permission service against the capability spaces of the kernel.
-/

namespace ZeroOS

open PermissionService CapSpaces
open Permission

namespace Permission

-- `made` names the slots in which the service has put a capability that was not taken away
-- since.
structure Ledger where
  capSpaces : CapSpaces
  made : List (ProcessId × CapSlot)

end Permission

namespace PermissionService

def Records (service : PermissionService) (pid : UInt32) (kind : UInt8) (slot : UInt32)
    (permissions : UInt8) : Prop :=
  ∃ reason, service.grantedCaps[(pid, kind)]? = some ⟨slot, permissions, reason⟩

variable {service : PermissionService}

lemma Records.same (hr : service.Records pid kind slot permissions)
    (ho : service.Records pid kind slot' permissions') :
    slot' = slot ∧ permissions' = permissions := by
  obtain ⟨_, hg⟩ := hr
  obtain ⟨_, hg'⟩ := ho
  rw [hg] at hg'
  cases hg'
  exact ⟨rfl, rfl⟩

lemma records_of_get {grant : GrantedCap} (hg : service.grantedCaps[(pid, kind)]? = some grant) :
    service.Records pid kind grant.slot grant.permissions :=
  ⟨grant.reason, hg⟩

lemma not_records_of_get (hg : service.grantedCaps[(pid, kind)]? = none) :
    ¬ service.Records pid kind slot permissions := by
  rintro ⟨_, hs⟩
  rw [hg] at hs
  cases hs

variable (pid : UInt32) (objectType : Ipc.ObjectType) (slot : UInt32) (permissions : UInt8)
  (reason : String) (p : UInt32) (kind : UInt8) (s : UInt32) (m : UInt8)

lemma records_recordGrant :
    (service.recordGrant pid objectType slot permissions reason).Records p kind s m ↔
      if pid = p ∧ objectType.toU8 = kind then slot = s ∧ permissions = m
      else service.Records p kind s m := by
  unfold Records recordGrant
  simp only [BTreeMap.get_insert, Prod.mk.injEq]
  by_cases hk : pid = p ∧ objectType.toU8 = kind
  · simp [hk]
  · simp only [hk, ite_false]

lemma records_recordGrant_self :
    (service.recordGrant pid objectType slot permissions reason).Records pid objectType.toU8 slot
      permissions :=
  ⟨reason, by simp [recordGrant]⟩

lemma records_erase :
    ({ service with grantedCaps := service.grantedCaps.erase key }).Records p kind s m ↔
      key ≠ (p, kind) ∧ service.Records p kind s m := by
  unfold Records
  simp only [BTreeMap.get_erase]
  by_cases hk : key = (p, kind)
  · simp [hk]
  · simp [hk]

end PermissionService

namespace Permission

namespace Ledger

def Holds (ledger : Ledger) (pid : UInt32) (kind : UInt8) (slot : UInt32) (permissions : UInt8) :
    Prop :=
  (pid.toUInt64, slot) ∈ ledger.made ∧
    ∃ cap, ledger.capSpaces.capAt pid.toUInt64 slot = some cap ∧
      cap.objectType.toU8 = kind ∧ cap.permissions.toByte = permissions

-- What the kernel does for the service.

def install (ledger : Ledger) (pid : ProcessId) (cspace : CapabilitySpace) (cap : Capability) :
    Ledger where
  capSpaces := ledger.capSpaces.insert pid (cspace.insert cap).2
  made := (pid, cspace.nextSlot) :: ledger.made

def remove (ledger : Ledger) (pid : ProcessId) (cspace : CapabilitySpace) (slot : CapSlot) :
    Ledger where
  capSpaces := ledger.capSpaces.insert pid (cspace.remove slot).2
  made := ledger.made.filter (· ≠ (pid, slot))

def drop (ledger : Ledger) (pid : ProcessId) : Ledger where
  capSpaces := ledger.capSpaces.erase pid
  made := ledger.made.filter (·.1 ≠ pid)

variable {ledger : Ledger}

lemma Holds.same_kind (hh : ledger.Holds pid kind slot permissions)
    (ho : ledger.Holds pid kind' slot permissions') : kind' = kind := by
  obtain ⟨-, _, hc, rfl, -⟩ := hh
  obtain ⟨-, _, hc', rfl, -⟩ := ho
  rw [hc] at hc'
  cases hc'
  rfl

lemma holds_install (hc : ledger.capSpaces[pid.toUInt64]? = some cs) :
    (ledger.install pid.toUInt64 cs cap).Holds p kind s m ↔
      if pid = p ∧ cs.nextSlot = s then
        cap.objectType.toU8 = kind ∧ cap.permissions.toByte = m
      else ledger.Holds p kind s m := by
  simp only [Holds, install, capAt_insert, CapabilitySpace.get_insert, List.mem_cons,
    Prod.mk.injEq, UInt32.toUInt64_inj, eq_comm (a := p), eq_comm (a := s)]
  by_cases hp : pid = p
  · subst hp
    by_cases hs : cs.nextSlot = s
    · simp [hs]
    · simp [hs, capAt_of_get hc]
  · simp [hp]

lemma holds_remove (hc : ledger.capSpaces[pid.toUInt64]? = some cs) :
    (ledger.remove pid.toUInt64 cs slot).Holds p kind s m ↔
      ¬ (pid = p ∧ slot = s) ∧ ledger.Holds p kind s m := by
  simp only [Holds, remove, capAt_insert, CapabilitySpace.get_remove, List.mem_filter, ne_eq, Prod.mk.injEq, UInt32.toUInt64_inj, eq_comm (a := p),
    eq_comm (a := s)]
  by_cases hp : pid = p
  · subst hp
    by_cases hs : slot = s
    · simp [hs]
    · simp [hs, capAt_of_get hc]
  · simp [hp]

lemma holds_drop :
    (ledger.drop pid).Holds p kind s m ↔ p.toUInt64 ≠ pid ∧ ledger.Holds p kind s m := by
  simp only [Holds, drop, capAt_erase, eq_comm (a := pid)]
  by_cases hp : p.toUInt64 = pid
  · simp [hp]
  · simp [hp]

end Ledger

def Mirrors (service : PermissionService) (ledger : Ledger) : Prop :=
  ∀ pid kind slot permissions,
    service.Records pid kind slot permissions ↔ ledger.Holds pid kind slot permissions

variable {service : PermissionService} {ledger : Ledger}

namespace Mirrors

section

variable (hmir : Mirrors service ledger)

include hmir

lemma not_holds (hg : service.grantedCaps[(pid, kind)]? = none) :
    ¬ ledger.Holds pid kind slot permissions := by
  rw [← hmir]
  exact not_records_of_get hg

-- A new entry and a new capability match when they agree, and when the slot was not one that
-- the table names for the process.
lemma recordGrant_install_iff (hg : service.getGrant pid objectType = none)
    (hc : ledger.capSpaces[pid.toUInt64]? = some cs) (cap : Capability)
    (permissions : UInt8) (reason : String) :
    Mirrors (service.recordGrant pid objectType cs.nextSlot permissions reason)
        (ledger.install pid.toUInt64 cs cap) ↔
      cap.objectType.toU8 = objectType.toU8 ∧ cap.permissions.toByte = permissions ∧
        ∀ kind m, ¬ service.Records pid kind cs.nextSlot m := by
  simp only [Mirrors, records_recordGrant, Ledger.holds_install hc]
  constructor
  · intro ha
    have hn := ha pid objectType.toU8 cs.nextSlot permissions
    simp only [and_self, ite_true, true_iff] at hn
    refine ⟨hn.1, hn.2, ?_⟩
    intro kind m hr
    have ho := ha pid kind cs.nextSlot m
    have he : objectType.toU8 ≠ kind := by
      rintro rfl
      exact not_records_of_get hg hr
    simp only [he, and_false, ite_false, hr, true_iff] at ho
    exact he (hn.1.symm.trans ho.1)
  · rintro ⟨ht, hpe, hf⟩ p kind s m
    by_cases hp : pid = p
    · subst hp
      by_cases hs : cs.nextSlot = s
      · subst hs
        by_cases hk : objectType.toU8 = kind
        · simp [hk, ht, hpe]
        · simp [hk, ht, hf kind m]
      · by_cases hk : objectType.toU8 = kind
        · subst hk
          simp [hs, hmir.not_holds hg]
        · simp [hs, hk, hmir pid kind s m]
    · simp [hp, hmir p kind s m]

lemma not_recordGrant (hg : service.getGrant pid objectType = none)
    (hs : after.Holds pid objectType.toU8 slot permissions →
      ledger.Holds pid objectType.toU8 slot permissions) :
    ¬ Mirrors (service.recordGrant pid objectType slot permissions reason) after := by
  intro ha
  have hn := ha pid objectType.toU8 slot permissions
  simp only [records_recordGrant, and_self, ite_true, true_iff] at hn
  exact hmir.not_holds hg (hs hn)

lemma not_erase (hr : service.Records pid kind slot permissions) :
    ¬ Mirrors { service with grantedCaps := service.grantedCaps.erase (pid, kind) } ledger := by
  intro ha
  have hg := (ha pid kind slot permissions).mpr ((hmir ..).mp hr)
  rw [records_erase] at hg
  exact hg.1 rfl

lemma kind_tracked (hr : service.Records pid kind slot permissions) : kind ∈ trackedTypes := by
  obtain ⟨-, cap, -, rfl, -⟩ := (hmir ..).mp hr
  cases cap.objectType <;> decide

lemma records_untrack :
    (service.untrack pid slot).Records p kind s m ↔
      ¬ (pid = p ∧ slot = s) ∧ service.Records p kind s m := by
  unfold untrack
  cases ho : trackedTypes.find? fun kind =>
      service.grantedCaps[(pid, kind)]?.any fun grant => grant.slot = slot with
  | none =>
    refine (and_iff_right_of_imp ?_).symm
    rintro hr ⟨rfl, rfl⟩
    obtain ⟨reason, hg⟩ := hr
    refine List.find?_eq_none.mp ho kind (hmir.kind_tracked ⟨reason, hg⟩) ?_
    simp [hg]
  | some other =>
    have he := List.find?_some ho
    obtain ⟨grant, hg, hs⟩ := (Option.any_eq_true ..).mp he
    have ht : service.Records pid other slot grant.permissions :=
      of_decide_eq_true hs ▸ records_of_get hg
    rw [records_erase]
    refine and_congr_left fun hr => not_congr ?_
    rw [Prod.mk.injEq]
    refine and_congr_right ?_
    rintro rfl
    constructor
    · rintro rfl
      exact (hr.same ht).1
    · rintro rfl
      exact ((hmir ..).mp hr).same_kind ((hmir ..).mp ht)

lemma untrack_remove (hc : ledger.capSpaces[pid.toUInt64]? = some cs) :
    Mirrors (service.untrack pid slot) (ledger.remove pid.toUInt64 cs slot) := by
  intro p kind s m
  rw [hmir.records_untrack, Ledger.holds_remove hc, hmir]

lemma drop_iff :
    Mirrors service (ledger.drop pid) ↔
      ∀ p kind s m, service.Records p kind s m → p.toUInt64 ≠ pid := by
  simp only [Mirrors, Ledger.holds_drop, ← hmir _ _ _ _]
  constructor
  · intro ha p kind s m hr
    exact ((ha ..).mp hr).1
  · intro hl p kind s m
    exact (and_iff_right_of_imp (hl p kind s m)).symm

lemma of_same_made (hs : ∀ entry ∈ ledger.made,
      capSpaces.capAt entry.1 entry.2 = ledger.capSpaces.capAt entry.1 entry.2) :
    Mirrors service ⟨capSpaces, ledger.made⟩ := by
  intro pid kind slot permissions
  rw [hmir]
  refine and_congr_right fun hm => ?_
  rw [hs _ hm]

end

end Mirrors

end Permission

end ZeroOS
