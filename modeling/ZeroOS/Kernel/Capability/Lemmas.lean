import ZeroOS.Kernel.View.Lemmas

/-!
The operations that make and remove capabilities, and endpoint creation with the capability of its
owner.
-/

namespace ZeroOS

open CapSpaces Permissions

lemma mapError_eq_ok_iff {x : Except ε α} : x.mapError f = .ok a ↔ x = .ok a := by
  cases x <;> simp [Except.mapError]

lemma map_eq_ok_iff {x : Except ε α} : x.map f = .ok b ↔ ∃ a, x = .ok a ∧ f a = b := by
  cases x <;> simp [Except.map]

def Capability.derived (source : Capability) (id : UInt64) (perms : Permissions) : Capability :=
  { source with id, permissions := perms }

def Capability.endpoint (id : UInt64) (endpointId : EndpointId) (perms : Permissions) : Capability :=
  { id, objectType := .Endpoint, objectId := endpointId, permissions := perms, generation := 0,
    expiresAt := 0 }

-- What a commit keeps of a capability: neither the generation nor the expiry.
def Capability.recorded (cap : Capability) : Capability :=
  { cap with generation := 0, expiresAt := 0 }

def Capability.Plain (cap : Capability) : Prop := cap.generation = 0 ∧ cap.expiresAt = 0

lemma recorded_eq_self_iff (cap : Capability) : cap.recorded = cap ↔ cap.Plain := by
  obtain ⟨_, _, _, _, _, _⟩ := cap
  simp only [Capability.recorded, Capability.mk.injEq, true_and]
  exact and_congr eq_comm eq_comm

def CommitType.ofInsert (pid : ProcessId) (slot : CapSlot) (cap : Capability) : CommitType :=
  .CapInserted pid slot cap.id cap.objectType.toU8 cap.objectId cap.permissions.toByte

namespace KernelCore

variable (kernel : KernelCore)

def installCap (pid : ProcessId) (cspace : CapabilitySpace) (cap : Capability) : KernelCore :=
  { kernel with
    nextCapId := kernel.nextCapId + 1
    capSpaces := kernel.capSpaces.insert pid (cspace.insert cap).2 }

section

variable (pid : ProcessId) (slot : CapSlot) (toPid : ProcessId) (perms : Permissions)
  (now : UInt64)

lemma validateGrantSource_ok_iff :
    kernel.validateGrantSource pid slot now = .ok source ↔
      kernel.capSpaces.capAt pid slot = some source ∧ source.permissions.grant = true ∧
        source.isExpired now = false := by
  unfold validateGrantSource capAt
  cases kernel.capSpaces[pid]? with
  | none => simp
  | some => simp [mapError_eq_ok_iff, axiomCheck_ok_iff, grantPerms]

lemma validateRevokePermission_ok_iff (id : UInt64) :
    kernel.validateRevokePermission pid slot now = .ok id ↔
      ∃ cap, kernel.capSpaces.capAt pid slot = some cap ∧ cap.permissions.grant = true ∧
        cap.isExpired now = false ∧ cap.id = id := by
  unfold validateRevokePermission capAt
  cases kernel.capSpaces[pid]? with
  | none => simp
  | some => simp [mapError_eq_ok_iff, map_eq_ok_iff, axiomCheck_ok_iff, grantPerms, and_assoc]

lemma validateDeriveSource_ok_iff :
    kernel.validateDeriveSource pid slot now = .ok source ↔
      kernel.capSpaces.capAt pid slot = some source ∧ source.isExpired now = false := by
  unfold validateDeriveSource capAt
  cases kernel.capSpaces[pid]? with
  | none => simp
  | some => simp [mapError_eq_ok_iff, axiomCheck_ok_iff, Permissions.default]

lemma createDerivedCap_eq (source : Capability) (perms : Permissions) :
    kernel.createDerivedCap toPid source perms now =
      match kernel.capSpaces[toPid]? with
      | none => ({ kernel with nextCapId := kernel.nextCapId + 1 }, .error .ProcessNotFound)
      | some cs =>
        (kernel.installCap toPid cs (source.derived kernel.nextCapId perms),
          .ok (cs.nextSlot, [.draft now
            (.ofInsert toPid cs.nextSlot (source.derived kernel.nextCapId perms))])) := by
  unfold createDerivedCap takeNextCapId
  dsimp only
  cases kernel.capSpaces[toPid]? with
  | none | some => rfl

-- A grant is refused, or uses up an id for a target without a space, or puts an
-- attenuated copy of the source into the target's space.
lemma grantCapability_cases (fromPid : ProcessId) (fromSlot : CapSlot) (toPid : ProcessId)
    (perms : Permissions) (now : UInt64) :
    (∃ e, kernel.validateGrantSource fromPid fromSlot now = .error e ∧
      kernel.grantCapability fromPid fromSlot toPid perms now = ⟨kernel, .error e, []⟩) ∨
    (∃ source, kernel.validateGrantSource fromPid fromSlot now = .ok source ∧
      kernel.capSpaces[toPid]? = none ∧
      kernel.grantCapability fromPid fromSlot toPid perms now =
        ⟨{ kernel with nextCapId := kernel.nextCapId + 1 }, .error .ProcessNotFound, []⟩) ∨
    (∃ source cs, kernel.validateGrantSource fromPid fromSlot now = .ok source ∧
      kernel.capSpaces[toPid]? = some cs ∧
      kernel.grantCapability fromPid fromSlot toPid perms now =
        ⟨kernel.installCap toPid cs (source.derived kernel.nextCapId
            (attenuatePermissions source.permissions perms)),
          .ok cs.nextSlot,
          [.draft now (.CapGranted fromPid toPid fromSlot cs.nextSlot kernel.nextCapId
              (attenuatePermissions source.permissions perms)),
            .draft now (.ofInsert toPid cs.nextSlot (source.derived kernel.nextCapId
              (attenuatePermissions source.permissions perms)))]⟩) := by
  unfold grantCapability
  cases hs : kernel.validateGrantSource fromPid fromSlot now with
  | error e => exact .inl ⟨e, rfl, rfl⟩
  | ok source =>
    refine .inr ?_
    simp only [createDerivedCap_eq]
    cases hc : kernel.capSpaces[toPid]? with
    | none => exact .inl ⟨source, rfl, rfl, rfl⟩
    | some cs => exact .inr ⟨source, cs, rfl, rfl, rfl⟩

lemma grantCapabilityToEndpoint_cases (ownerPid : ProcessId) (eid : EndpointId)
    (toPid : ProcessId) (perms : Permissions) (now : UInt64) :
    (∃ e, (∀ ep, kernel.endpoints[eid]? = some ep → ep.owner ≠ ownerPid) ∧
      kernel.grantCapabilityToEndpoint ownerPid eid toPid perms now = ⟨kernel, .error e, []⟩) ∨
    (∃ ep, kernel.endpoints[eid]? = some ep ∧ ep.owner = ownerPid ∧
      kernel.capSpaces[toPid]? = none ∧
      kernel.grantCapabilityToEndpoint ownerPid eid toPid perms now =
        ⟨{ kernel with nextCapId := kernel.nextCapId + 1 }, .error .ProcessNotFound, []⟩) ∨
    (∃ ep cs, kernel.endpoints[eid]? = some ep ∧ ep.owner = ownerPid ∧
      kernel.capSpaces[toPid]? = some cs ∧
      kernel.grantCapabilityToEndpoint ownerPid eid toPid perms now =
        ⟨kernel.installCap toPid cs (.endpoint kernel.nextCapId eid perms), .ok cs.nextSlot,
          [.draft now (.ofInsert toPid cs.nextSlot (.endpoint kernel.nextCapId eid perms))]⟩) := by
  unfold grantCapabilityToEndpoint takeNextCapId
  cases hg : kernel.endpoints[eid]? with
  | none => exact .inl ⟨_, nofun, rfl⟩
  | some ep =>
    by_cases ho : ep.owner = ownerPid
    · refine .inr ?_
      simp only [ne_eq, ho]
      cases hc : kernel.capSpaces[toPid]? with
      | none => exact .inl ⟨ep, rfl, ho, rfl, rfl⟩
      | some cs => exact .inr ⟨ep, cs, rfl, ho, rfl, rfl⟩
    · refine .inl ⟨.PermissionDenied, ?_, by simp [ho]⟩
      rintro other ht rfl
      exact ho (by rw [Option.some.inj ht])

lemma deriveCapability_cases :
    (∃ e, kernel.validateDeriveSource pid slot now = .error e ∧
      kernel.deriveCapability pid slot perms now = ⟨kernel, .error e, []⟩) ∨
    (∃ source cs, kernel.validateDeriveSource pid slot now = .ok source ∧
      kernel.capSpaces[pid]? = some cs ∧
      kernel.deriveCapability pid slot perms now =
        ⟨kernel.installCap pid cs (source.derived kernel.nextCapId
            (attenuatePermissions source.permissions perms)),
          .ok cs.nextSlot,
          [.draft now (.ofInsert pid cs.nextSlot (source.derived kernel.nextCapId
            (attenuatePermissions source.permissions perms)))]⟩) := by
  unfold deriveCapability
  cases hs : kernel.validateDeriveSource pid slot now with
  | error e => exact .inl ⟨e, rfl, rfl⟩
  | ok source =>
    refine .inr ?_
    have hh := ((validateDeriveSource_ok_iff ..).mp hs).1
    obtain ⟨cs, hc, -⟩ := capAt_eq_some_iff.mp hh
    simp only [createDerivedCap_eq, hc]
    exact ⟨source, cs, rfl, rfl, rfl⟩

def openEndpoint (owner : ProcessId) : KernelCore :=
  { kernel with
    nextEndpointId := kernel.nextEndpointId + 1
    endpoints := kernel.endpoints.insert kernel.nextEndpointId
      ⟨kernel.nextEndpointId, owner, [], {}⟩ }

lemma view_installCap :
    (kernel.installCap pid cs cap).view =
      kernel.view.burnCapId.putSpace pid (cs.insert cap).2 := rfl

end

lemma view_openEndpoint : (kernel.openEndpoint owner).view = kernel.view.addEndpoint owner := by
  simp only [view, openEndpoint, BTreeMap.map_insert]
  rfl

lemma grantOwnerEndpointCap_eq (owner : ProcessId) (eid : EndpointId) :
    kernel.grantOwnerEndpointCap owner eid now =
      match kernel.capSpaces[owner]? with
      | none => ({ kernel with nextCapId := kernel.nextCapId + 1 }, .error .ProcessNotFound)
      | some cs =>
        (kernel.installCap owner cs (.endpoint kernel.nextCapId eid full),
          .ok (cs.nextSlot, [.draft now (.ofInsert owner cs.nextSlot
            (.endpoint kernel.nextCapId eid full))])) := by
  unfold grantOwnerEndpointCap takeNextCapId
  dsimp only
  cases kernel.capSpaces[owner]? with
  | none | some => rfl

lemma createEndpoint_cases (owner : ProcessId) (now : UInt64) :
    (owner ∉ kernel.processes ∧
      kernel.createEndpoint owner now = ⟨kernel, .error .ProcessNotFound, []⟩) ∨
    (owner ∈ kernel.processes ∧ kernel.capSpaces[owner]? = none ∧
      ∃ kernel', kernel.createEndpoint owner now = ⟨kernel', .error .ProcessNotFound, []⟩ ∧
        kernel'.view = kernel.view.failEndpoint.burnCapId) ∨
    (∃ cs, owner ∈ kernel.processes ∧ kernel.capSpaces[owner]? = some cs ∧
      kernel.createEndpoint owner now =
        ⟨(kernel.openEndpoint owner).installCap owner cs
            (.endpoint kernel.nextCapId kernel.nextEndpointId full),
          .ok (kernel.nextEndpointId, cs.nextSlot),
          [.draft now (.EndpointCreated kernel.nextEndpointId owner),
            .draft now (.ofInsert owner cs.nextSlot
              (.endpoint kernel.nextCapId kernel.nextEndpointId full))]⟩) := by
  unfold createEndpoint
  by_cases ho : owner ∈ kernel.processes
  · refine .inr ?_
    simp only [ho, grantOwnerEndpointCap_eq]
    cases hc : kernel.capSpaces[owner]? with
    | none =>
      refine .inl ⟨trivial, rfl, _, rfl, ?_⟩
      simp only [view, KernelView.failEndpoint, KernelView.burnCapId, BTreeMap.map_erase,
        BTreeMap.erase_insert]
    | some cs => exact .inr ⟨cs, trivial, rfl, rfl⟩
  · refine .inl ⟨ho, ?_⟩
    simp [ho]

lemma removeSlot_of_get (hc : kernel.capSpaces[pid]? = some cs) :
    kernel.removeSlot pid slot now =
      ⟨{ kernel with capSpaces := kernel.capSpaces.insert pid (cs.remove slot).2 }, .ok (),
        [.draft now (.CapRemoved pid slot)]⟩ := by
  simp only [removeSlot, hc]
  rfl

lemma revokeCapability_cases (pid : ProcessId) (slot : CapSlot) (now : UInt64) :
    (∃ e, kernel.revokeCapability pid slot now = ⟨kernel, .error e, []⟩) ∨
    (∃ cap cs, kernel.capSpaces[pid]? = some cs ∧ cs.get slot = some cap ∧
      cap.permissions.grant = true ∧ cap.isExpired now = false ∧
      kernel.revokeCapability pid slot now =
        ⟨{ kernel with capSpaces := kernel.capSpaces.insert pid (cs.remove slot).2 }, .ok (),
          [.draft now (.CapRemoved pid slot)]⟩) := by
  unfold revokeCapability
  cases hv : kernel.validateRevokePermission pid slot now with
  | error e => exact .inl ⟨e, rfl⟩
  | ok =>
    obtain ⟨cap, hh, hr, he, -⟩ := (validateRevokePermission_ok_iff ..).mp hv
    obtain ⟨cs, hc, hg⟩ := capAt_eq_some_iff.mp hh
    exact .inr ⟨cap, cs, hc, hg, hr, he, kernel.removeSlot_of_get hc⟩

lemma deleteCapability_cases (pid : ProcessId) (slot : CapSlot) (now : UInt64) :
    (∃ e, kernel.capSpaces.capAt pid slot = none ∧
      kernel.deleteCapability pid slot now = ⟨kernel, .error e, []⟩) ∨
    (∃ cap cs, kernel.capSpaces[pid]? = some cs ∧ cs.get slot = some cap ∧
      kernel.deleteCapability pid slot now =
        ⟨{ kernel with capSpaces := kernel.capSpaces.insert pid (cs.remove slot).2 }, .ok (),
          [.draft now (.CapRemoved pid slot)]⟩) := by
  unfold deleteCapability
  cases hc : kernel.capSpaces[pid]? with
  | none => exact .inl ⟨.ProcessNotFound, by simp [capAt, hc], rfl⟩
  | some cs =>
    cases hg : cs.get slot with
    | none =>
      refine .inl ⟨.InvalidCapability, by simp [capAt, hc, hg], ?_⟩
      simp [hg]
    | some cap =>
      refine .inr ⟨cap, cs, rfl, hg, ?_⟩
      simp only [hg]
      exact kernel.removeSlot_of_get hc

end KernelCore

end ZeroOS
