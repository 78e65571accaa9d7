import ZeroOS.Kernel.Core

/-!
Capability operations: grant, revoke, delete and derive.
-/

namespace ZeroOS

def attenuatePermissions (source requested : Permissions) : Permissions :=
  { read := source.read && requested.read
    write := source.write && requested.write
    grant := source.grant && requested.grant }

def createCapRemovedCommit (pid : ProcessId) (slot : CapSlot) (timestamp : UInt64) : Commit :=
  .draft timestamp (.CapRemoved pid slot)

namespace KernelCore

def grantPerms : Permissions := ⟨false, false, true⟩

variable (kernel : KernelCore) (pid : ProcessId) (slot : CapSlot)

def validateGrantSource (fromPid : ProcessId) (fromSlot : CapSlot) (timestamp : UInt64) :
    Except KernelError Capability :=
  match kernel.capSpaces[fromPid]? with
  | none => .error .ProcessNotFound
  | some cspace => (axiomCheck cspace fromSlot grantPerms none timestamp).mapError mapAxiomError

def validateRevokePermission (timestamp : UInt64) : Except KernelError UInt64 :=
  match kernel.capSpaces[pid]? with
  | none => .error .ProcessNotFound
  | some cspace =>
    ((axiomCheck cspace slot grantPerms none timestamp).map Capability.id).mapError mapAxiomError

def validateDeriveSource (timestamp : UInt64) : Except KernelError Capability :=
  match kernel.capSpaces[pid]? with
  | none => .error .ProcessNotFound
  | some cspace =>
    (axiomCheck cspace slot Permissions.default none timestamp).mapError mapAxiomError

-- As for an endpoint's owner, an id is used up even when the target has no space.
def createDerivedCap (toPid : ProcessId) (sourceCap : Capability) (newPerms : Permissions)
    (timestamp : UInt64) : KernelCore × Except KernelError (CapSlot × List Commit) :=
  let (newCapId, kernel) := kernel.takeNextCapId
  let newCap : Capability :=
    { id := newCapId, objectType := sourceCap.objectType, objectId := sourceCap.objectId,
      permissions := newPerms, generation := sourceCap.generation,
      expiresAt := sourceCap.expiresAt }
  match kernel.capSpaces[toPid]? with
  | none => (kernel, .error .ProcessNotFound)
  | some cspace =>
    let (toSlot, cspace) := cspace.insert newCap
    let commit := Commit.draft timestamp
      (.CapInserted toPid toSlot newCapId sourceCap.objectType.toU8 sourceCap.objectId
        newPerms.toByte)
    ({ kernel with capSpaces := kernel.capSpaces.insert toPid cspace }, .ok (toSlot, [commit]))

def insertedCapId (capCommits : List Commit) : UInt64 :=
  match capCommits.getLast? with
  | some { commitType := .CapInserted _ _ capId _ _ _, .. } => capId
  | _ => 0

def grantCapability (fromPid : ProcessId) (fromSlot : CapSlot) (toPid : ProcessId)
    (newPerms : Permissions) (timestamp : UInt64) : Outcome CapSlot :=
  match kernel.validateGrantSource fromPid fromSlot timestamp with
  | .error e => ⟨kernel, .error e, []⟩
  | .ok sourceCap =>
    let grantedPerms := attenuatePermissions sourceCap.permissions newPerms
    match kernel.createDerivedCap toPid sourceCap grantedPerms timestamp with
    | (kernel, .error e) => ⟨kernel, .error e, []⟩
    | (kernel, .ok (toSlot, capCommits)) =>
      ⟨kernel, .ok toSlot,
        .draft timestamp
          (.CapGranted fromPid toPid fromSlot toSlot (insertedCapId capCommits) grantedPerms) ::
        capCommits⟩

def grantCapabilityToEndpoint (ownerPid : ProcessId) (endpointId : EndpointId) (toPid : ProcessId)
    (perms : Permissions) (timestamp : UInt64) : Outcome CapSlot :=
  match kernel.endpoints[endpointId]? with
  | none => ⟨kernel, .error .EndpointNotFound, []⟩
  | some endpoint =>
    if endpoint.owner ≠ ownerPid then ⟨kernel, .error .PermissionDenied, []⟩
    else
      let (newCapId, kernel) := kernel.takeNextCapId
      let newCap : Capability :=
        { id := newCapId, objectType := .Endpoint, objectId := endpointId, permissions := perms,
          generation := 0, expiresAt := 0 }
      match kernel.capSpaces[toPid]? with
      | none => ⟨kernel, .error .ProcessNotFound, []⟩
      | some cspace =>
        let (toSlot, cspace) := cspace.insert newCap
        ⟨{ kernel with capSpaces := kernel.capSpaces.insert toPid cspace }, .ok toSlot,
          [.draft timestamp (.CapInserted toPid toSlot newCapId ObjectType.Endpoint.toU8
            endpointId perms.toByte)]⟩

def removeSlot (timestamp : UInt64) : Outcome Unit :=
  let commits := [createCapRemovedCommit pid slot timestamp]
  match kernel.capSpaces[pid]? with
  | none => ⟨kernel, .error .ProcessNotFound, commits⟩
  | some cspace =>
    ⟨{ kernel with capSpaces := kernel.capSpaces.insert pid (cspace.remove slot).2 }, .ok (),
      commits⟩

def revokeCapability (timestamp : UInt64) : Outcome Unit :=
  match kernel.validateRevokePermission pid slot timestamp with
  | .error e => ⟨kernel, .error e, []⟩
  | .ok _ => kernel.removeSlot pid slot timestamp

def deleteCapability (timestamp : UInt64) : Outcome Unit :=
  match kernel.capSpaces[pid]? with
  | none => ⟨kernel, .error .ProcessNotFound, []⟩
  | some cspace =>
    match cspace.get slot with
    | none => ⟨kernel, .error .InvalidCapability, []⟩
    | some _ => kernel.removeSlot pid slot timestamp

def deriveCapability (newPerms : Permissions) (timestamp : UInt64) : Outcome CapSlot :=
  match kernel.validateDeriveSource pid slot timestamp with
  | .error e => ⟨kernel, .error e, []⟩
  | .ok sourceCap =>
    let derivedPerms := attenuatePermissions sourceCap.permissions newPerms
    match kernel.createDerivedCap pid sourceCap derivedPerms timestamp with
    | (kernel, .error e) => ⟨kernel, .error e, []⟩
    | (kernel, .ok (newSlot, capCommits)) => ⟨kernel, .ok newSlot, capCommits⟩

end KernelCore

end ZeroOS
