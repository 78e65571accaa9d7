import ZeroOS.Kernel.Core

/-!
Endpoint creation.
-/

namespace ZeroOS.KernelCore

def grantOwnerEndpointCap (kernel : KernelCore) (owner : ProcessId) (endpointId : EndpointId)
    (timestamp : UInt64) : KernelCore × Except KernelError (CapSlot × List Commit) :=
  let (capId, kernel) := kernel.takeNextCapId
  let perms := Permissions.full
  let cap : Capability :=
    { id := capId, objectType := .Endpoint, objectId := endpointId, permissions := perms,
      generation := 0, expiresAt := 0 }
  match kernel.capSpaces[owner]? with
  | none => (kernel, .error .ProcessNotFound)
  | some cspace =>
    let (slot, cspace) := cspace.insert cap
    let commit := Commit.draft timestamp
      (.CapInserted owner slot capId ObjectType.Endpoint.toU8 endpointId perms.toByte)
    ({ kernel with capSpaces := kernel.capSpaces.insert owner cspace }, .ok (slot, [commit]))

def createEndpoint (kernel : KernelCore) (owner : ProcessId) (timestamp : UInt64) :
    Outcome (EndpointId × CapSlot) :=
  if owner ∉ kernel.processes then ⟨kernel, .error .ProcessNotFound, []⟩
  else
    let id := kernel.nextEndpointId
    let endpoint : Endpoint := { id, owner, pendingMessages := [], metrics := {} }
    let kernel := { kernel with
      nextEndpointId := kernel.nextEndpointId + 1
      endpoints := kernel.endpoints.insert id endpoint }
    match kernel.grantOwnerEndpointCap owner id timestamp with
    | (kernel, .ok (slot, capCommits)) =>
      ⟨kernel, .ok (id, slot), .draft timestamp (.EndpointCreated id owner) :: capCommits⟩
    | (kernel, .error e) => ⟨{ kernel with endpoints := kernel.endpoints.erase id }, .error e, []⟩

end ZeroOS.KernelCore
