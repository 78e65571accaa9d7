import ZeroOS.Axiom.Types
import ZeroOS.Lib.Program
import ZeroOS.Lib.Text
import ZeroOS.Vfs.Service

/-!
The permission service (`services/permission`).
-/

namespace ZeroOS

namespace Ipc

-- The object types of `zos-ipc`. The kernel knows the first six.
inductive ObjectType where
  | Endpoint
  | Process
  | Memory
  | Irq
  | IoPort
  | Console
  | Storage
  | Network
  | Filesystem
  | Identity
  | Keystore
deriving DecidableEq

namespace ObjectType

def toU8 : ObjectType → UInt8
  | Endpoint => 1
  | Process => 2
  | Memory => 3
  | Irq => 4
  | IoPort => 5
  | Console => 6
  | Storage => 7
  | Network => 8
  | Filesystem => 9
  | Identity => 10
  | Keystore => 11

def all : List ObjectType :=
  [Endpoint, Process, Memory, Irq, IoPort, Console, Storage, Network, Filesystem, Identity,
    Keystore]

def fromU8 (value : UInt8) : Option ObjectType := all.find? fun objectType => objectType.toU8 = value

def name : ObjectType → String
  | Endpoint => "Endpoint"
  | Process => "Process"
  | Memory => "Memory"
  | Irq => "IRQ"
  | IoPort => "I/O Port"
  | Console => "Console"
  | Storage => "Storage"
  | Network => "Network"
  | Filesystem => "Filesystem"
  | Identity => "Identity"
  | Keystore => "Keystore"

lemma toU8_of_fromU8 (h : fromU8 value = some objectType) : objectType.toU8 = value := by
  simpa using List.find?_some h

end ObjectType

end Ipc

namespace Permission

open Ipc (ObjectType)

open Vfs (AppMessage)

def MSG_REQUEST_CAPABILITY : UInt32 := 0x2010

def MSG_REVOKE_CAPABILITY : UInt32 := 0x2011

def MSG_LIST_MY_CAPS : UInt32 := 0x2012

def MSG_CAPABILITY_RESPONSE : UInt32 := 0x2013

def MSG_CAPS_LIST_RESPONSE : UInt32 := 0x2014

def MSG_SUPERVISOR_REVOKE_CAP : UInt32 := 0x2020

-- The process and the number of the object type.
abbrev CapKey := UInt32 × UInt8

instance : Ord CapKey := lexOrd

structure GrantedCap where
  slot : UInt32
  permissions : UInt8
  reason : String
deriving DecidableEq

inductive AppError where
  | IpcError (reason : String)
deriving DecidableEq

-- The syscalls of the service. Each is answered with a number or an error code.
inductive Call where
  | CapGrant (fromSlot toPid : UInt32) (perms : Permissions)
  | CapRevokeFrom (targetPid slot : UInt32)
  | Send (slot tag : UInt32) (data : List UInt8)
  | Debug (text : List Char)
deriving DecidableEq

abbrev Reply := Except UInt32 UInt32

end Permission

open Permission

open Vfs (AppMessage)

structure PermissionService where
  grantedCaps : BTreeMap CapKey GrantedCap := ∅
  consoleCapSlot : Option UInt32 := none
  spawnCapSlot : Option UInt32 := none
  endpointCapSlot : Option UInt32 := none

namespace Permission

-- A handler ends with the state it leaves and with what it returns.
abbrev Handler := Program Call Reply (PermissionService × Except AppError Unit)

def decimal (n : Nat) : List Char := Nat.toDigits 10 n

-- Text for the supervisor: the fields follow each other, with colons between.
def signal (channel : String) (fields : List (List Char)) : List Char :=
  List.intercalate [':'] ("PERMSVC".toList :: channel.toList :: fields)

structure CapRequest where
  objectType : Ipc.ObjectType
  permissions : UInt8
  reason : String
deriving DecidableEq

def parseCapRequest : List UInt8 → Except String CapRequest
  | kind :: permissions :: len0 :: len1 :: rest =>
    match Ipc.ObjectType.fromU8 kind with
    | none => .error "Unknown object type"
    | some objectType =>
      let reasonLen := len0.toNat + 256 * len1.toNat
      let reason :=
        if reasonLen ≤ rest.length then (fromUtf8 (rest.take reasonLen)).getD "(invalid reason)"
        else "(no reason)"
      .ok ⟨objectType, permissions, reason⟩
  | _ => .error "Invalid request format"

def successResponse (slot : UInt32) : List UInt8 := 1 :: (leBytes32 slot).toList

def errorResponse (error : String) : List UInt8 :=
  let bytes := utf8Bytes error
  0 :: UInt8.ofNat bytes.length :: UInt8.ofNat (bytes.length / 256) :: bytes

end Permission

namespace PermissionService

-- The state after `init`.
def started : PermissionService where
  consoleCapSlot := some 0
  spawnCapSlot := some 2
  endpointCapSlot := some 1

section

variable (service : PermissionService) (targetPid : UInt32) (objectType : Ipc.ObjectType)

def recordGrant (slot : UInt32) (permissions : UInt8) (reason : String) : PermissionService :=
  { service with grantedCaps :=
      service.grantedCaps.insert (targetPid, objectType.toU8) ⟨slot, permissions, reason⟩ }

def removeGrant : PermissionService :=
  { service with grantedCaps := service.grantedCaps.erase (targetPid, objectType.toU8) }

def getGrant : Option GrantedCap :=
  service.grantedCaps[(targetPid, objectType.toU8)]?

end

variable (service : PermissionService) (uiEndpoint : Option UInt32) (msg : AppMessage)

def listGrants (pid : UInt32) : List (Ipc.ObjectType × GrantedCap) :=
  service.grantedCaps.toList.filterMap fun ((owner, kind), cap) =>
    if owner = pid then (Ipc.ObjectType.fromU8 kind).map (·, cap) else none

-- The body that both responses share. Whoever asked, it goes to the one endpoint.
def sendResponse (response : List UInt8) : Handler :=
  match uiEndpoint with
  | none => .done (service, .ok ())
  | some endpointSlot =>
    .call (.Send endpointSlot MSG_CAPABILITY_RESPONSE response) fun
      | .ok _ => .done (service, .ok ())
      | .error e => .done (service, .error (.IpcError s!"Send failed: {e}"))

def sendSuccessResponse (slot : UInt32) : Handler :=
  service.sendResponse uiEndpoint (successResponse slot)

def sendErrorResponse (error : String) : Handler :=
  service.sendResponse uiEndpoint (errorResponse error)

-- The service's own slot for the types that it can grant; otherwise why it cannot.
def sourceSlot (objectType : Ipc.ObjectType) : Except String UInt32 :=
  let name := objectType.name
  let root (slot : Option UInt32) : Except String UInt32 :=
    match slot with
    | some slot => .ok slot
    | none => .error s!"No root capability for {name}"
  match objectType with
  | .Console => root service.consoleCapSlot
  | .Process => root service.spawnCapSlot
  | .Endpoint => root service.endpointCapSlot
  | _ => .error s!"{name} not yet supported"

-- When the syscall fails, the service's own slot is recorded and named in the answer.
def grant (pid : UInt32) (request : CapRequest) (fromSlot : UInt32) : Handler :=
  .call (.CapGrant fromSlot pid (Permissions.fromByte request.permissions)) fun
    | .ok newSlot =>
      (service.recordGrant pid request.objectType newSlot request.permissions
        request.reason).sendSuccessResponse uiEndpoint newSlot
    | .error _ =>
      .call (.Debug (signal "GRANT" [decimal pid.toNat, decimal fromSlot.toNat,
          decimal request.permissions.toNat])) fun _ =>
        (service.recordGrant pid request.objectType fromSlot request.permissions
          request.reason).sendSuccessResponse uiEndpoint fromSlot

def handleCapRequest : Handler :=
  match parseCapRequest msg.data with
  | .error error => service.sendErrorResponse uiEndpoint error
  | .ok request =>
    match service.getGrant msg.fromPid request.objectType with
    | some existing => service.sendSuccessResponse uiEndpoint existing.slot
    | none =>
      match service.sourceSlot request.objectType with
      | .error error => service.sendErrorResponse uiEndpoint error
      | .ok fromSlot => service.grant uiEndpoint msg.fromPid request fromSlot

def foundType (pid slot : UInt32) : Option Ipc.ObjectType :=
  (service.grantedCaps.firstEntry fun key grant => key.1 = pid ∧ grant.slot = slot).bind
    fun entry => Ipc.ObjectType.fromU8 entry.1.2

def handleCapRevoke : Handler :=
  if msg.data.length < 4 then service.sendErrorResponse uiEndpoint "Invalid revoke format"
  else
    let slot := leWord32 msg.data
    match service.foundType msg.fromPid slot with
    | some objectType =>
      .call (.Debug (signal "REVOKE" [decimal msg.fromPid.toNat, decimal slot.toNat])) fun _ =>
        (service.removeGrant msg.fromPid objectType).sendSuccessResponse uiEndpoint slot
    | none => service.sendErrorResponse uiEndpoint "Capability not found"

def capsList (pid : UInt32) : List UInt8 :=
  let grants := service.listGrants pid
  UInt8.ofNat grants.length :: grants.flatMap fun (objectType, grant) =>
    (leBytes32 grant.slot).toList ++ [objectType.toU8, grant.permissions]

def handleListCaps : Handler :=
  let response := service.capsList msg.fromPid
  .call (.Debug (signal "CAPS_LIST" [decimal msg.fromPid.toNat, Text.hex response])) fun _ =>
    match uiEndpoint with
    | none => .done (service, .ok ())
    | some slot =>
      .call (.Send slot MSG_CAPS_LIST_RESPONSE response) fun _ => .done (service, .ok ())

-- The types that a revocation by the supervisor looks through; there are more.
def trackedTypes : List UInt8 := [1, 2, 3, 4, 5, 6, 7, 8]

def untrack (targetPid slot : UInt32) : PermissionService :=
  match trackedTypes.find? fun kind =>
      service.grantedCaps[(targetPid, kind)]?.any fun grant => grant.slot = slot with
  | some kind => { service with grantedCaps := service.grantedCaps.erase (targetPid, kind) }
  | none => service

def handleSupervisorRevoke : Handler :=
  if msg.fromPid ≠ 0 ∨ msg.data.length < 9 then .done (service, .ok ())
  else
    let targetPid := leWord32 msg.data
    let slot := leWord32 (msg.data.drop 4)
    let reason := msg.data.getD 8 0
    .call (.CapRevokeFrom targetPid slot) fun
      | .ok _ =>
        .call (.Debug (signal "REVOKED" [decimal targetPid.toNat, decimal slot.toNat,
          decimal reason.toNat])) fun _ => .done (service.untrack targetPid slot, .ok ())
      | .error _ => .done (service, .ok ())

def onMessage : Handler :=
  if msg.tag = MSG_REQUEST_CAPABILITY then service.handleCapRequest uiEndpoint msg
  else if msg.tag = MSG_REVOKE_CAPABILITY then service.handleCapRevoke uiEndpoint msg
  else if msg.tag = MSG_LIST_MY_CAPS then service.handleListCaps uiEndpoint msg
  else if msg.tag = MSG_SUPERVISOR_REVOKE_CAP then service.handleSupervisorRevoke msg
  else .done (service, .ok ())

end PermissionService

end ZeroOS
