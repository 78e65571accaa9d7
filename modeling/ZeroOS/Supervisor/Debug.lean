import Mathlib.Data.List.Infix
import ZeroOS.Lib.Text
import ZeroOS.Supervisor.Routing

/-!
The debug channel (`supervisor/debug_dispatch.rs`, `supervisor/syscall_dispatch.rs`).
-/

namespace ZeroOS

-- A slice of a text that would cut a character. The supervisor stops there.
inductive SlicePanic where
  | NotCharBoundary
deriving DecidableEq

def MSG_SERVICE_CAP_GRANTED : UInt32 := 0x1006

def MSG_SERVICE_CAP_PREREGISTER : UInt32 := 0x1008

def MSG_SUPERVISOR_KILL_PROCESS : UInt32 := 0x2002

def SYS_DEBUG : UInt32 := 0x01

def SYS_CONSOLE_WRITE : UInt32 := 0x07

def SYS_EXIT : UInt32 := 0x11

-- The readings of the clock after the first one.
def Hal.later (hal : Hal) : Hal := { hal with nowNanos := fun n => hal.nowNanos (n + 1) }

inductive PingPongTestState where
  | Idle
  | WaitingForPinger (iterations : UInt32)
  | WaitingForPonger (iterations : UInt32) (pingerPid : UInt64)
  | SettingUpCaps (iterations : UInt32) (pingerPid pongerPid : UInt64)
  | StartingTest (iterations : UInt32) (pingerPid pongerPid : UInt64)
  | Running (iterations : UInt32) (pingerPid pongerPid startTime : UInt64)
  | Cleanup (pingerPid pongerPid : UInt64)
deriving DecidableEq

namespace PingPong

def CMD_PING : UInt32 := 0x3001

def CMD_PONG_MODE : UInt32 := 0x3002

def CMD_EXIT : UInt32 := 0x1005

end PingPong

-- A function of the page that the supervisor was given.
structure Callback where
  id : Nat
deriving DecidableEq

inductive JsCall where
  | Spawn (procType name : String)
  | IpcResponse (requestId json : String)
  | Console (pid : UInt64) (text : String)
deriving DecidableEq

structure Worker where
  name : String
  alive : Bool
deriving DecidableEq

-- `calls` records what the page is called with, and `sent` what Init is sent.
structure SupervisorState extends Supervisor where
  workers : BTreeMap UInt64 Worker
  consoleCallbacks : BTreeMap UInt64 Callback
  spawnCallback : Option Callback
  ipcResponseCallback : Option Callback
  terminalEndpointSlots : BTreeMap UInt64 CapSlot
  consoleBuffer : List String
  pingpongTest : PingPongTestState
  calls : List JsCall
  sent : List (UInt32 × List UInt8)

inductive DebugChannel where
  | InitSpawn
  | InitGrant
  | InitRevoke
  | InitKillOk
  | InitKillFail
  | InitPermResponse
  | InitPermList
  | InitLog
  | ServiceResponse
  | VfsResponse
  | KeystoreResponse
  | SpawnResponse
  | EndpointResponse
  | CapResponse
  | DeliveryFailed
  | AgentLog
  | Console
deriving DecidableEq

namespace DebugChannel

-- What a text for the channel starts with. All other texts are console output.
def header : DebugChannel → String
  | InitSpawn => "INIT:SPAWN:"
  | InitGrant => "INIT:GRANT:"
  | InitRevoke => "INIT:REVOKE:"
  | InitKillOk => "INIT:KILL_OK:"
  | InitKillFail => "INIT:KILL_FAIL:"
  | InitPermResponse => "INIT:PERM_RESPONSE:"
  | InitPermList => "INIT:PERM_LIST:"
  | InitLog => "INIT:"
  | ServiceResponse => "SERVICE:RESPONSE:"
  | VfsResponse => "VFS:RESPONSE:"
  | KeystoreResponse => "KEYSTORE:RESPONSE:"
  | SpawnResponse => "SPAWN:RESPONSE:"
  | EndpointResponse => "ENDPOINT:RESPONSE:"
  | CapResponse => "CAP:RESPONSE:"
  | DeliveryFailed => "ERROR:IPC_DELIVERY_FAILED:no_capability:"
  | AgentLog => "AGENT_LOG:"
  | Console => ""

-- The order in which the channels are tried.
def all : List DebugChannel :=
  [InitSpawn, InitGrant, InitRevoke, InitKillOk, InitKillFail, InitPermResponse, InitPermList,
    InitLog, ServiceResponse, VfsResponse, KeystoreResponse, SpawnResponse, EndpointResponse,
    CapResponse, DeliveryFailed, AgentLog]

def ofText (text : List Char) : DebugChannel :=
  (all.find? fun channel => channel.header.toList <+: text).getD Console

def rest (channel : DebugChannel) (text : List Char) : List Char :=
  text.drop channel.header.toList.length

end DebugChannel

inductive HexFailure where
  | InvalidLength
  | InvalidCharacter
  | Panicked (panic : SlicePanic)
deriving DecidableEq

-- Each slice of two bytes has to end where a character ends.
def hexPairs : List UInt8 → Except HexFailure (List UInt8)
  | first :: second :: rest =>
    if rest.head?.any Text.isContinuation then .error (.Panicked .NotCharBoundary)
    else
      match Text.parseUnsigned 16 256 [Char.ofNat first.toNat, Char.ofNat second.toNat] with
      | none => .error .InvalidCharacter
      | some value => (hexPairs rest).map (UInt8.ofNat value :: ·)
  | _ => .ok []

def hexToBytes (hex : List Char) : Except HexFailure (List UInt8) :=
  let bytes := utf8Bytes (String.ofList hex)
  if bytes.length % 2 ≠ 0 then .error .InvalidLength else hexPairs bytes

-- The fields of the requests.

def parseGrant (text : List Char) : Option (UInt64 × UInt32 × UInt8) :=
  match text.splitOn ':' with
  | pid :: slot :: perms :: _ =>
    match Text.parseU64 pid, Text.parseU32 slot, Text.parseU8 perms with
    | some pid, some slot, some perms => some (pid, slot, perms)
    | _, _, _ => none
  | _ => none

def parseRevoke (text : List Char) : Option (UInt64 × UInt32) :=
  match text.splitOn ':' with
  | pid :: slot :: _ =>
    match Text.parseU64 pid, Text.parseU32 slot with
    | some pid, some slot => some (pid, slot)
    | _, _ => none
  | _ => none

-- A field with its name in front.
def parseNamed (name : String) (text : List Char) : Option UInt32 :=
  if name.toList <+: text then Text.parseU32 (text.drop name.toList.length) else none

-- The slot is parsed and not used; the tag is not looked at.
def parseDeliveryFailed (text : List Char) : Option UInt32 :=
  match text.splitOn ':' with
  | pid :: slot :: _ :: _ =>
    match parseNamed "pid=" pid, parseNamed "slot=" slot with
    | some pid, some _ => some pid
    | _, _ => none
  | _ => none

inductive ResponseFailure where
  | Malformed
  | InvalidPid
  | InvalidTag
  | InvalidHex (failure : HexFailure)
deriving DecidableEq

-- The body that the handlers of VFS and keystore responses share: process, tag and data.
def parseResponse (text : List Char) : Except ResponseFailure (UInt32 × UInt32 × List UInt8) :=
  match Text.splitn 3 ':' text with
  | [pid, tag, hex] =>
    match Text.parseU32 pid with
    | none => .error .InvalidPid
    | some toPid =>
      match Text.parseUnsigned 16 4294967296 tag with
      | none => .error .InvalidTag
      | some tag =>
        match hexToBytes hex with
        | .error failure => .error (.InvalidHex failure)
        | .ok data => .ok (toPid, UInt32.ofNat tag, data)
  | _ => .error .Malformed

namespace SupervisorState

-- The state after a call into the system: the clock has been read once.
def after {α : Type} (state : SupervisorState) (outcome : System × α) : SupervisorState × α :=
  ({ state with system := outcome.1, hal := state.hal.later }, outcome.2)

section

variable (state : SupervisorState) (text : List Char)

def writeConsole (text : String) : SupervisorState :=
  { state with consoleBuffer := state.consoleBuffer ++ [text] }

def writeConsoleToProcess (pid : UInt64) (text : String) : SupervisorState :=
  if pid ∈ state.consoleCallbacks then
    { state with calls := state.calls ++ [.Console pid text] }
  else state.writeConsole text

def requestSpawn (procType name : String) : SupervisorState :=
  match state.spawnCallback with
  | some _ => { state with calls := state.calls ++ [.Spawn procType name] }
  | none => state.writeConsole "Error: Spawn callback not set\n"

-- A message from the supervisor to Init, through the capability that it was granted.
def sendToInit (state : SupervisorState) (tag : UInt32) (payload : List UInt8) : SupervisorState :=
  match state.initEndpointSlot with
  | none => state
  | some initSlot =>
    let (state, result) := state.after (state.system.ipcSend state.hal 0 initSlot tag payload)
    { state with sent := state.sent ++ if result.isOk then [(tag, payload)] else [] }

def routeIpcViaInit (targetPid : UInt64) (endpointSlot tag : UInt32) (data : List UInt8) :
    SupervisorState :=
  state.sendToInit MSG_SUPERVISOR_IPC_DELIVERY (deliveryPayload targetPid endpointSlot tag data)

def killProcessViaInit (targetPid : ProcessId) : SupervisorState :=
  state.sendToInit MSG_SUPERVISOR_KILL_PROCESS (leBytes32 targetPid.toUInt32).toList

-- The entry is taken out of the table, whether the worker was alive or not.
def halKillProcess (pid : UInt64) : SupervisorState :=
  { state with workers := state.workers.erase pid }

def cleanupProcessState (pid : UInt64) : SupervisorState :=
  { state with
    consoleCallbacks := state.consoleCallbacks.erase pid
    terminalEndpointSlots := state.terminalEndpointSlots.erase pid }

def killProcessDirect (state : SupervisorState) (pid : ProcessId) : SupervisorState :=
  let (state, ()) := state.after (state.system.killProcess state.hal pid, ())
  (state.halKillProcess pid).cleanupProcessState pid

def handleInitGrant (state : SupervisorState) (text : List Char) : SupervisorState :=
  match parseGrant text with
  | none => state
  | some (pid, slot, perms) =>
    let initPid : ProcessId := 1
    (state.after (state.system.grantCapability state.hal initPid slot pid
      (Permissions.fromByte perms))).1

def handleInitRevoke (state : SupervisorState) (text : List Char) : SupervisorState :=
  match parseRevoke text with
  | none => state
  | some (pid, slot) => (state.after (state.system.deleteCapability state.hal pid slot)).1

def handleInitKillOk : SupervisorState :=
  match Text.parseU64 text with
  | none => state
  | some targetPid => (state.halKillProcess targetPid).cleanupProcessState targetPid

def notifyInitServiceCapWithRetry (servicePid : UInt64) (capSlot : UInt32) (triggerRetry : Bool) :
    SupervisorState :=
  let tag := if triggerRetry then MSG_SERVICE_CAP_GRANTED else MSG_SERVICE_CAP_PREREGISTER
  state.sendToInit tag ((leBytes32 servicePid.toUInt32).toList ++ (leBytes32 capSlot).toList)

def grantInitCapabilityToServiceInner (state : SupervisorState) (servicePid : ProcessId)
    (triggerRetry : Bool) : SupervisorState :=
  let initPid : ProcessId := 1
  match state.system.kernel.capSpaces.capAt servicePid SERVICE_INPUT_SLOT with
  | none => state
  | some cap =>
    let (state, granted) := state.after (state.system.grantCapabilityToEndpoint state.hal
      servicePid cap.objectId initPid Permissions.writeOnly)
    match granted with
    | .error _ => state
    | .ok slot => state.notifyInitServiceCapWithRetry servicePid slot triggerRetry

def regrantInitCapabilityToService (servicePid : ProcessId) : SupervisorState :=
  state.grantInitCapabilityToServiceInner servicePid true

def handleIpcDeliveryFailed : SupervisorState :=
  match parseDeliveryFailed text with
  | none => state
  | some targetPid =>
    if targetPid.toUInt64 ∈ state.system.kernel.processes then
      state.regrantInitCapabilityToService targetPid.toUInt64
    else state

def decodeAndLog : SupervisorState × Except SlicePanic Unit :=
  match hexToBytes text with
  | .error (.Panicked panic) => (state, .error panic)
  | _ => (state, .ok ())

def handleInitSpawnResponse : SupervisorState × Except SlicePanic Unit :=
  state.decodeAndLog text

def handleInitEndpointResponse : SupervisorState × Except SlicePanic Unit :=
  state.decodeAndLog text

def handleInitCapResponse : SupervisorState × Except SlicePanic Unit :=
  state.decodeAndLog text

-- The body that the handlers of VFS and keystore responses share.
def handleDebugResponse : SupervisorState × Except SlicePanic Unit :=
  match parseResponse text with
  | .error (.InvalidHex (.Panicked panic)) => (state, .error panic)
  | .error _ => (state, .ok ())
  | .ok (toPid, tag, data) =>
    (state.routeIpcViaInit toPid.toUInt64 SERVICE_INPUT_SLOT tag data, .ok ())

def handleDebugVfsResponse : SupervisorState × Except SlicePanic Unit :=
  state.handleDebugResponse text

def handleDebugKeystoreResponse : SupervisorState × Except SlicePanic Unit :=
  state.handleDebugResponse text

-- The response goes to the page. Nothing is decoded when there is no callback.
def handleDebugServiceResponse : SupervisorState × Except SlicePanic Unit :=
  match Text.splitn 3 ':' text, state.ipcResponseCallback with
  | [_, requestId, hexData], some _ =>
    match hexToBytes hexData with
    | .error (.Panicked panic) => (state, .error panic)
    | .error _ => (state, .ok ())
    | .ok bytes =>
      match fromUtf8 bytes with
      | none => (state, .ok ())
      | some json =>
        ({ state with calls := state.calls ++ [.IpcResponse (String.ofList requestId) json] },
          .ok ())
  | _, _ => (state, .ok ())

end

def progressPingpongTest (state : SupervisorState) : SupervisorState :=
  match state.pingpongTest with
  | .SettingUpCaps iterations pingerPid pongerPid =>
    let (state, _) := state.after (state.system.grantCapability state.hal pingerPid 0 pongerPid
      Permissions.writeOnly)
    let (state, _) := state.after (state.system.grantCapability state.hal pongerPid 0 pingerPid
      Permissions.writeOnly)
    { state with pingpongTest := .StartingTest iterations pingerPid pongerPid }
  | .StartingTest iterations pingerPid pongerPid =>
    let state := state.routeIpcViaInit pongerPid 0 PingPong.CMD_PONG_MODE []
    let state := state.routeIpcViaInit pingerPid 0 PingPong.CMD_PING (leBytes32 iterations).toList
    let startTime := state.system.uptimeNanos state.hal
    { state with
      hal := state.hal.later
      pingpongTest := .Running iterations pingerPid pongerPid startTime }
  | .Running _ pingerPid pongerPid startTime =>
    let elapsed := state.system.uptimeNanos state.hal - startTime
    let state := { state with hal := state.hal.later }
    if elapsed / 1000000000 ≥ 30 then
      { state with pingpongTest := .Cleanup pingerPid pongerPid }
    else state
  | .Cleanup pingerPid pongerPid =>
    let state := state.routeIpcViaInit pingerPid 0 PingPong.CMD_EXIT []
    let state := state.routeIpcViaInit pongerPid 0 PingPong.CMD_EXIT []
    let state := state.killProcessViaInit pingerPid
    let state := state.killProcessViaInit pongerPid
    { state with pingpongTest := .Idle }
  | .Idle | .WaitingForPinger _ | .WaitingForPonger _ _ => state

variable (state : SupervisorState) (pid : ProcessId) (data : List UInt8)

-- The pinger prints the results when it is done.
def checkPingpongComplete (pid : UInt64) : SupervisorState :=
  match state.pingpongTest with
  | .Running _ pingerPid pongerPid _ =>
    if pid = pingerPid then
      progressPingpongTest { state with pingpongTest := .Cleanup pingerPid pongerPid }
    else state
  | _ => state

def ruler : List Char := List.replicate 40 '='

def handleDebugConsoleOutput (msg : String) : SupervisorState :=
  let state := state.writeConsole s!"[P{pid}] {msg}\n"
  if ruler <:+: msg.toList then state.checkPingpongComplete pid else state

def handleDebugSpawn (serviceName : String) : SupervisorState :=
  state.requestSpawn serviceName serviceName

-- Who sends the text is looked at for console output only.
def dispatchDebugMessage (msg : String) : SupervisorState × Except SlicePanic Unit :=
  let channel := DebugChannel.ofText msg.toList
  let text := channel.rest msg.toList
  match channel with
  | .InitSpawn => (state.handleDebugSpawn (String.ofList text), .ok ())
  | .InitGrant => (state.handleInitGrant text, .ok ())
  | .InitRevoke => (state.handleInitRevoke text, .ok ())
  | .InitKillOk => (state.handleInitKillOk text, .ok ())
  | .InitKillFail | .InitPermResponse | .InitPermList | .InitLog => (state, .ok ())
  | .ServiceResponse => state.handleDebugServiceResponse text
  | .VfsResponse => state.handleDebugVfsResponse text
  | .KeystoreResponse => state.handleDebugKeystoreResponse text
  | .SpawnResponse => state.handleInitSpawnResponse text
  | .EndpointResponse => state.handleInitEndpointResponse text
  | .CapResponse => state.handleInitCapResponse text
  | .DeliveryFailed => (state.handleIpcDeliveryFailed text, .ok ())
  | .AgentLog | .Console => (state.handleDebugConsoleOutput pid msg, .ok ())

def gatewayCall (state : SupervisorState) (pid : ProcessId) (syscallNum : UInt32)
    (args : SyscallArgs) (data : List UInt8) : SupervisorState × Int64 × List UInt8 :=
  let (system, result, _, response) := state.system.processSyscall state.hal pid syscallNum args data
  state.after (system, result, response)

-- A text that is not UTF-8 is logged in the kernel and otherwise ignored.
def handleSysDebug : SupervisorState × Except SlicePanic Int32 :=
  let (state, result, _) := state.gatewayCall pid SYS_DEBUG .zero data
  match fromUtf8 data with
  | none => (state, .ok result.toInt32)
  | some msg =>
    let (state, dispatched) := state.dispatchDebugMessage pid msg
    (state, dispatched.map fun () => result.toInt32)

def handleSysExit (exitCode : UInt32) : SupervisorState × Int32 :=
  let (state, result, _) := state.gatewayCall pid SYS_EXIT #v[exitCode, 0, 0, 0] []
  (if pid = 1 then state.killProcessDirect pid else state.killProcessViaInit pid, result.toInt32)

-- The first 200 bytes are cut out for the log before the text is shown.
def handleSysConsoleWrite : SupervisorState × Except SlicePanic Int32 :=
  let (state, result, _) := state.gatewayCall pid SYS_CONSOLE_WRITE .zero data
  match fromUtf8 data with
  | none => (state, .ok result.toInt32)
  | some text =>
    if data.length > 200 ∧ ¬ Text.isCharBoundary data 200 then (state, .error .NotCharBoundary)
    else (state.writeConsoleToProcess pid text, .ok result.toInt32)

-- The caller gives three words, the gateway takes four.
def gatewayArgs (args : Vector UInt32 3) : SyscallArgs := #v[args[0], args[1], args[2], 0]

def processSyscallInternal (syscallNum : UInt32) (args : Vector UInt32 3) (data : List UInt8) :
    SupervisorState × Except SlicePanic Int32 :=
  if pid ∉ state.system.kernel.processes then (state, .ok (-1))
  else if syscallNum = SYS_DEBUG then state.handleSysDebug pid data
  else if syscallNum = SYS_EXIT then
    let (state, result) := state.handleSysExit pid args[0]
    (state, .ok result)
  else if syscallNum = SYS_CONSOLE_WRITE then state.handleSysConsoleWrite pid data
  else
    let (state, result, _) := state.gatewayCall pid syscallNum (gatewayArgs args) data
    (state, .ok result.toInt32)

end SupervisorState

end ZeroOS
