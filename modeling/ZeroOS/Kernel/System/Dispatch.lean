import ZeroOS.Kernel.System.Metrics

/-!
The numeric syscall dispatcher.
-/

namespace ZeroOS

-- Layout: sender, tag, number of capabilities, one word for each, data. The sender
-- is cut to 32 bits; a capability without a slot hint is sent as zero.
def serializeIpcMessage (msg : Message) : List UInt8 :=
  (leBytes32 msg.fromPid.toUInt32).toList ++ (leBytes32 msg.tag).toList ++
    [UInt8.ofNat msg.transferredCaps.length] ++
    msg.transferredCaps.flatMap (fun cap => (leBytes32 (cap.receiverSlot.getD 0)).toList) ++
    msg.data

def clockWord (value : UInt64) (selector : UInt32) : Int64 :=
  if selector = 0 then (value &&& 0xFFFFFFFF).toInt64
  else ((value >>> 32) &&& 0xFFFFFFFF).toInt64

-- The request id of an asynchronous platform call.
def requestResult (request : Except HalError StorageRequestId) : Int64 :=
  match request with
  | .ok requestId => requestId.toUInt64.toInt64
  | .error _ => -1

variable (hal : Hal) (sender : ProcessId) (data : List UInt8)

def keyedRequest (request : String → Except HalError StorageRequestId) : Int64 :=
  match fromUtf8 data with
  | none => -1
  | some key => requestResult (request key)

def keyedWrite (request : String → List UInt8 → Except HalError StorageRequestId) : Int64 :=
  match splitPrefixed data with
  | none => -1
  | some (key, value) =>
    match fromUtf8 key with
    | none => -1
    | some key => requestResult (request key value)

def executeStorageRead : Int64 :=
  keyedRequest data (hal.storageReadAsync sender)

def executeStorageWrite : Int64 :=
  keyedWrite data (hal.storageWriteAsync sender)

def executeStorageDelete : Int64 :=
  keyedRequest data (hal.storageDeleteAsync sender)

def executeStorageList : Int64 :=
  keyedRequest data (hal.storageListAsync sender)

def executeStorageExists : Int64 :=
  keyedRequest data (hal.storageExistsAsync sender)

def executeStorageSyscall (syscallNum : UInt32) (sender : ProcessId) (data : List UInt8) : Int64 :=
  if syscallNum = 0x70 then executeStorageRead hal sender data
  else if syscallNum = 0x71 then executeStorageWrite hal sender data
  else if syscallNum = 0x72 then executeStorageDelete hal sender data
  else if syscallNum = 0x73 then executeStorageList hal sender data
  else if syscallNum = 0x74 then executeStorageExists hal sender data
  else -1

def executeKeystoreRead : Int64 :=
  keyedRequest data (hal.keystoreReadAsync sender)

def executeKeystoreWrite : Int64 :=
  keyedWrite data (hal.keystoreWriteAsync sender)

def executeKeystoreDelete : Int64 :=
  keyedRequest data (hal.keystoreDeleteAsync sender)

def executeKeystoreList : Int64 :=
  keyedRequest data (hal.keystoreListAsync sender)

def executeKeystoreExists : Int64 :=
  keyedRequest data (hal.keystoreExistsAsync sender)

def executeKeystoreSyscall (syscallNum : UInt32) (sender : ProcessId) (data : List UInt8) : Int64 :=
  if syscallNum = 0x80 then executeKeystoreRead hal sender data
  else if syscallNum = 0x81 then executeKeystoreWrite hal sender data
  else if syscallNum = 0x82 then executeKeystoreDelete hal sender data
  else if syscallNum = 0x83 then executeKeystoreList hal sender data
  else if syscallNum = 0x84 then executeKeystoreExists hal sender data
  else -1

def executeNetworkSyscall : Int64 :=
  requestResult (hal.networkFetchAsync sender data)

-- The clock is read a second time here; the first reading gave the call its timestamp.
def executeBasicSyscall (syscallNum : UInt32) (sender : ProcessId) (args : SyscallArgs) : Int64 :=
  if syscallNum = 0x02 then clockWord (hal.nowNanos 1) args.word0
  else if syscallNum = 0x03 then sender.toInt64
  else if syscallNum = 0x06 then clockWord hal.wallclockMs args.word0
  else if syscallNum ≤ 0x07 then 0
  else -1

namespace KernelCore

variable (kernel : KernelCore) (hal : Hal) (syscallNum : UInt32)

def executeProcessSyscall (sender : ProcessId) (args : SyscallArgs) (data : List UInt8)
    (timestamp : UInt64) : RawOutcome :=
  if syscallNum = 0x11 then kernel.executeExit sender timestamp
  else if syscallNum = 0x12 then { kernel, result := 0 }
  else if syscallNum = 0x13 then kernel.executeKillWithCap sender args timestamp
  else if syscallNum = 0x14 then kernel.executeRegisterProcess sender data timestamp
  else if syscallNum = 0x15 then kernel.executeCreateEndpointFor sender args timestamp
  else if syscallNum = 0x16 then kernel.executeLoadBinary hal sender data
  else if syscallNum = 0x17 then kernel.executeSpawnProcess hal sender data timestamp
  else { kernel, result := -1 }

-- 0x31 takes the process to delete from out of its first argument.
def executeCapabilitySyscall (sender : ProcessId) (args : SyscallArgs) (timestamp : UInt64) :
    RawOutcome :=
  if syscallNum = 0x30 then
    let outcome := kernel.grantCapability sender args.word0 args.word1.toUInt64
      (Permissions.fromByte args.word2.toUInt8) timestamp
    match outcome.result with
    | .ok newSlot =>
      { kernel := outcome.kernel, result := newSlot.toUInt64.toInt64,
        commits := commitTypesOf outcome.commits }
    | .error _ => { kernel := outcome.kernel, result := -1 }
  else if syscallNum = 0x31 then
    let outcome := kernel.deleteCapability args.word0.toUInt64 args.word1 timestamp
    match outcome.result with
    | .ok () => { kernel := outcome.kernel, result := 0, commits := commitTypesOf outcome.commits }
    | .error _ => { kernel := outcome.kernel, result := -1 }
  else if syscallNum = 0x35 then
    let outcome := kernel.createEndpoint sender timestamp
    let commits := commitTypesOf outcome.commits
    match outcome.result with
    | .ok (eid, _) => { kernel := outcome.kernel, result := eid.toInt64, commits }
    | .error _ => { kernel := outcome.kernel, result := -1, commits }
  else { kernel, result := -1 }

def executeIpcSyscall (sender : ProcessId) (args : SyscallArgs) (data : List UInt8)
    (timestamp : UInt64) : RawOutcome :=
  if syscallNum = 0x40 then
    let (kernel, result, commit) := kernel.ipcSend sender args.word0 args.word1 data timestamp
    let commits := commitTypesOf commit.toList
    match result with
    | .ok () => { kernel, result := 0, commits }
    | .error _ => { kernel, result := -1, commits }
  else if syscallNum = 0x41 then
    let (kernel, result) := kernel.ipcReceive sender args.word0 timestamp
    match result with
    | .ok (some msg) => { kernel, result := 1, data := serializeIpcMessage msg }
    | .ok none => { kernel, result := 0 }
    | .error _ => { kernel, result := -1 }
  else { kernel, result := -1 }

def executeSyscallKernelFn (sender : ProcessId) (args : SyscallArgs) (data : List UInt8)
    (timestamp : UInt64) : RawOutcome :=
  if syscallNum ≤ 0x07 then { kernel, result := executeBasicSyscall hal syscallNum sender args }
  else if 0x11 ≤ syscallNum ∧ syscallNum ≤ 0x17 then
    kernel.executeProcessSyscall hal syscallNum sender args data timestamp
  else if syscallNum = 0x30 ∨ syscallNum = 0x31 ∨ syscallNum = 0x35 then
    kernel.executeCapabilitySyscall syscallNum sender args timestamp
  else if syscallNum = 0x40 ∨ syscallNum = 0x41 then
    kernel.executeIpcSyscall syscallNum sender args data timestamp
  else if syscallNum = 0x50 then { kernel, result := 0 }
  else if 0x70 ≤ syscallNum ∧ syscallNum ≤ 0x74 then
    { kernel, result := executeStorageSyscall hal syscallNum sender data }
  else if 0x80 ≤ syscallNum ∧ syscallNum ≤ 0x84 then
    { kernel, result := executeKeystoreSyscall hal syscallNum sender data }
  else if syscallNum = 0x90 then { kernel, result := executeNetworkSyscall hal sender data }
  else { kernel, result := -1 }

end KernelCore

end ZeroOS
