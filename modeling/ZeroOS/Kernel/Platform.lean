import ZeroOS.Kernel.System.Run

/-!
The stores under the system.
-/

namespace ZeroOS

namespace Platform

inductive Area where
  | Storage
  | Keystore
deriving DecidableEq

def Area.service : Area → ProcessId
  | .Storage => 4
  | .Keystore => 7

inductive Operation where
  | Read (key : String)
  | Write (key : String) (value : List UInt8)
  | Delete (key : String)
  | List (keyStart : String)
  | Exists (key : String)
deriving DecidableEq

-- A request as it reaches the platform.
structure Request where
  area : Area
  pid : ProcessId
  operation : Operation
deriving DecidableEq

-- What the browser reports: the kind of result and its bytes.
structure Completion where
  resultType : UInt8
  data : List UInt8
deriving DecidableEq

def MAX_PENDING_STORAGE_REQUESTS : Nat := 1000

def MAX_PENDING_KEYSTORE_REQUESTS : Nat := 1000

-- One area: what is stored, the counter and the table of the platform, and what the browser has
-- still to do and to report.
structure Store (γ : Type) where
  contents : γ
  nextRequestId : StorageRequestId
  pending : BTreeMap StorageRequestId ProcessId
  started : List (StorageRequestId × Operation)
  finished : List (StorageRequestId × Completion)

namespace Store

variable {γ : Type}

def new (contents : γ) : Store γ :=
  { contents, nextRequestId := 1, pending := ∅, started := [], finished := [] }

-- The id is used up even if the table is full.
def request (store : Store γ) (limit : Nat) (pid : ProcessId) (operation : Operation) :
    Store γ × Except HalError StorageRequestId :=
  let requestId := store.nextRequestId
  let store := { store with nextRequestId := store.nextRequestId + 1 }
  if store.pending.size ≥ limit then (store, .error .ResourceExhausted)
  else
    ({ store with
        pending := store.pending.insert requestId pid
        started := store.started ++ [(requestId, operation)] },
      .ok requestId)

-- The browser carries out one of the operations it was asked for.
def execute (store : Store γ) (serve : γ → Operation → γ × Completion) (index : Nat) : Store γ :=
  match store.started[index]? with
  | none => store
  | some (requestId, operation) =>
    let (contents, completion) := serve store.contents operation
    { store with
      contents
      started := store.started.eraseIdx index
      finished := store.finished ++ [(requestId, completion)] }

-- It reports one of the results, which is for the process in the table.
def notify (store : Store γ) (index : Nat) :
    Store γ × Option (ProcessId × StorageRequestId × Completion) :=
  match store.finished[index]? with
  | none => (store, none)
  | some (requestId, completion) =>
    let store := { store with finished := store.finished.eraseIdx index }
    match store.pending[requestId]? with
    | none => (store, none)
    | some pid =>
      ({ store with pending := store.pending.erase requestId },
        some (pid, requestId, completion))

end Store

end Platform

open Platform

def Hal.withStores (hal : Hal) (answer : Request → Except HalError StorageRequestId) : Hal :=
  { hal with
    storageReadAsync := fun pid key => answer ⟨.Storage, pid, .Read key⟩
    storageWriteAsync := fun pid key value => answer ⟨.Storage, pid, .Write key value⟩
    storageDeleteAsync := fun pid key => answer ⟨.Storage, pid, .Delete key⟩
    storageListAsync := fun pid keyStart => answer ⟨.Storage, pid, .List keyStart⟩
    storageExistsAsync := fun pid key => answer ⟨.Storage, pid, .Exists key⟩
    keystoreReadAsync := fun pid key => answer ⟨.Keystore, pid, .Read key⟩
    keystoreWriteAsync := fun pid key value => answer ⟨.Keystore, pid, .Write key value⟩
    keystoreDeleteAsync := fun pid key => answer ⟨.Keystore, pid, .Delete key⟩
    keystoreListAsync := fun pid keyStart => answer ⟨.Keystore, pid, .List keyStart⟩
    keystoreExistsAsync := fun pid key => answer ⟨.Keystore, pid, .Exists key⟩ }

-- What the caller of an entry point is given back by a raw syscall.
def System.reply (system : System) (hal : Hal) :
    SystemOp → Option (Int64 × SyscallResult × List UInt8)
  | .ProcessSyscall sender syscallNum args data =>
    some (system.processSyscall hal sender syscallNum args data).2
  | _ => none

namespace Platform

-- A call reaches the platform with a request if it makes a difference how that is answered.
def Reaches (system : System) (hal : Hal) (op : SystemOp) (request : Request) : Prop :=
  ∃ answer answer' : Request → Except HalError StorageRequestId,
    (∀ other, other ≠ request → answer' other = answer other) ∧
      (system.step (hal.withStores answer, op), system.reply (hal.withStores answer) op) ≠
        (system.step (hal.withStores answer', op), system.reply (hal.withStores answer') op)

-- The request that a raw syscall makes, read off its number and payload. The numbers of an area
-- follow each other.

def Area.firstNumber : Area → UInt32
  | .Storage => 0x70
  | .Keystore => 0x80

def decodeOperation (first syscallNum : UInt32) (data : List UInt8) : Option Operation :=
  if syscallNum = first then (fromUtf8 data).map .Read
  else if syscallNum = first + 1 then
    match splitPrefixed data with
    | none => none
    | some (key, value) => (fromUtf8 key).map fun key => .Write key value
  else if syscallNum = first + 2 then (fromUtf8 data).map .Delete
  else if syscallNum = first + 3 then (fromUtf8 data).map .List
  else if syscallNum = first + 4 then (fromUtf8 data).map .Exists
  else none

def Area.decode (area : Area) (sender : ProcessId) (syscallNum : UInt32) (data : List UInt8) :
    Option Request :=
  (decodeOperation area.firstNumber syscallNum data).map fun operation => ⟨area, sender, operation⟩

def Request.decode (sender : ProcessId) (syscallNum : UInt32) (data : List UInt8) :
    Option Request :=
  if 0x70 ≤ syscallNum ∧ syscallNum ≤ 0x74 then Area.Storage.decode sender syscallNum data
  else if 0x80 ≤ syscallNum ∧ syscallNum ≤ 0x84 then Area.Keystore.decode sender syscallNum data
  else none

end Platform

def SystemOp.request : SystemOp → Option Platform.Request
  | .ProcessSyscall sender syscallNum _ data => Request.decode sender syscallNum data
  | _ => none

section

variable (hal : Hal) (answer : Request → Except HalError StorageRequestId) (sender : ProcessId)
  (data : List UInt8)

-- What the dispatcher returns for a request, or for a payload that holds none.
def requested (request : Option Request) : Int64 :=
  match request with
  | none => -1
  | some request => requestResult (answer request)

end

namespace KernelCore

variable (kernel : KernelCore) (hal : Hal) (args : SyscallArgs) (now : UInt64)

end KernelCore

namespace Platform

variable (system : System) (hal : Hal)

end Platform

end ZeroOS
