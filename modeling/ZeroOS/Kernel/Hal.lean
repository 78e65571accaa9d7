import ZeroOS.Kernel.Types
import ZeroOS.Lib.Bytes

/-!
The platform under the kernel.
-/

namespace ZeroOS

abbrev StorageRequestId := UInt32

structure Hal where
  -- The readings of the monotonic clock during the call, in order.
  nowNanos : Nat → UInt64
  wallclockMs : UInt64
  loadBinary : String → Except HalError (List UInt8)
  spawnProcessWithPid : ProcessId → String → List UInt8 → Except HalError Unit
  storageReadAsync : ProcessId → String → Except HalError StorageRequestId
  storageWriteAsync : ProcessId → String → List UInt8 → Except HalError StorageRequestId
  storageDeleteAsync : ProcessId → String → Except HalError StorageRequestId
  storageListAsync : ProcessId → String → Except HalError StorageRequestId
  storageExistsAsync : ProcessId → String → Except HalError StorageRequestId
  keystoreReadAsync : ProcessId → String → Except HalError StorageRequestId
  keystoreWriteAsync : ProcessId → String → List UInt8 → Except HalError StorageRequestId
  keystoreDeleteAsync : ProcessId → String → Except HalError StorageRequestId
  keystoreListAsync : ProcessId → String → Except HalError StorageRequestId
  keystoreExistsAsync : ProcessId → String → Except HalError StorageRequestId
  networkFetchAsync : ProcessId → List UInt8 → Except HalError UInt32

-- The defaults of the trait: no storage, keystore, network or binaries. The
-- clock stands still.
def Hal.unsupported (now : UInt64) : Hal where
  nowNanos := fun _ => now
  wallclockMs := 0
  loadBinary := fun _ => .error .NotSupported
  spawnProcessWithPid := fun _ _ _ => .error .NotSupported
  storageReadAsync := fun _ _ => .error .NotSupported
  storageWriteAsync := fun _ _ _ => .error .NotSupported
  storageDeleteAsync := fun _ _ => .error .NotSupported
  storageListAsync := fun _ _ => .error .NotSupported
  storageExistsAsync := fun _ _ => .error .NotSupported
  keystoreReadAsync := fun _ _ => .error .NotSupported
  keystoreWriteAsync := fun _ _ _ => .error .NotSupported
  keystoreDeleteAsync := fun _ _ => .error .NotSupported
  keystoreListAsync := fun _ _ => .error .NotSupported
  keystoreExistsAsync := fun _ _ => .error .NotSupported
  networkFetchAsync := fun _ _ => .error .NotSupported

-- The payload layout of a write and of a spawn: a length word, that many bytes,
-- and the rest. Where `usize` has 32 bits, the sum of the length and four can wrap and the
-- slice then aborts; such a call has no result.
def splitPrefixed : List UInt8 → Option (List UInt8 × List UInt8)
  | b0 :: b1 :: b2 :: b3 :: body =>
    let len := (leU32 b0 b1 b2 b3).toNat
    if body.length < len then none else some (body.take len, body.drop len)
  | _ => none

end ZeroOS
