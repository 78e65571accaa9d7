import ZeroOS.Lib.Memory
import ZeroOS.Storage.Format

/-!
The VirtIO block device behind the block store, as far as the driver's own checks and a device
without faults determine it.
-/

namespace ZeroOS.Storage

inductive VirtioError where
  | DeviceNotFound
  | InvalidMagic
  | UnsupportedVersion
  | QueueNotAvailable
  | QueueAlreadyUsed
  | OutOfMemory
  | ConfigFailed
  | FeatureNegotiationFailed
  | IoError
  | Timeout
  | BufferTooSmall
  | InvalidArgument
deriving DecidableEq, Repr

structure SectorWrite where
  sector : Nat
  data : List UInt8
deriving DecidableEq

structure Device where
  -- In sectors.
  capacity : UInt64
  image : Nat → UInt8
  journal : List SectorWrite

namespace Device

-- A device full of zeros.
def blank (capacity : UInt64) : Device := { capacity, image := fun _ => 0, journal := [] }

def put (cells : Nat → UInt8) (write : SectorWrite) : Nat → UInt8 :=
  Memory.write cells (write.sector * SECTOR_SIZE) write.data

def contents (device : Device) : Nat → UInt8 := device.journal.foldl put device.image

def after (device : Device) (writes : List SectorWrite) : Device :=
  { device with journal := device.journal ++ writes }

def capacityBytes (device : Device) : UInt64 := device.capacity * UInt64.ofNat SECTOR_SIZE

-- The capacity as the store counts it.
def maxSectors (device : Device) : UInt32 :=
  (device.capacityBytes / UInt64.ofNat SECTOR_SIZE).toUInt32

-- The driver looks at the first sector and the length of a request; one that goes past the end
-- is turned down by the device.
def check (device : Device) (sector : UInt64) (len : Nat) : Except VirtioError Unit :=
  if sector ≥ device.capacity then .error .InvalidArgument
  else if len % SECTOR_SIZE ≠ 0 ∨ len = 0 then .error .InvalidArgument
  else if sector.toNat + len / SECTOR_SIZE > device.capacity.toNat then .error .IoError
  else .ok ()

def read (device : Device) (sector : UInt64) (len : Nat) : Except VirtioError (List UInt8) := do
  device.check sector len
  return Memory.read device.contents (sector.toNat * SECTOR_SIZE) len

def write (device : Device) (sector : UInt64) (data : List UInt8) : Except VirtioError Device := do
  device.check sector data.length
  return device.after [⟨sector.toNat, data⟩]

variable (device : Device) (writes : List SectorWrite)

@[simp] lemma capacity_after : (device.after writes).capacity = device.capacity := rfl

@[simp] lemma after_nil : device.after [] = device := by
  simp [after]

lemma after_append (first second : List SectorWrite) :
    device.after (first ++ second) = (device.after first).after second := by
  simp [after]

lemma contents_after : (device.after writes).contents = writes.foldl put device.contents := by
  simp [contents, after]

lemma contents_after_singleton (sector : Nat) (data : List UInt8) :
    (device.after [⟨sector, data⟩]).contents =
      Memory.write device.contents (sector * SECTOR_SIZE) data := by
  rw [contents_after]
  rfl

lemma toNat_maxSectors_le : device.maxSectors.toNat ≤ device.capacity.toNat := by
  have hb : device.capacityBytes.toNat ≤ device.capacity.toNat * 512 := by
    exact Nat.mod_le ..
  have hd : device.capacityBytes.toNat / (512 : UInt64).toNat ≤ device.capacity.toNat :=
    Nat.div_le_of_le_mul (by rw [Nat.mul_comm]; exact hb)
  exact Nat.le_trans (Nat.mod_le ..) hd

-- A request for a whole number of sectors is served if there is something to it and all of it
-- lies on the device.
lemma check_eq_ok_iff {device : Device} :
    device.check sector (count * SECTOR_SIZE) = .ok () ↔
      0 < count ∧ sector.toNat + count ≤ device.capacity.toNat := by
  have hw : count * SECTOR_SIZE % SECTOR_SIZE = 0 := Nat.mul_mod_left ..
  have hc : count * SECTOR_SIZE / SECTOR_SIZE = count := Nat.mul_div_cancel _ (by decide)
  have hz : count * SECTOR_SIZE = 0 ↔ count = 0 := by
    simp only [SECTOR_SIZE]
    omega
  have hs : sector ≥ device.capacity ↔ device.capacity.toNat ≤ sector.toNat :=
    UInt64.le_iff_toNat_le
  simp only [check, hw, hc, hz, hs, ne_eq, not_true_eq_false, false_or]
  by_cases hl : device.capacity.toNat ≤ sector.toNat
  · simp only [hl, ite_true, reduceCtorEq, false_iff]
    omega
  by_cases he : count = 0
  · simp [he]
  by_cases hp : sector.toNat + count > device.capacity.toNat
  · simp only [hl, he, hp, ite_true, ite_false, reduceCtorEq, false_iff]
    omega
  · simp only [hl, he, hp, ite_false, true_iff]
    omega

end Device

end ZeroOS.Storage
