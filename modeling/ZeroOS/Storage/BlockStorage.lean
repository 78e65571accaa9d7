import ZeroOS.Lib.Map
import ZeroOS.Storage.Device

/-!
The key-value store on the block device.
-/

namespace ZeroOS.Storage

structure IndexEntry where
  sector : UInt32
  numSectors : UInt32
  valueLen : UInt32
deriving DecidableEq

structure BlockStorage where
  index : BTreeMap String IndexEntry
  superblock : Superblock
  initialized : Bool

def BlockStorage.new : BlockStorage :=
  { index := ∅
    superblock :=
      { magic := 0, version := 0, entryCount := 0, nextFreeSector := 1,
        reserved := List.replicate 123 0, checksum := 0,
        reserved_length := Superblock.length_blankReserved }
    initialized := false }

structure World where
  storage : BlockStorage
  blk : Option Device

abbrev StorageM := EStateM VirtioError World

namespace World

-- A device with a store that has not been initialised.
def new (device : Device) : World := { storage := BlockStorage.new, blk := some device }

def setIndex (world : World) (index : BTreeMap String IndexEntry) : World :=
  { world with storage := { world.storage with index } }

def setSuperblock (world : World) (superblock : Superblock) : World :=
  { world with storage := { world.storage with superblock } }

def setInitialized (world : World) : World :=
  { world with storage := { world.storage with initialized := true } }

end World

section

variable (sector : UInt64) (sectorBuf : List UInt8) (header : EntryHeader)

-- The global device.

def blkReadSectors (len : Nat) : StorageM (List UInt8) := fun world =>
  match world.blk with
  | some device =>
    match device.read sector len with
    | .ok bytes => .ok bytes world
    | .error e => .error e world
  | none => .error .DeviceNotFound world

def blkWriteSectors (data : List UInt8) : StorageM Unit := fun world =>
  match world.blk with
  | some device =>
    match device.write sector data with
    | .ok device => .ok () { world with blk := some device }
    | .error e => .error e world
  | none => .error .DeviceNotFound world

def blkFlushDevice : StorageM Unit := fun world =>
  match world.blk with
  | some _ => .ok () world
  | none => .error .DeviceNotFound world

def maxSectors : StorageM UInt32 := fun world =>
  match world.blk with
  | some device => .ok device.maxSectors world
  | none => .error .DeviceNotFound world

def writeSuperblock : StorageM Unit := do
  modify fun world => world.setSuperblock world.storage.superblock.updateChecksum
  blkWriteSectors 0 (← get).storage.superblock.toBytes
  blkFlushDevice

-- The bytes of a key whose header has been read. They reach past the first sector only if the
-- header says so.
def readKey : StorageM (List UInt8) := do
  let keyEnd := ENTRY_HEADER_SIZE + header.keyLen.toNat
  if keyEnd ≤ SECTOR_SIZE then
    return slice sectorBuf ENTRY_HEADER_SIZE keyEnd
  else
    let totalBytes := header.sectorsNeeded.toNat * SECTOR_SIZE
    let entryBuf ← blkReadSectors sector totalBytes
    return slice entryBuf ENTRY_HEADER_SIZE (min keyEnd totalBytes)

-- One turn of the scan at a header with the entry magic.
def loadEntry : StorageM Unit := do
  if header.isValid then
    match fromUtf8 (← readKey sector sectorBuf header) with
    | some key =>
      modify fun world => world.setIndex (world.storage.index.insert key
        { sector := sector.toUInt32, numSectors := header.sectorsNeeded,
          valueLen := header.valueLen })
    | none => pure ()

end

-- The scan. Every turn moves on by at least one sector, so as many turns as there are sectors
-- up to `maxSector` are enough.
def loadIndexFrom : Nat → UInt64 → UInt64 → StorageM Unit
  | 0, _, _ => pure ()
  | turns + 1, sector, maxSector => do
      if sector < maxSector then
        let sectorBuf ← blkReadSectors sector SECTOR_SIZE
        let header := EntryHeader.fromBytes sectorBuf
        if header.magic = ENTRY_MAGIC then
          loadEntry sector sectorBuf header
          loadIndexFrom turns (sector + header.sectorsNeeded.toUInt64) maxSector

def loadIndex : StorageM Unit := do
  modify fun world => world.setIndex ∅
  let maxSector := (← get).storage.superblock.nextFreeSector.toUInt64
  loadIndexFrom maxSector.toNat 1 maxSector

-- Opens the store on the disk, or formats the disk if it holds none. The answer says whether
-- the store is new.
def init : StorageM Bool := do
  if (← get).blk.isNone then
    throw .DeviceNotFound
  let sectorBuf ← blkReadSectors 0 SECTOR_SIZE
  let sb := Superblock.fromBytes sectorBuf
  if sb.isValid then
    modify fun world => world.setSuperblock sb
    loadIndex
    modify World.setInitialized
    return false
  else
    modify fun world => world.setSuperblock Superblock.new
    writeSuperblock
    modify fun world => (world.setIndex ∅).setInitialized
    return true

def existsKey (storage : BlockStorage) (key : String) : Bool := storage.index.contains key

def entryValue (buffer : List UInt8) : Except VirtioError (Option (List UInt8)) :=
  let header := EntryHeader.fromBytes buffer
  if header.isValid then
    let valueStart := ENTRY_HEADER_SIZE + header.keyLen.toNat
    let valueEnd := valueStart + header.valueLen.toNat
    if valueEnd ≤ buffer.length then .ok (some (slice buffer valueStart valueEnd))
    else .error .IoError
  else .ok none

def answer {α : Type} : Except VirtioError α → StorageM α
  | .ok value => return value
  | .error e => throw e

def read (key : String) : StorageM (Option (List UInt8)) := do
  match (← get).storage.index[key]? with
  | none => return none
  | some entry =>
    let buffer ← blkReadSectors entry.sector.toUInt64 (entry.numSectors.toNat * SECTOR_SIZE)
    answer (entryValue buffer)

def delete (key : String) : StorageM Bool := do
  match (← get).storage.index[key]? with
  | none => return false
  | some entry =>
    modify fun world => world.setIndex (world.storage.index.erase key)
    let sectorBuf ← blkReadSectors entry.sector.toUInt64 SECTOR_SIZE
    blkWriteSectors entry.sector.toUInt64 (markDeleted sectorBuf)
    modify fun world => world.setSuperblock world.storage.superblock.removeEntry
    writeSuperblock
    return true

-- The loop of the compaction: the entries still to be moved, in key order, the next free
-- sector and the new index so far.
def compactFrom (maxSectors : UInt32) : List (String × IndexEntry) → UInt32 →
    BTreeMap String IndexEntry → StorageM (UInt32 × BTreeMap String IndexEntry)
  | [], nextSector, newIndex => return (nextSector, newIndex)
  | (key, entry) :: rest, nextSector, newIndex => do
      let buffer ← blkReadSectors entry.sector.toUInt64 (entry.numSectors.toNat * SECTOR_SIZE)
      if (EntryHeader.fromBytes buffer).isValid then
        if nextSector + entry.numSectors > maxSectors then
          throw .OutOfMemory
        blkWriteSectors nextSector.toUInt64 buffer
        compactFrom maxSectors rest (nextSector + entry.numSectors)
          (newIndex.insert key { entry with sector := nextSector })
      else
        compactFrom maxSectors rest nextSector newIndex

def compact : StorageM Unit := do
  if !(← get).storage.initialized then
    throw .InvalidArgument
  let maxSectors ← maxSectors
  let (nextSector, newIndex) ← compactFrom maxSectors (← get).storage.index.toList 1 ∅
  modify fun world => world.setIndex newIndex
  modify fun world => world.setSuperblock
    { world.storage.superblock with
      entryCount := UInt32.ofNat newIndex.size, nextFreeSector := nextSector }
  writeSuperblock

-- Room for so many sectors after the last entry, if need be by compaction.
def reserve (entrySectors : UInt32) : StorageM Unit := do
  let maxSectors ← maxSectors
  if (← get).storage.superblock.nextFreeSector + entrySectors > maxSectors then
    compact
    if (← get).storage.superblock.nextFreeSector + entrySectors > maxSectors then
      throw .OutOfMemory

def appendEntry (key : String) (value : List UInt8) : StorageM Unit := do
  let header := EntryHeader.ofEntry key value
  let sector := (← get).storage.superblock.nextFreeSector
  blkWriteSectors sector.toUInt64 (entryBuffer header key value)
  modify fun world => world.setIndex (world.storage.index.insert key
    { sector, numSectors := header.sectorsNeeded, valueLen := UInt32.ofNat value.length })
  modify fun world => world.setSuperblock
    (world.storage.superblock.addEntry header.sectorsNeeded)
  writeSuperblock

-- The part of a write after the deletion of the old entry.
def insertEntry (key : String) (value : List UInt8) : StorageM Unit := do
  reserve (EntryHeader.ofEntry key value).sectorsNeeded
  appendEntry key value

def write (key : String) (value : List UInt8) : StorageM Unit := do
  if (utf8Bytes key).length > MAX_KEY_LEN ∨ value.length > MAX_VALUE_LEN then
    throw .InvalidArgument
  if (← get).storage.index.contains key then
    discard (delete key)
  insertEntry key value

def list (storage : BlockStorage) (prefixed : String) : List String :=
  storage.index.keys.filter (fun key => key.startsWith prefixed)

-- What an operation answers and what it leaves.

section observation

variable {α : Type}

def outcome (op : StorageM α) (world : World) : Except VirtioError α :=
  match op world with
  | .ok result _ => .ok result
  | .error e _ => .error e

def World.after (world : World) (op : StorageM α) : World :=
  match op world with
  | .ok _ next => next
  | .error _ next => next

end observation

end ZeroOS.Storage
