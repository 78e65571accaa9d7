import ZeroOS.Lib.Bytes

/-!
The on-disk format of the block store.
-/

namespace ZeroOS.Storage

def SECTOR_SIZE : Nat := 512

def SUPERBLOCK_MAGIC : UInt32 := 0x5A4F5300

def ENTRY_MAGIC : UInt32 := 0x5A4F5345

def STORAGE_VERSION : UInt32 := 1

def FLAG_VALID : UInt32 := 1

def FLAG_DELETED : UInt32 := 0

def MAX_KEY_LEN : Nat := 256

def MAX_VALUE_LEN : Nat := 64 * 1024

def ENTRY_HEADER_SIZE : Nat := 16

structure Superblock where
  magic : UInt32
  version : UInt32
  entryCount : UInt32
  nextFreeSector : UInt32
  reserved : List UInt32
  checksum : UInt32
  reserved_length : reserved.length = 123
deriving DecidableEq

namespace Superblock

lemma length_blankReserved : (List.replicate 123 (0 : UInt32)).length = 123 := List.length_replicate

variable (sb : Superblock) (bytes : List UInt8)

-- Everything but the checksum itself.
def checkedBytes : List UInt8 :=
  wordBytes (sb.magic :: sb.version :: sb.entryCount :: sb.nextFreeSector :: sb.reserved)

def byteSum : UInt32 :=
  bytes.foldl (fun sum byte => sum + byte.toUInt32) 0

def updateChecksum : Superblock :=
  { sb with checksum := byteSum sb.checkedBytes }

def verifyChecksum : Bool := byteSum sb.checkedBytes == sb.checksum

def new : Superblock :=
  updateChecksum
    { magic := SUPERBLOCK_MAGIC, version := STORAGE_VERSION, entryCount := 0,
      nextFreeSector := 1, reserved := List.replicate 123 0, checksum := 0,
      reserved_length := length_blankReserved }

def isValid : Bool :=
  sb.magic == SUPERBLOCK_MAGIC && sb.version == STORAGE_VERSION && sb.verifyChecksum

def toBytes : List UInt8 := sb.checkedBytes ++ (leBytes32 sb.checksum).toList

def fromBytes : Superblock :=
  { magic := leWord32 bytes, version := leWord32 (bytes.drop 4),
    entryCount := leWord32 (bytes.drop 8), nextFreeSector := leWord32 (bytes.drop 12),
    reserved := leWords32 123 (bytes.drop 16), checksum := leWord32 (bytes.drop 508),
    reserved_length := length_leWords32 }

-- What a deletion and a new entry of so many sectors do to the counters.

def removeEntry : Superblock :=
  { sb with entryCount := if sb.entryCount = 0 then 0 else sb.entryCount - 1 }

def addEntry (sectors : UInt32) : Superblock :=
  { sb with
    entryCount := sb.entryCount + 1, nextFreeSector := sb.nextFreeSector + sectors }

@[simp] lemma length_checkedBytes : sb.checkedBytes.length = 508 := by
  simp [checkedBytes, sb.reserved_length]

@[simp] lemma length_toBytes : sb.toBytes.length = SECTOR_SIZE := by
  simp [toBytes, SECTOR_SIZE]

lemma fromBytes_toBytes : fromBytes sb.toBytes = sb := by
  have hr : leWords32 123 (sb.toBytes.drop 16) = sb.reserved := by
    rw [← sb.reserved_length]
    exact leWords32_wordBytes ..
  have hc : leWord32 (sb.toBytes.drop 508) = sb.checksum := by
    rw [toBytes]
    simpa using leWord32_leBytes32 sb.checksum []
  have hw (i : Nat) (word : UInt32)
      (h : (sb.magic :: sb.version :: sb.entryCount :: sb.nextFreeSector :: sb.reserved)[i]? =
        some word) : leWord32 (sb.toBytes.drop (i * 4)) = word :=
    leWord32_drop h
  have hm : leWord32 sb.toBytes = sb.magic := hw 0 _ rfl
  have hv : leWord32 (sb.toBytes.drop 4) = sb.version := hw 1 _ rfl
  have hn : leWord32 (sb.toBytes.drop 8) = sb.entryCount := hw 2 _ rfl
  have he : leWord32 (sb.toBytes.drop 12) = sb.nextFreeSector := hw 3 _ rfl
  simp only [fromBytes, hm, hv, hn, he, hr, hc]

lemma verifyChecksum_updateChecksum : sb.updateChecksum.verifyChecksum := by
  simp [verifyChecksum, updateChecksum, checkedBytes]

lemma isValid_updateChecksum {sb : Superblock} (hm : sb.magic = SUPERBLOCK_MAGIC)
    (hv : sb.version = STORAGE_VERSION) : sb.updateChecksum.isValid := by
  have hs := sb.verifyChecksum_updateChecksum
  unfold isValid
  rw [hs]
  simp [updateChecksum, hm, hv]

lemma isValid_new : new.isValid := isValid_updateChecksum rfl rfl

lemma eq_of_isValid {sb : Superblock} (h : sb.isValid) :
    sb.magic = SUPERBLOCK_MAGIC ∧ sb.version = STORAGE_VERSION := by
  simp only [isValid, Bool.and_eq_true, beq_iff_eq] at h
  exact h.1

end Superblock

structure EntryHeader where
  magic : UInt32
  flags : UInt32
  keyLen : UInt32
  valueLen : UInt32
deriving DecidableEq

namespace EntryHeader

def new (keyLen valueLen : UInt32) : EntryHeader :=
  { magic := ENTRY_MAGIC, flags := FLAG_VALID, keyLen, valueLen }

def ofEntry (key : String) (value : List UInt8) : EntryHeader :=
  new (UInt32.ofNat (utf8Bytes key).length) (UInt32.ofNat value.length)

def isValid (header : EntryHeader) : Bool :=
  header.magic == ENTRY_MAGIC && header.flags == FLAG_VALID

def totalSize (header : EntryHeader) : Nat :=
  ENTRY_HEADER_SIZE + header.keyLen.toNat + header.valueLen.toNat

def sectorsNeeded (header : EntryHeader) : UInt32 :=
  UInt32.ofNat ((header.totalSize + SECTOR_SIZE - 1) / SECTOR_SIZE)

def toBytes (header : EntryHeader) : List UInt8 :=
  wordBytes [header.magic, header.flags, header.keyLen, header.valueLen]

def fromBytes (bytes : List UInt8) : EntryHeader :=
  { magic := leWord32 bytes, flags := leWord32 (bytes.drop 4),
    keyLen := leWord32 (bytes.drop 8), valueLen := leWord32 (bytes.drop 12) }

variable (header : EntryHeader)

@[simp] lemma length_toBytes : header.toBytes.length = ENTRY_HEADER_SIZE := by
  simp [toBytes, ENTRY_HEADER_SIZE]

lemma fromBytes_append (rest : List UInt8) : fromBytes (header.toBytes ++ rest) = header := by
  have hm : leWord32 (header.toBytes ++ rest) = header.magic := leWord32_drop (i := 0) rfl
  have hf : leWord32 ((header.toBytes ++ rest).drop 4) = header.flags := leWord32_drop (i := 1) rfl
  have hk : leWord32 ((header.toBytes ++ rest).drop 8) = header.keyLen := leWord32_drop (i := 2) rfl
  have hv : leWord32 ((header.toBytes ++ rest).drop 12) = header.valueLen :=
    leWord32_drop (i := 3) rfl
  simp only [fromBytes, hm, hf, hk, hv]

lemma toNat_sectorsNeeded :
    header.sectorsNeeded.toNat = (header.totalSize + SECTOR_SIZE - 1) / SECTOR_SIZE := by
  have hk := header.keyLen.toNat_lt
  have hv := header.valueLen.toNat_lt
  unfold sectorsNeeded
  rw [UInt32.toNat_ofNat']
  simp only [totalSize, SECTOR_SIZE, ENTRY_HEADER_SIZE]
  omega

lemma sectorsNeeded_pos : 0 < header.sectorsNeeded.toNat := by
  rw [toNat_sectorsNeeded]
  simp only [totalSize, SECTOR_SIZE, ENTRY_HEADER_SIZE]
  omega

lemma totalSize_le : header.totalSize ≤ header.sectorsNeeded.toNat * SECTOR_SIZE := by
  rw [toNat_sectorsNeeded]
  simp only [SECTOR_SIZE]
  omega

end EntryHeader

-- The flags word of the header at the start of a sector, set to deleted.
def markDeleted (sectorBuf : List UInt8) : List UInt8 :=
  sectorBuf.take 4 ++ (leBytes32 FLAG_DELETED).toList ++ sectorBuf.drop 8

def entryBuffer (header : EntryHeader) (key : String) (value : List UInt8) : List UInt8 :=
  header.toBytes ++ utf8Bytes key ++ value ++
    List.replicate (header.sectorsNeeded.toNat * SECTOR_SIZE -
      (ENTRY_HEADER_SIZE + (utf8Bytes key).length + value.length)) 0

def slice (bytes : List UInt8) (start stop : Nat) : List UInt8 := (bytes.take stop).drop start

lemma markDeleted_append {header : EntryHeader} :
    markDeleted (header.toBytes ++ rest) =
      EntryHeader.toBytes { header with flags := FLAG_DELETED } ++ rest := by
  simp [markDeleted, EntryHeader.toBytes, wordBytes, List.drop_append]

lemma length_markDeleted (h : 8 ≤ sectorBuf.length) :
    (markDeleted sectorBuf).length = sectorBuf.length := by
  simp only [markDeleted, List.length_append, List.length_take, List.length_drop,
    Vector.length_toList]
  omega

lemma slice_append (first second rest : List UInt8) :
    slice (first ++ second ++ rest) first.length (first.length + second.length) = second := by
  unfold slice
  rw [List.take_left' List.length_append, List.drop_left' rfl]

end ZeroOS.Storage
