import ZeroOS.Storage.BlockStorage

/-!
What the operations of the block store do where the device serves them.
-/

namespace ZeroOS.Storage

open Std.ExtTreeMap UInt32 Device

variable {α β : Type}

lemma bind_ok {next : α → StorageM β} (h : first world = .ok result world') :
    (first >>= next) world = next result world' := by
  show EStateM.bind first next world = _
  rw [EStateM.bind, h]

lemma bind_error {next : α → StorageM β} (h : first world = .error e world') :
    (first >>= next) world = .error e world' := by
  show EStateM.bind first next world = _
  rw [EStateM.bind, h]

lemma of_bind_eq_ok {next : α → StorageM β} (h : (first >>= next) world = .ok result world') :
    ∃ value middle, first world = .ok value middle ∧ next value middle = .ok result world' := by
  cases hf : first world with
  | ok value middle =>
    rw [bind_ok hf] at h
    exact ⟨value, middle, rfl, h⟩
  | error =>
    rw [bind_error hf] at h
    cases h

lemma get_bind {next : World → StorageM β} : (get >>= next) world = next world world := rfl

lemma modify_bind {next : PUnit → StorageM β} :
    (modify change >>= next) world = next ⟨⟩ (change world) := rfl

lemma pure_apply : (pure result : StorageM α) world = .ok result world := rfl

lemma World.after_of_ok {world world' : World} (h : op world = .ok result world') :
    world.after op = world' := by
  rw [World.after, h]

variable {world : World} {device : Device}

lemma blkReadSectors_ok (count : Nat) (hb : world.blk = some device)
    (hs : sector.toNat = start) (hp : 0 < count) (hf : start + count ≤ device.capacity.toNat) :
    blkReadSectors sector (count * SECTOR_SIZE) world =
      .ok (Memory.read device.contents (start * SECTOR_SIZE) (count * SECTOR_SIZE)) world := by
  subst hs
  have hc := Device.check_eq_ok_iff.mpr ⟨hp, hf⟩
  simp only [blkReadSectors, hb, Device.read, hc]
  rfl

lemma blkReadSectors_one (hb : world.blk = some device) (hs : sector.toNat = start)
    (hf : start < device.capacity.toNat) :
    blkReadSectors sector SECTOR_SIZE world =
      .ok (Memory.read device.contents (start * SECTOR_SIZE) SECTOR_SIZE) world := by
  have hr := blkReadSectors_ok 1 hb hs (by omega) hf
  rwa [Nat.one_mul] at hr

lemma blkWriteSectors_ok (count : Nat) (hb : world.blk = some device)
    (hs : sector.toNat = start) (hl : data.length = count * SECTOR_SIZE) (hp : 0 < count)
    (hf : start + count ≤ device.capacity.toNat) :
    blkWriteSectors sector data world =
      .ok () { world with blk := some (device.after [⟨start, data⟩]) } := by
  subst hs
  have hc := Device.check_eq_ok_iff.mpr ⟨hp, hf⟩
  simp only [blkWriteSectors, hb, Device.write, hl, hc]
  rfl

lemma of_blkReadSectors_eq_ok
    (h : blkReadSectors sector (count * SECTOR_SIZE) world = .ok buffer world') :
    world' = world ∧ ∃ device, world.blk = some device ∧ 0 < count ∧
      sector.toNat + count ≤ device.capacity.toNat ∧
      buffer = Memory.read device.contents (sector.toNat * SECTOR_SIZE) (count * SECTOR_SIZE) := by
  cases hb : world.blk with
  | none =>
    simp only [blkReadSectors, hb] at h
    cases h
  | some device =>
    cases hc : device.check sector (count * SECTOR_SIZE) with
    | error =>
      simp only [blkReadSectors, hb, Device.read, hc] at h
      cases h
    | ok =>
      obtain ⟨hp, hf⟩ := Device.check_eq_ok_iff.mp hc
      rw [blkReadSectors_ok count hb rfl hp hf] at h
      cases h
      exact ⟨rfl, device, rfl, hp, hf, rfl⟩

lemma of_blkWriteSectors_eq_ok (hl : data.length = count * SECTOR_SIZE)
    (h : blkWriteSectors sector data world = .ok () world') :
    ∃ device, world.blk = some device ∧ 0 < count ∧
      sector.toNat + count ≤ device.capacity.toNat := by
  cases hb : world.blk with
  | none =>
    simp only [blkWriteSectors, hb] at h
    cases h
  | some device =>
    cases hc : device.check sector (count * SECTOR_SIZE) with
    | error =>
      simp only [blkWriteSectors, hb, Device.write, hl, hc] at h
      cases h
    | ok => exact ⟨device, rfl, Device.check_eq_ok_iff.mp hc⟩

lemma maxSectors_ok (hb : world.blk = some device) :
    maxSectors world = .ok device.maxSectors world := by
  simp only [maxSectors, hb]

def superblockWrite (sb : Superblock) : SectorWrite := ⟨0, sb.toBytes⟩

lemma writeSuperblock_ok (hb : world.blk = some device) (hr : 0 < device.capacity.toNat) :
    writeSuperblock world =
      .ok ()
        { storage := { world.storage with
            superblock := world.storage.superblock.updateChecksum }
          blk := some (device.after
            [superblockWrite world.storage.superblock.updateChecksum]) } := by
  have hw : blkWriteSectors 0 world.storage.superblock.updateChecksum.toBytes
      (world.setSuperblock world.storage.superblock.updateChecksum) = _ :=
    blkWriteSectors_ok 1 hb rfl (Superblock.length_toBytes _) (by omega) hr
  show (do
    blkWriteSectors 0 world.storage.superblock.updateChecksum.toBytes
    blkFlushDevice) (world.setSuperblock world.storage.superblock.updateChecksum) = _
  rw [bind_ok hw]
  rfl

lemma of_writeSuperblock_eq_ok (hb : world.blk = some device)
    (h : writeSuperblock world = .ok () world') : 0 < device.capacity.toNat := by
  have hi : (do
      blkWriteSectors 0 world.storage.superblock.updateChecksum.toBytes
      blkFlushDevice) (world.setSuperblock world.storage.superblock.updateChecksum) =
        .ok () world' := h
  obtain ⟨_, _, hw, -⟩ := of_bind_eq_ok hi
  obtain ⟨found, hg, -, hf⟩ :=
    of_blkWriteSectors_eq_ok ((Superblock.length_toBytes _).trans (Nat.one_mul _).symm) hw
  obtain rfl : device = found := Option.some.inj (hb.symm.trans hg)
  omega

lemma read_of_get_none (hg : world.storage.index[key]? = none) :
    read key world = .ok none world := by
  simp only [read, get_bind, hg, pure_apply]

lemma read_of_get (hb : world.blk = some device) (hg : world.storage.index[key]? = some entry)
    (hp : 0 < entry.numSectors.toNat)
    (hf : entry.sector.toNat + entry.numSectors.toNat ≤ device.capacity.toNat) :
    read key world = answer (entryValue (Memory.read device.contents
      (entry.sector.toNat * SECTOR_SIZE) (entry.numSectors.toNat * SECTOR_SIZE))) world := by
  have hr := blkReadSectors_ok _ hb (toNat_toUInt64 entry.sector) hp hf
  simp only [read, get_bind, hg]
  rw [bind_ok hr]

lemma outcome_answer : outcome (answer value) world = value := by
  cases value <;> rfl

lemma outcome_read_of_get (hb : world.blk = some device)
    (hg : world.storage.index[key]? = some entry) (hp : 0 < entry.numSectors.toNat)
    (hf : entry.sector.toNat + entry.numSectors.toNat ≤ device.capacity.toNat) :
    outcome (read key) world = entryValue (Memory.read device.contents
      (entry.sector.toNat * SECTOR_SIZE) (entry.numSectors.toNat * SECTOR_SIZE)) := by
  unfold outcome
  rw [read_of_get hb hg hp hf]
  exact outcome_answer

lemma delete_of_get_none (hg : world.storage.index[key]? = none) :
    delete key world = .ok false world := by
  simp only [delete, get_bind, hg, pure_apply]

-- What a deletion leaves whose first write is `mark`.
def World.afterDelete (world : World) (device : Device) (key : String) (mark : SectorWrite) :
    World :=
  { storage := { world.storage with
      index := world.storage.index.erase key
      superblock := world.storage.superblock.removeEntry.updateChecksum }
    blk := some (device.after
      [mark, superblockWrite world.storage.superblock.removeEntry.updateChecksum]) }

lemma delete_of_get (hb : world.blk = some device) (hg : world.storage.index[key]? = some entry)
    (hf : entry.sector.toNat < device.capacity.toNat) :
    delete key world = .ok true (world.afterDelete device key ⟨entry.sector.toNat,
      markDeleted (Memory.read device.contents (entry.sector.toNat * SECTOR_SIZE)
        SECTOR_SIZE)⟩) := by
  have hblk₁ : (world.setIndex (world.storage.index.erase key)).blk = some device := hb
  have hs := toNat_toUInt64 entry.sector
  have hl : (markDeleted (Memory.read device.contents
      (entry.sector.toNat * SECTOR_SIZE) SECTOR_SIZE)).length = 1 * SECTOR_SIZE := by
    rw [length_markDeleted (by rw [Memory.length_read]; decide), Memory.length_read, Nat.one_mul]
  simp only [delete, get_bind, hg, modify_bind]
  rw [bind_ok (blkReadSectors_one hblk₁ hs hf),
    bind_ok (blkWriteSectors_ok 1 hblk₁ hs hl (by omega) hf), modify_bind,
    bind_ok (writeSuperblock_ok rfl (by rw [capacity_after]; omega)),
    ← after_append]
  rfl

def World.afterAppend (world : World) (device : Device) (header : EntryHeader) (key : String)
    (value : List UInt8) : World :=
  { storage := { world.storage with
      index := world.storage.index.insert key
        { sector := world.storage.superblock.nextFreeSector, numSectors := header.sectorsNeeded,
          valueLen := UInt32.ofNat value.length }
      superblock := (world.storage.superblock.addEntry header.sectorsNeeded).updateChecksum }
    blk := some (device.after
      [⟨world.storage.superblock.nextFreeSector.toNat, entryBuffer header key value⟩,
        superblockWrite
          (world.storage.superblock.addEntry header.sectorsNeeded).updateChecksum]) }

lemma appendEntry_ok (hh : EntryHeader.ofEntry key value = header) (hb : world.blk = some device)
    (hl : (entryBuffer header key value).length = header.sectorsNeeded.toNat * SECTOR_SIZE)
    (hf : world.storage.superblock.nextFreeSector.toNat + header.sectorsNeeded.toNat ≤
      device.capacity.toNat) :
    appendEntry key value world = .ok () (world.afterAppend device header key value) := by
  have hs := toNat_toUInt64 world.storage.superblock.nextFreeSector
  have hp := header.sectorsNeeded_pos
  simp only [appendEntry, get_bind, hh]
  rw [bind_ok (blkWriteSectors_ok _ hb hs hl hp hf), modify_bind, modify_bind,
    writeSuperblock_ok rfl (by rw [capacity_after]; omega), ← after_append]
  rfl

lemma reserve_ok (hb : world.blk = some device)
    (hr : ¬ world.storage.superblock.nextFreeSector + entrySectors > device.maxSectors) :
    reserve entrySectors world = .ok () world := by
  unfold reserve
  rw [bind_ok (maxSectors_ok hb), get_bind, if_neg hr]
  rfl

lemma insertEntry_of_room (hb : world.blk = some device)
    (hr : ¬ world.storage.superblock.nextFreeSector +
      (EntryHeader.ofEntry key value).sectorsNeeded > device.maxSectors) :
    insertEntry key value world = appendEntry key value world := by
  unfold insertEntry
  rw [bind_ok (reserve_ok hb hr)]

def Counted (world : World) : Prop :=
  world.storage.superblock.entryCount.toNat = world.storage.index.size

lemma counted_afterDelete (h : Counted world) (hg : world.storage.index[key]? = some entry) :
    Counted (world.afterDelete device key mark) := by
  have hm : key ∈ world.storage.index := (BTreeMap.mem_iff ..).mpr ⟨entry, hg⟩
  have hp : world.storage.index.size ≠ 0 := by
    intro hz
    rw [eq_empty_iff_size_eq_zero.mpr hz] at hm
    simp at hm
  have hc : world.storage.superblock.entryCount.toNat = world.storage.index.size := h
  have hn : world.storage.superblock.entryCount ≠ 0 := by
    intro hz
    rw [hz] at hc
    exact hp hc.symm
  have hl : (1 : UInt32) ≤ world.storage.superblock.entryCount := by
    rw [le_iff_toNat_le, hc]
    exact Nat.one_le_iff_ne_zero.mpr hp
  show (if world.storage.superblock.entryCount = 0 then (0 : UInt32)
    else world.storage.superblock.entryCount - 1).toNat = (world.storage.index.erase key).size
  rw [if_neg hn, UInt32.toNat_sub_of_le _ _ hl, hc, size_erase, if_pos (mem_iff_contains.mp hm)]
  rfl

lemma counted_afterAppend (h : Counted world) (hg : world.storage.index[key]? = none)
    (hs : world.storage.index.size + 1 < 2 ^ 32) :
    Counted (world.afterAppend device header key value) := by
  have hm : ¬ world.storage.index.contains key := by
    rw [← mem_iff_contains, BTreeMap.not_mem_iff]
    exact hg
  have hc : world.storage.superblock.entryCount.toNat = world.storage.index.size := h
  show (world.storage.superblock.entryCount + 1).toNat = (world.storage.index.insert key _).size
  rw [UInt32.toNat_add, hc, size_insert, if_neg hm]
  exact Nat.mod_eq_of_lt hs

-- A write is turned down at once, or deletes the old entry if there is one and then inserts.

lemma write_of_too_long (h : (utf8Bytes key).length > MAX_KEY_LEN ∨ value.length > MAX_VALUE_LEN) :
    write key value world = .error .InvalidArgument world := by
  simp only [write, if_pos h]
  rfl

lemma write_of_get_none (hk : (utf8Bytes key).length ≤ MAX_KEY_LEN)
    (hv : value.length ≤ MAX_VALUE_LEN) (hg : world.storage.index[key]? = none) :
    write key value world = insertEntry key value world := by
  have hl : ¬ ((utf8Bytes key).length > MAX_KEY_LEN ∨ value.length > MAX_VALUE_LEN) := by omega
  have hc : world.storage.index.contains key = false := by
    rw [contains_eq_isSome_getElem?, hg]
    rfl
  simp only [write, if_neg hl, get_bind, hc]
  rfl

lemma write_of_get (hk : (utf8Bytes key).length ≤ MAX_KEY_LEN)
    (hv : value.length ≤ MAX_VALUE_LEN) (hg : world.storage.index[key]? = some entry)
    (hd : delete key world = .ok true world') :
    write key value world = insertEntry key value world' := by
  have hl : ¬ ((utf8Bytes key).length > MAX_KEY_LEN ∨ value.length > MAX_VALUE_LEN) := by omega
  have hc : world.storage.index.contains key = true := by
    rw [contains_eq_isSome_getElem?, hg]
    rfl
  have hi : discard (delete key) world = .ok () world' := by
    show EStateM.map _ (delete key) world = _
    rw [EStateM.map, hd]
  simp only [write, if_neg hl, get_bind, hc, if_true]
  rw [bind_ok hi]

end ZeroOS.Storage
