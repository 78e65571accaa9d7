import ZeroOS.Storage.BlockStorage.Lemmas
import ZeroOS.Storage.Log

/-!
A device that holds a log, and a store that has opened it.
-/

namespace ZeroOS.Storage

open Layout Memory Memory.Holds UInt32 List Superblock Log Device

structure Device.Holds (device : Device) (sb : Superblock) (log : List Record) : Prop where
  superblock : Memory.Holds device.contents 0 sb.toBytes
  valid : sb.isValid
  records : Memory.Holds device.contents SECTOR_SIZE (Log.image log)
  nextFree : sb.nextFreeSector.toNat = 1 + Layout.total Record.sectors log
  fits : sb.nextFreeSector.toNat ≤ device.capacity.toNat
  distinct : Log.Distinct log

-- The store on a device is the one that opening the device gives.
structure World.Represents (world : World) (device : Device) (log : List Record) : Prop where
  blk : world.blk = some device
  holds : device.Holds world.storage.superblock log
  index : world.storage.index = Log.indexOf log

lemma Log.holds_image_split :
    Memory.Holds cells SECTOR_SIZE (image (before ++ record :: behind)) ↔
      Memory.Holds cells SECTOR_SIZE (image before) ∧
      Memory.Holds cells ((1 + total Record.sectors before) * SECTOR_SIZE) record.bytes ∧
      Memory.Holds cells ((1 + total Record.sectors before) * SECTOR_SIZE + record.bytes.length)
        (image behind) := by
  have hs : SECTOR_SIZE + (image before).length =
      (1 + total Record.sectors before) * SECTOR_SIZE := by
    rw [length_image, Nat.add_mul, Nat.one_mul]
  have hc : image (record :: behind) = record.bytes ++ image behind := rfl
  rw [image_append, hc, holds_append, holds_append, hs]

lemma Device.contents_after_superblockWrite {device : Device} :
    (device.after [superblockWrite sb]).contents = Memory.write device.contents 0 sb.toBytes :=
  (device.contents_after_singleton ..).trans (by rw [Nat.zero_mul])

lemma Device.fromBytes_after_superblockWrite (device : Device) :
    fromBytes (Memory.read (device.after [superblockWrite sb]).contents 0 SECTOR_SIZE) =
      sb := by
  rw [contents_after_superblockWrite, ← sb.length_toBytes, read_write_same, fromBytes_toBytes]

namespace Device.Holds

variable {device : Device} {sb sb' : Superblock} {log : List Record}

lemma superblock_write (h : device.Holds sb log) (hv : sb'.isValid)
    (hn : sb'.nextFreeSector = sb.nextFreeSector) :
    (device.after [superblockWrite sb']).Holds sb' log where
  superblock := by
    rw [contents_after_superblockWrite]
    exact write_same
  valid := hv
  records := by
    rw [contents_after_superblockWrite]
    exact h.records.write_disjoint (.inr (by simp))
  nextFree := by rw [hn, h.nextFree]
  fits := by
    rw [hn]
    exact h.fits
  distinct := h.distinct

lemma write_beyond (h : device.Holds sb log) (data : List UInt8)
    (hs : sb.nextFreeSector.toNat ≤ sector) :
    (device.after [⟨sector, data⟩]).Holds sb log where
  superblock := by
    rw [contents_after_singleton]
    have hn := h.nextFree
    have hl := sb.length_toBytes
    refine h.superblock.write_disjoint (.inl ?_)
    simp only [SECTOR_SIZE] at hl ⊢
    omega
  valid := h.valid
  records := by
    rw [contents_after_singleton]
    have hn := h.nextFree
    have hl := length_image log
    refine h.records.write_disjoint (.inl ?_)
    simp only [SECTOR_SIZE] at hl ⊢
    omega
  nextFree := h.nextFree
  fits := h.fits
  distinct := h.distinct

lemma record_holds (h : device.Holds sb (before ++ record :: behind)) :
    Memory.Holds device.contents ((1 + total Record.sectors before) * SECTOR_SIZE) record.bytes :=
  (holds_image_split.mp h.records).2.1

-- The deletion of a record. Of the four parts of the log (the records before it, its first
-- sector, the rest of it and the records behind it) the write touches the second only.
lemma bury (h : device.Holds sb (before ++ record :: behind)) (hl : record.live) :
    (device.after [⟨1 + total Record.sectors before, markDeleted
        (Memory.read device.contents ((1 + total Record.sectors before) * SECTOR_SIZE)
          SECTOR_SIZE)⟩]).Holds sb (bury record.key (before ++ record :: behind)) := by
  obtain ⟨he, hr, hh⟩ := holds_image_split.mp h.records
  have hp := record.sectors_pos
  have hb := record.length_bytes
  have hbf := length_image before
  have hs := sb.length_toBytes
  have ht : (record.bytes.take SECTOR_SIZE).length = SECTOR_SIZE := by
    rw [length_take, hb]
    simp only [SECTOR_SIZE]
    omega
  have hf : Memory.read device.contents
      ((1 + total Record.sectors before) * SECTOR_SIZE) SECTOR_SIZE =
        record.bytes.take SECTOR_SIZE := by
    rw [← hr.read rfl, Memory.take_read]
    simp only [SECTOR_SIZE] at hb ⊢
    omega
  have hrs : Memory.Holds device.contents
      ((1 + total Record.sectors before) * SECTOR_SIZE + SECTOR_SIZE)
      (record.bytes.drop SECTOR_SIZE) := by
    rw [← take_append_drop SECTOR_SIZE record.bytes, holds_append, ht] at hr
    exact hr.2
  have hle : (markDeleted (record.bytes.take SECTOR_SIZE)).length = SECTOR_SIZE := by
    rw [length_markDeleted (by rw [ht]; decide), ht]
  have hd : record.dead.bytes.length = record.bytes.length := by
    rw [record.length_bytes, record.dead.length_bytes, Record.sectors_dead]
  rw [hf]
  refine ⟨?_, h.valid, ?_, ?_, h.fits, distinct_bury h.distinct _⟩
  · rw [contents_after_singleton]
    refine h.superblock.write_disjoint (.inl ?_)
    simp only [SECTOR_SIZE] at hs ⊢
    omega
  · rw [contents_after_singleton, bury_of_split h.distinct hl, holds_image_split, hd,
      record.bytes_dead, holds_append, hle]
    simp only [SECTOR_SIZE] at *
    refine ⟨he.write_disjoint (.inl ?_), ⟨write_same, ?_⟩, ?_⟩
    · omega
    · exact hrs.write_disjoint (.inr (by omega))
    · exact hh.write_disjoint (.inr (by omega))
  · rw [Log.bury, total_map Record.sectors (Record.sectors_buried _)]
    exact h.nextFree

lemma commit (h : device.Holds sb log) (hv : sb'.isValid)
    (hr : Memory.Holds device.contents (sb.nextFreeSector.toNat * SECTOR_SIZE) record.bytes)
    (hn : sb'.nextFreeSector.toNat = sb.nextFreeSector.toNat + record.sectors)
    (hf : sb'.nextFreeSector.toNat ≤ device.capacity.toNat)
    (ha : lookup log record.key = none) :
    (device.after [superblockWrite sb']).Holds sb' (log ++ [record]) where
  superblock := by
    rw [contents_after_superblockWrite]
    exact write_same
  valid := hv
  records := by
    rw [h.nextFree] at hr
    have hl : Memory.Holds device.contents SECTOR_SIZE (Log.image (log ++ [record])) :=
      Log.holds_image_split.mpr ⟨h.records, hr, nil ..⟩
    rw [contents_after_superblockWrite]
    exact hl.write_disjoint (.inr (by simp))
  nextFree := by
    rw [hn, h.nextFree, total_append, total_cons, total_nil]
    omega
  fits := hf
  distinct := distinct_append h.distinct ha

end Device.Holds

-- Opening a device.

section opening

variable {world : World} {device : Device} {sb : Superblock}

lemma readKey_record {record : Record} :
    readKey sector (record.bytes.take SECTOR_SIZE) record.header world =
      .ok (utf8Bytes record.key) world := by
  have hk := record.key_length
  have hl : ENTRY_HEADER_SIZE + record.header.keyLen.toNat ≤ SECTOR_SIZE := by
    rw [record.toNat_keyLen]
    simp only [MAX_KEY_LEN] at hk
    simp only [ENTRY_HEADER_SIZE, SECTOR_SIZE]
    omega
  simp only [readKey, if_pos hl, record.slice_key, pure_apply]

lemma toUInt32_eq_ofNat {sector : UInt64} (hs : sector.toNat = start) :
    sector.toUInt32 = ofNat start := by
  apply UInt32.toNat_inj.mp
  rw [UInt64.toNat_toUInt32, UInt32.toNat_ofNat', hs]

lemma loadEntry_record (hs : sector.toNat = start) :
    loadEntry sector (record.bytes.take SECTOR_SIZE) record.header world =
      .ok () (world.setIndex (enter world.storage.index (start, record))) := by
  unfold loadEntry enter
  rw [record.isValid_header]
  cases record.live with
  | false => rfl
  | true =>
    rw [if_pos rfl, bind_ok readKey_record, fromUtf8_utf8Bytes, toUInt32_eq_ofNat hs]
    rfl

section

variable (hblk : world.blk = some device)

include hblk

-- The scan runs through the records one by one. As each has at least one sector, there are
-- turns enough.
lemma loadIndexFrom_records (hs : sector.toNat = start)
    (hh : Memory.Holds device.contents (start * SECTOR_SIZE) (image records))
    (hm : maxSector.toNat = start + total Record.sectors records)
    (hi : maxSector.toNat ≤ device.capacity.toNat) (ht : total Record.sectors records ≤ turns) :
    loadIndexFrom turns sector maxSector world =
      .ok () (world.setIndex (scan (place Record.sectors start records) world.storage.index)) := by
  induction records generalizing world sector start turns with
  | nil =>
    cases turns with
    | zero => rfl
    | succ =>
      have he : ¬ sector < maxSector := by
        rw [UInt64.lt_iff_toNat_lt, hm, hs]
        simp
      simp only [loadIndexFrom, if_neg he]
      rfl
  | cons record rest ih =>
    have hp := record.sectors_pos
    have hx := maxSector.toNat_lt
    rw [total_cons] at hm ht
    have hc : image (record :: rest) = record.bytes ++ image rest := rfl
    rw [hc, holds_append, record.length_bytes, ← Nat.add_mul] at hh
    cases turns with
    | zero => omega
    | succ =>
      have hl : sector < maxSector := by
        rw [UInt64.lt_iff_toNat_lt]
        omega
      have hf : Memory.read device.contents (start * SECTOR_SIZE) SECTOR_SIZE =
          record.bytes.take SECTOR_SIZE := by
        have hb := record.length_bytes
        rw [← hh.1.read rfl, Memory.take_read]
        simp only [SECTOR_SIZE] at hb ⊢
        omega
      have hd : EntryHeader.fromBytes (record.bytes.take SECTOR_SIZE) = record.header := by
        exact EntryHeader.fromBytes_append ..
      have hg : record.header.magic = ENTRY_MAGIC := rfl
      have hn : (sector + record.header.sectorsNeeded.toUInt64).toNat = start + record.sectors := by
        rw [UInt64.toNat_add, toNat_toUInt64, hs]
        exact Nat.mod_eq_of_lt (by unfold Record.sectors at *; omega)
      have hb' : (world.setIndex (enter world.storage.index (start, record))).blk =
          some device := hblk
      simp only [loadIndexFrom, if_pos hl]
      rw [bind_ok (blkReadSectors_one hblk hs (by omega)), hf, hd, if_pos hg,
        bind_ok (loadEntry_record hs)]
      exact ih hb' hn hh.2 (by omega) (by omega)

lemma loadIndex_of_holds (h : device.Holds world.storage.superblock log) :
    loadIndex world = .ok () (world.setIndex (indexOf log)) := by
  have hm : world.storage.superblock.nextFreeSector.toUInt64.toNat =
      1 + total Record.sectors log := by
    rw [toNat_toUInt64, h.nextFree]
  have hh : Memory.Holds device.contents (1 * SECTOR_SIZE) (image log) := by
    exact h.records
  have hb' : (world.setIndex ∅).blk = some device := hblk
  have hf : world.storage.superblock.nextFreeSector.toUInt64.toNat ≤ device.capacity.toNat := by
    exact h.fits
  have ht : total Record.sectors log ≤
      world.storage.superblock.nextFreeSector.toUInt64.toNat := by omega
  exact loadIndexFrom_records hb' rfl hh hm hf ht

lemma init_eq (ho : 0 < device.capacity.toNat) :
    init world =
      (if (fromBytes (Memory.read device.contents 0 SECTOR_SIZE)).isValid then do
        modify fun world => world.setSuperblock
          (fromBytes (Memory.read device.contents 0 SECTOR_SIZE))
        loadIndex
        modify World.setInitialized
        return false
      else do
        modify fun world => world.setSuperblock new
        writeSuperblock
        modify fun world => (world.setIndex ∅).setInitialized
        return true : StorageM Bool) world := by
  have hs : ¬ (world.blk.isNone = true) := by simp [hblk]
  have hr := blkReadSectors_one hblk (show (0 : UInt64).toNat = 0 from rfl) ho
  rw [Nat.zero_mul] at hr
  simp only [init, get_bind, if_neg hs]
  rw [bind_ok hr]

lemma init_of_holds (h : device.Holds sb log) :
    init world =
      .ok false
        { storage := { index := indexOf log, superblock := sb, initialized := true },
          blk := some device } := by
  have hr : 0 < device.capacity.toNat := by
    have hn := h.nextFree
    have hf := h.fits
    omega
  have hs : fromBytes (Memory.read device.contents 0 SECTOR_SIZE) = sb := by
    rw [h.superblock.read sb.length_toBytes, fromBytes_toBytes]
  have hb' : (world.setSuperblock sb).blk = some device := hblk
  rw [init_eq hblk hr, hs, if_pos h.valid, modify_bind, bind_ok (loadIndex_of_holds hb' h), ← hblk]
  rfl

lemma init_of_not_valid (hr : 0 < device.capacity.toNat)
    (hi : ¬ (fromBytes (Memory.read device.contents 0 SECTOR_SIZE)).isValid) :
    init world =
      .ok true
        { storage := { index := ∅, superblock := new, initialized := true },
          blk := some (device.after [superblockWrite new]) } := by
  have hb' : (world.setSuperblock new).blk = some device := hblk
  have hc : new.updateChecksum = new := by
    simp [new, updateChecksum, checkedBytes]
  rw [init_eq hblk hr, if_neg hi, modify_bind, bind_ok (writeSuperblock_ok hb' hr)]
  show EStateM.Result.ok true (World.mk (BlockStorage.mk ∅ new.updateChecksum true)
    (some (device.after [superblockWrite new.updateChecksum]))) = _
  rw [hc]

end

end opening

lemma Device.holds_new {device : Device} (hr : 0 < device.capacity.toNat) :
    (device.after [superblockWrite new]).Holds new [] where
  superblock := by
    rw [contents_after_superblockWrite]
    exact write_same
  valid := isValid_new
  records := nil ..
  nextFree := rfl
  fits := hr
  distinct := List.Pairwise.nil

lemma World.represents_new (device : Device) (hr : 0 < device.capacity.toNat) :
    World.Represents
      { storage := { index := ∅, superblock := Superblock.new, initialized := true },
        blk := some (device.after [superblockWrite Superblock.new]) }
      (device.after [superblockWrite Superblock.new]) [] :=
  ⟨rfl, holds_new hr, rfl⟩

-- The entry of a record fits behind the log.
def World.HasRoom (world : World) (device : Device) (record : Record) : Prop :=
  world.storage.superblock.nextFreeSector.toNat + record.sectors ≤ device.capacity.toNat ∧
    ¬ world.storage.superblock.nextFreeSector + record.header.sectorsNeeded > device.maxSectors

namespace World.Represents

variable {world : World} {device : Device} {log : List Record}

section

variable (h : world.Represents device log)

include h

lemma get_eq_none_iff : world.storage.index[key]? = none ↔ lookup log key = none := by
  rw [h.index]
  exact get_indexOf_eq_none_iff h.holds.distinct

lemma isSome_get : world.storage.index[key]?.isSome = (lookup log key).isSome := by
  rw [Bool.eq_iff_iff, Option.isSome_iff_ne_none, Option.isSome_iff_ne_none]
  exact not_congr h.get_eq_none_iff

lemma exists_entry (hl : lookup log key ≠ none) :
    ∃ entry, world.storage.index[key]? = some entry := by
  rw [← Option.ne_none_iff_exists']
  intro hn
  exact hl (h.get_eq_none_iff.mp hn)

lemma exists_record (hg : world.storage.index[key]? = some entry) :
    ∃ before record behind, log = before ++ record :: behind ∧ record.live ∧ record.key = key ∧
      entry.sector.toNat = 1 + total Record.sectors before ∧
      entry.numSectors.toNat = record.sectors ∧
      1 + total Record.sectors before + record.sectors ≤ device.capacity.toNat := by
  rw [h.index] at hg
  obtain ⟨before, record, behind, rfl, hl, hk, rfl⟩ := exists_split_of_get h.holds.distinct hg
  have hn := h.holds.nextFree
  have hf := h.holds.fits
  have ht := world.storage.superblock.nextFreeSector.toNat_lt
  rw [total_append, total_cons] at hn
  refine ⟨before, record, behind, rfl, hl, hk, ?_, rfl, by omega⟩
  exact Nat.mod_eq_of_lt (by omega)

lemma read (key : String) : read key world = .ok (lookup log key) world := by
  cases hg : world.storage.index[key]? with
  | none => rw [read_of_get_none hg, h.get_eq_none_iff.mp hg]
  | some =>
    obtain ⟨_, record, _, rfl, hl, rfl, hs, hc, hf⟩ := h.exists_record hg
    have hp := record.sectors_pos
    have hr := read_of_get h.blk hg (by omega) (by omega)
    rw [hs, hc, h.holds.record_holds.read record.length_bytes, record.entryValue_bytes,
      if_pos hl] at hr
    rw [hr, lookup_of_split h.holds.distinct hl]
    rfl

lemma delete (hl : lookup log key ≠ none) :
    ∃ mark, (device.after [mark]).Holds world.storage.superblock (bury key log) ∧
      delete key world = .ok true (world.afterDelete device key mark) := by
  obtain ⟨_, hg⟩ := h.exists_entry hl
  obtain ⟨_, record, _, rfl, hi, rfl, hs, -, hf⟩ := h.exists_record hg
  have hp := record.sectors_pos
  have hd := delete_of_get h.blk hg (by omega)
  rw [hs] at hd
  exact ⟨_, h.holds.bury hi, hd⟩

lemma afterDelete (hm : (device.after [mark]).Holds world.storage.superblock (bury key log)) :
    (world.afterDelete device key mark).Represents
      (device.after [mark, superblockWrite world.storage.superblock.removeEntry.updateChecksum])
      (bury key log) where
  blk := rfl
  holds := by
    obtain ⟨hg, hv⟩ := eq_of_isValid h.holds.valid
    have ha : world.storage.superblock.removeEntry.updateChecksum.isValid :=
      isValid_updateChecksum hg hv
    have hh := hm.superblock_write ha rfl
    rwa [← after_append] at hh
  index := by
    show world.storage.index.erase key = _
    rw [h.index, indexOf_bury h.holds.distinct]

-- A new entry. Until its second write the disk holds the log it held.

lemma appendEntry (record : Record) (hl : record.live)
    (hf : world.storage.superblock.nextFreeSector.toNat + record.sectors ≤ device.capacity.toNat) :
    appendEntry record.key record.value world =
      .ok () (world.afterAppend device record.header record.key record.value) := by
  exact appendEntry_ok (record.ofEntry_eq hl) h.blk record.length_bytes hf

lemma afterAppend (hl : record.live) (ha : lookup log record.key = none)
    (hf : world.storage.superblock.nextFreeSector.toNat + record.sectors ≤ device.capacity.toNat)
    (hw : world.storage.superblock.nextFreeSector.toNat + record.sectors < 2 ^ 32) :
    (world.afterAppend device record.header record.key record.value).Represents
      (device.after
        [⟨world.storage.superblock.nextFreeSector.toNat, record.bytes⟩,
          superblockWrite (world.storage.superblock.addEntry
            record.header.sectorsNeeded).updateChecksum])
      (log ++ [record]) where
  blk := rfl
  holds := by
    obtain ⟨hm, hv⟩ := eq_of_isValid h.holds.valid
    have hva : (world.storage.superblock.addEntry
        record.header.sectorsNeeded).updateChecksum.isValid :=
      isValid_updateChecksum hm hv
    have hr : Memory.Holds
        (device.after [⟨world.storage.superblock.nextFreeSector.toNat, record.bytes⟩]).contents
        (world.storage.superblock.nextFreeSector.toNat * SECTOR_SIZE) record.bytes := by
      rw [contents_after_singleton]
      exact write_same
    have hn : (world.storage.superblock.addEntry
        record.header.sectorsNeeded).updateChecksum.nextFreeSector.toNat =
        world.storage.superblock.nextFreeSector.toNat + record.sectors := by
      exact Nat.mod_eq_of_lt hw
    have hh := (h.holds.write_beyond record.bytes (Nat.le_refl _)).commit hva hr hn
      (by rw [hn]; exact hf) ha
    rwa [← after_append] at hh
  index := by
    have hs : world.storage.superblock.nextFreeSector = ofNat (1 + total Record.sectors log) := by
      rw [← h.holds.nextFree, UInt32.ofNat_toNat]
    rw [indexOf_append log hl, ← h.index]
    show world.storage.index.insert record.key _ = _
    rw [hs]
    rfl

-- A write that finds room behind the log.

lemma write_of_absent (hl : record.live)
    (ha : lookup log record.key = none) (hr : world.HasRoom device record) :
    write record.key record.value world =
      .ok () (world.afterAppend device record.header record.key record.value) := by
  rw [write_of_get_none record.key_length record.value_length (h.get_eq_none_iff.mpr ha),
    insertEntry_of_room h.blk (by rw [record.ofEntry_eq hl]; exact hr.2), h.appendEntry _ hl hr.1]

lemma write_of_present (hl : record.live)
    (ho : lookup log record.key ≠ none) (hr : world.HasRoom device record) :
    ∃ mark, (device.after [mark]).Holds world.storage.superblock (bury record.key log) ∧
      write record.key record.value world =
        .ok () ((world.afterDelete device record.key mark).afterAppend
          (device.after [mark, superblockWrite world.storage.superblock.removeEntry.updateChecksum])
          record.header record.key record.value) := by
  obtain ⟨mark, hm, hd⟩ := h.delete ho
  have hn := h.afterDelete hm
  obtain ⟨_, hg⟩ := h.exists_entry ho
  refine ⟨mark, hm, ?_⟩
  rw [write_of_get record.key_length record.value_length hg hd,
    insertEntry_of_room hn.blk (by rw [record.ofEntry_eq hl]; exact hr.2),
    hn.appendEntry record hl hr.1]

lemma size_index_lt {record : Record}
    (hw : world.storage.superblock.nextFreeSector.toNat + record.sectors < 2 ^ 32) :
    world.storage.index.size + 1 < 2 ^ 32 := by
  have hs := size_indexOf_le log
  have hn := h.holds.nextFree
  rw [h.index]
  omega

-- The writes of an overwrite or of a first write. Between the first and the last of them the
-- disk holds the log without the key.
lemma write (record : Record) (hi : record.live) (hr : world.HasRoom device record)
    (hw : world.storage.superblock.nextFreeSector.toNat + record.sectors < 2 ^ 32) :
    ∃ writes next, write record.key record.value world = .ok () next ∧
      next.Represents (device.after writes) (bury record.key log ++ [record]) ∧
      next.storage.initialized = world.storage.initialized ∧ (Counted world → Counted next) ∧
      ∀ kept, kept <+: writes → kept ≠ [] → kept ≠ writes →
        ∃ sb, (device.after kept).Holds sb (bury record.key log) := by
  have hs := h.size_index_lt hw
  by_cases hl : lookup log record.key = none
  · have hh := h.holds.write_beyond record.bytes (Nat.le_refl _)
    rw [bury_of_lookup_eq_none hl]
    refine ⟨_, _, h.write_of_absent hi hl hr, h.afterAppend hi hl hr.1 hw, rfl, ?_, ?_⟩
    · intro hc
      exact counted_afterAppend hc (h.get_eq_none_iff.mpr hl) hs
    · intro kept hk he ha
      simp only [prefix_cons_iff, prefix_nil] at hk
      rcases hk with rfl | ⟨_, rfl, rfl | ⟨_, rfl, rfl⟩⟩
      · exact absurd rfl he
      · exact ⟨_, hh⟩
      · exact absurd rfl ha
  · obtain ⟨_, hm, hwr⟩ := h.write_of_present hi hl hr
    obtain ⟨_, hg⟩ := h.exists_entry hl
    have hn := h.afterDelete hm
    have hb : lookup (bury record.key log) record.key = none := by
      rw [lookup_bury, if_pos rfl]
    have ho := hn.get_eq_none_iff.mpr hb
    have hh := hn.holds.write_beyond record.bytes (Nat.le_refl _)
    have hd := hn.afterAppend hi hb hr.1 hw
    rw [← after_append] at hh hd
    refine ⟨_, _, hwr, hd, rfl, ?_, ?_⟩
    · intro hc
      have hsm : (world.storage.index.erase record.key).size + 1 < 2 ^ 32 :=
        Nat.lt_of_le_of_lt (Nat.succ_le_succ Std.ExtTreeMap.size_erase_le) hs
      exact counted_afterAppend (counted_afterDelete hc hg) ho hsm
    · intro kept hk he ha
      simp only [cons_append, nil_append, prefix_cons_iff, prefix_nil] at hk
      rcases hk with rfl | ⟨_, rfl, rfl | ⟨_, rfl, rfl | ⟨_, rfl, rfl | ⟨_, rfl, rfl⟩⟩⟩⟩
      · exact absurd rfl he
      · exact ⟨_, hm⟩
      · exact ⟨_, hn.holds⟩
      · exact ⟨_, hh⟩
      · exact absurd rfl ha

end

end World.Represents

end ZeroOS.Storage
