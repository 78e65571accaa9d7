import ZeroOS.Lib.Packing
import ZeroOS.Storage.Disk

/-!
Compaction of the block store.
-/

namespace ZeroOS.Storage

open Layout Std.ExtTreeMap UInt32 BTreeMap Packing Device EntryHeader

-- The extent of an entry, in sectors.

def source (p : String × IndexEntry) : Nat := p.2.sector.toNat

def extent (p : String × IndexEntry) : Nat := p.2.numSectors.toNat

section

variable (cells : Nat → UInt8) (start : Nat) (entries : List (String × IndexEntry))

def sectorsOf (p : String × IndexEntry) : List UInt8 :=
  Packing.fetch SECTOR_SIZE source extent cells p

def moved : Nat → UInt8 :=
  Packing.pack SECTOR_SIZE source extent cells start entries

def movedTo (sector : Nat) (p : String × IndexEntry) : String × IndexEntry :=
  (p.1, { p.2 with sector := UInt32.ofNat sector })

def relocated : List (String × IndexEntry) :=
  (Layout.place extent start entries).map fun p => movedTo p.1 p.2

structure BlockStorage.WellPlaced (storage : BlockStorage) : Prop where
  nonempty : ∀ p ∈ storage.index.toList, 0 < extent p
  inside : ∀ p ∈ storage.index.toList,
    1 ≤ source p ∧ source p + extent p ≤ storage.superblock.nextFreeSector.toNat
  disjoint : storage.index.toList.Pairwise fun p q =>
    source p + extent p ≤ source q ∨ source q + extent q ≤ source p

def Device.Valid (device : Device) (storage : BlockStorage) : Prop :=
  ∀ p ∈ storage.index.toList,
    (EntryHeader.fromBytes (sectorsOf device.contents p)).isValid

structure Compacted (world next : World) : Prop where
  reads : ∀ key, outcome (read key) next = outcome (read key) world
  keys : next.storage.index.keys = world.storage.index.keys
  packed : Layout.Tiles extent 1 (next.storage.index.toList.map fun p => (source p, p))
    next.storage.superblock.nextFreeSector.toNat
  shrinks : next.storage.superblock.nextFreeSector.toNat ≤
    world.storage.superblock.nextFreeSector.toNat

-- No entry lies in front of the place that key order gives it.
def BlockStorage.Ahead (storage : BlockStorage) : Prop :=
  ∀ p ∈ Layout.place extent 1 storage.index.toList, p.1 ≤ source p.2

def Found : Prop :=
  ∀ before p behind, entries = before ++ p :: behind →
    (EntryHeader.fromBytes (sectorsOf (moved cells start before) p)).isValid

-- The new index.

lemma map_fst_relocated : (relocated start entries).map Prod.fst = entries.map Prod.fst := by
  have hc : (Prod.fst ∘ fun p : Nat × String × IndexEntry => movedTo p.1 p.2) =
      Prod.fst ∘ Prod.snd := rfl
  rw [relocated, List.map_map, hc, ← List.map_map, map_snd_place]

lemma relocated_cons :
    relocated start (p :: rest) = movedTo start p :: relocated (start + extent p) rest := rfl

lemma relocated_append :
    relocated start (before ++ p :: behind) = relocated start before ++
      movedTo (start + total extent before) p ::
        relocated (start + total extent before + extent p) behind := by
  rw [relocated, place_append, List.map_append]
  rfl

end

lemma sorted_relocated {index : BTreeMap String IndexEntry} :
    (relocated start index.toList).Pairwise fun p q => compare p.1 q.1 = .lt := by
  have hk : (index.toList.map Prod.fst).Pairwise fun first second =>
      compare first second = .lt := by
    rw [List.pairwise_map]
    exact ordered_keys_toList
  rw [← map_fst_relocated start, List.pairwise_map] at hk
  exact hk

lemma BlockStorage.WellPlaced.total_le {storage : BlockStorage} (h : storage.WellPlaced) :
    total extent storage.index.toList ≤ storage.superblock.nextFreeSector.toNat - 1 := by
  have hi : ∀ q ∈ storage.index.toList.map fun p => (source p, p),
      1 ≤ q.1 ∧ q.1 + extent q.2 ≤ storage.superblock.nextFreeSector.toNat := by
    intro q hq
    obtain ⟨p, hp, rfl⟩ := List.mem_map.mp hq
    exact h.inside p hp
  have hl := total_le_of_disjoint extent hi (by
    rw [List.pairwise_map]
    exact h.disjoint)
  simpa [Function.comp_def] using hl

lemma BlockStorage.WellPlaced.total_lt {storage : BlockStorage} (h : storage.WellPlaced) :
    1 + total extent storage.index.toList < 2 ^ 32 := by
  have hl := h.total_le
  have ht := storage.superblock.nextFreeSector.toNat_lt
  omega

-- The loop.

lemma Found.head (h : Found cells start (p :: rest)) : (fromBytes (sectorsOf cells p)).isValid :=
  h [] p rest rfl

lemma Found.tail (h : Found cells start (p :: rest)) :
    Found (Memory.write cells (start * SECTOR_SIZE) (sectorsOf cells p)) (start + extent p)
      rest := by
  intro before q behind hs
  exact h (p :: before) q behind (by rw [hs, List.cons_append])

lemma mem_of_split {all before behind : List α} (hs : all = before ++ p :: behind) : p ∈ all := by
  rw [hs]
  exact List.mem_append_right _ List.mem_cons_self

section loop

variable {maxSectors next : UInt32} {index : BTreeMap String IndexEntry} {world : World}
  {device : Device}

lemma blkReadSectors_sectorsOf (hblk : world.blk = some device) (hp : 0 < extent p)
    (hf : source p + extent p ≤ device.capacity.toNat) :
    blkReadSectors p.2.sector.toUInt64 (extent p * SECTOR_SIZE) world =
      .ok (sectorsOf device.contents p) world :=
  blkReadSectors_ok _ hblk (toNat_toUInt64 ..) hp hf

lemma compactFrom_cons_eq :
    compactFrom maxSectors (p :: rest) next index = (do
      let buffer ← blkReadSectors p.2.sector.toUInt64 (extent p * SECTOR_SIZE)
      if (fromBytes buffer).isValid then
        if next + p.2.numSectors > maxSectors then throw .OutOfMemory
        else do
          blkWriteSectors next.toUInt64 buffer
          compactFrom maxSectors rest (next + p.2.numSectors)
            (index.insert p.1 { p.2 with sector := next })
      else compactFrom maxSectors rest next index) := by
  rfl

lemma place_le_iff (hw : next.toNat + extent p < 2 ^ 32) :
    next.toNat + extent p ≤ maxSectors.toNat ↔ ¬ next + p.2.numSectors > maxSectors := by
  have hs : (next + p.2.numSectors).toNat = next.toNat + extent p :=
    (UInt32.toNat_add ..).trans (Nat.mod_eq_of_lt hw)
  rw [gt_iff_lt, lt_iff_toNat_lt, hs, Nat.not_lt]

lemma compactFrom_cons (hblk : world.blk = some device)
    (hmax : maxSectors.toNat ≤ device.capacity.toNat)
    (hv : (fromBytes (sectorsOf device.contents p)).isValid) (hp : 0 < extent p)
    (hf : source p + extent p ≤ device.capacity.toNat) (hw : next.toNat + extent p < 2 ^ 32)
    (hr : ¬ next + p.2.numSectors > maxSectors) :
    compactFrom maxSectors (p :: rest) next index world =
      compactFrom maxSectors rest (next + p.2.numSectors)
        (index.insert p.1 { p.2 with sector := next })
        { world with
          blk := some (device.after [⟨next.toNat, sectorsOf device.contents p⟩]) } := by
  have hl : (sectorsOf device.contents p).length = extent p * SECTOR_SIZE := length_fetch ..
  have hpl : next.toNat + extent p ≤ device.capacity.toNat := ((place_le_iff hw).mpr hr).trans hmax
  have hwr := blkWriteSectors_ok _ hblk (toNat_toUInt64 next) hl hp hpl
  rw [compactFrom_cons_eq, bind_ok (blkReadSectors_sectorsOf hblk hp hf), if_pos hv, if_neg hr]
  exact bind_ok hwr

lemma of_compactFrom_cons_eq_ok (hblk : world.blk = some device)
    (hv : (fromBytes (sectorsOf device.contents p)).isValid)
    (h : compactFrom maxSectors (p :: rest) next index world = .ok result world') :
    0 < extent p ∧ source p + extent p ≤ device.capacity.toNat ∧
      ¬ next + p.2.numSectors > maxSectors := by
  rw [compactFrom_cons_eq] at h
  obtain ⟨_, _, hr, hs⟩ := of_bind_eq_ok h
  obtain ⟨rfl, found, hgot, hp, hf, -⟩ := of_blkReadSectors_eq_ok hr
  obtain rfl : device = found := Option.some.inj (hblk.symm.trans hgot)
  rw [blkReadSectors_sectorsOf hblk hp hf] at hr
  cases hr
  refine ⟨hp, hf, ?_⟩
  intro hu
  rw [if_pos hv, if_pos hu] at hs
  cases hs

section

variable (hblk : world.blk = some device) (hmax : maxSectors.toNat ≤ device.capacity.toNat)
  (hgot : Found device.contents next.toNat entries)

include hblk hmax hgot

-- All turns. The invariant is that the disk is the one on which the entries so far have been
-- moved together.

lemma of_compactFrom_eq_ok (hw : next.toNat + total extent entries < 2 ^ 32)
    (h : compactFrom maxSectors entries next index world = .ok result world') :
    result.1.toNat = next.toNat + total extent entries ∧
      result.2 = index.insertMany (relocated next.toNat entries) ∧
      (∀ p ∈ entries, 0 < extent p ∧ source p + extent p ≤ device.capacity.toNat) ∧
      (next.toNat ≤ device.capacity.toNat →
        next.toNat + total extent entries ≤ device.capacity.toNat) ∧
      ∃ device', world' = { world with blk := some device' } ∧ device'.capacity = device.capacity ∧
        device'.contents = moved device.contents next.toNat entries := by
  induction entries generalizing world device next index with
  | nil =>
    cases h
    refine ⟨rfl, insertMany_nil.symm, by simp, id, device, ?_, rfl, rfl⟩
    rw [← hblk]
  | cons p rest ih =>
    rw [total_cons] at hw
    have hs : (next + p.2.numSectors).toNat = next.toNat + extent p :=
      (UInt32.toNat_add ..).trans (Nat.mod_eq_of_lt (by unfold extent at *; omega))
    obtain ⟨hp, hf, hr⟩ := of_compactFrom_cons_eq_ok hblk hgot.head h
    rw [compactFrom_cons hblk hmax hgot.head hp hf (by omega) hr] at h
    have hc := device.contents_after_singleton next.toNat (sectorsOf device.contents p)
    have hl : Found (device.after [⟨next.toNat, sectorsOf device.contents p⟩]).contents
        (next + p.2.numSectors).toNat rest := by
      rw [hc, hs]
      exact hgot.tail
    have hpl := (place_le_iff (by omega)).mpr hr
    obtain ⟨hn, hi, hb, he, device', hwr, ha, hd⟩ := ih rfl (by exact hmax) hl (by omega) h
    rw [capacity_after] at he
    rw [total_cons]
    refine ⟨by omega, ?_, ?_, by omega, device', hwr, ha, ?_⟩
    · rw [hi, hs, relocated_cons, movedTo, insertMany_cons, UInt32.ofNat_toNat]
    · intro q hq
      rcases List.mem_cons.mp hq with rfl | hm
      · exact ⟨hp, hf⟩
      · exact hb q hm
    · rw [hd, hs, hc]
      rfl

lemma compactFrom_ok
    (hs : ∀ p ∈ entries, 0 < extent p ∧ source p + extent p ≤ device.capacity.toNat)
    (hr : next.toNat + total extent entries ≤ maxSectors.toNat) :
    ∃ result world', compactFrom maxSectors entries next index world = .ok result world' := by
  induction entries generalizing world device next index with
  | nil => exact ⟨_, _, rfl⟩
  | cons p rest ih =>
    rw [total_cons] at hr
    have ht := maxSectors.toNat_lt
    have hu : (next + p.2.numSectors).toNat = next.toNat + extent p :=
      (UInt32.toNat_add ..).trans (Nat.mod_eq_of_lt (by unfold extent at *; omega))
    obtain ⟨hp, hf⟩ := hs p List.mem_cons_self
    rw [compactFrom_cons hblk hmax hgot.head hp hf (by omega)
      ((place_le_iff (by omega)).mp (by omega))]
    have hl : Found (device.after [⟨next.toNat, sectorsOf device.contents p⟩]).contents
        (next + p.2.numSectors).toNat rest := by
      rw [device.contents_after_singleton, hu]
      exact hgot.tail
    exact ih rfl (by exact hmax) hl (fun q hq => hs q (List.mem_cons_of_mem _ hq))
      (by omega)

end

end loop

structure Repacked (world : World) (device : Device) (next : World) : Prop where
  index : next.storage.index =
    Std.ExtTreeMap.ofList (relocated 1 world.storage.index.toList) compare
  nextFree : next.storage.superblock.nextFreeSector.toNat =
    1 + Layout.total extent world.storage.index.toList
  served : ∀ p ∈ world.storage.index.toList,
    0 < extent p ∧ source p + extent p ≤ device.capacity.toNat
  room : 1 + Layout.total extent world.storage.index.toList ≤ device.capacity.toNat
  disk : ∃ device', next.blk = some device' ∧ device'.capacity = device.capacity ∧
    ∀ here, SECTOR_SIZE ≤ here →
      device'.contents here = moved device.contents 1 world.storage.index.toList here

lemma compact_eq (hi : world.storage.initialized) :
    compact world = (do
      let maxSectors ← maxSectors
      let packed ← compactFrom maxSectors (← get).storage.index.toList 1 ∅
      modify fun world => world.setIndex packed.2
      modify fun world => world.setSuperblock
        { world.storage.superblock with
          entryCount := ofNat packed.2.size, nextFreeSector := packed.1 }
      writeSuperblock : StorageM Unit) world := by
  simp only [compact, get_bind, hi]
  rfl

lemma initialized_of_compact (h : compact world = .ok () next) : world.storage.initialized := by
  cases hi : world.storage.initialized with
  | true => rfl
  | false =>
    simp only [compact, get_bind, hi] at h
    cases h

lemma of_compact_eq_ok (hblk : world.blk = some device)
    (hw : 1 + total extent world.storage.index.toList < 2 ^ 32)
    (hgot : Found device.contents 1 world.storage.index.toList)
    (h : compact world = .ok () next) : Repacked world device next := by
  have hi := initialized_of_compact h
  rw [compact_eq hi, bind_ok (maxSectors_ok hblk), get_bind] at h
  obtain ⟨_, _, hl, hf⟩ := of_bind_eq_ok h
  obtain ⟨hn, hd, hs, he, _, rfl, hc, hdi⟩ :=
    of_compactFrom_eq_ok hblk device.toNat_maxSectors_le (by exact hgot) (by exact hw) hl
  rw [modify_bind, modify_bind] at hf
  have hr := of_writeSuperblock_eq_ok rfl hf
  rw [writeSuperblock_ok rfl hr] at hf
  cases hf
  refine ⟨?_, hn, hs, he (by rwa [← hc]), _, rfl, hc, ?_⟩
  · rw [ofList_eq_insertMany_empty]
    exact hd
  · intro here hh
    rw [contents_after_superblockWrite, Memory.write_outside, hdi]
    · rfl
    · right
      rw [Superblock.length_toBytes]
      exact hh

lemma compact_ok (hblk : world.blk = some device) (hi : world.storage.initialized)
    (hgot : Found device.contents 1 world.storage.index.toList)
    (hs : ∀ p ∈ world.storage.index.toList,
      0 < extent p ∧ source p + extent p ≤ device.capacity.toNat)
    (hr : 1 + total extent world.storage.index.toList ≤ device.maxSectors.toNat) :
    ∃ next, compact world = .ok () next := by
  have hmax := device.toNat_maxSectors_le
  obtain ⟨packed, middle, hl⟩ : ∃ packed middle, compactFrom device.maxSectors
      world.storage.index.toList 1 ∅ world = .ok packed middle :=
    compactFrom_ok hblk hmax (by exact hgot) hs (by exact hr)
  obtain ⟨-, -, -, -, device', rfl, hc, -⟩ := of_compactFrom_eq_ok hblk hmax (by exact hgot)
    (Nat.lt_of_le_of_lt hr device.maxSectors.toNat_lt) hl
  have hp : 0 < device'.capacity.toNat := by
    rw [hc]
    omega
  rw [compact_eq hi, bind_ok (maxSectors_ok hblk), get_bind, bind_ok hl, modify_bind,
    modify_bind, writeSuperblock_ok rfl hp]
  exact ⟨_, rfl⟩

lemma Repacked.outcome_read (h : Repacked world device next)
    (hw : 1 + total extent world.storage.index.toList < 2 ^ 32)
    (hs : world.storage.index.toList = before ++ p :: behind) :
    outcome (read p.1) next = entryValue (sectorsOf (moved device.contents 1 before) p) := by
  obtain ⟨device', hblk, hc, hd⟩ := h.disk
  have hg : next.storage.index[p.1]? = some (movedTo (1 + total extent before) p).2 := by
    rw [h.index, get_ofList sorted_relocated, hs, relocated_append]
    exact List.mem_append_right _ List.mem_cons_self
  rw [hs, total_append] at hw
  have he : (movedTo (1 + total extent before) p).2.sector.toNat = 1 + total extent before :=
    toNat_ofNat'.trans (Nat.mod_eq_of_lt (by omega))
  have hr := h.served p (mem_of_split hs)
  have ho := h.room
  rw [hs, total_append, total_cons] at ho
  rw [outcome_read_of_get hblk hg hr.1 (by
    rw [he, hc]
    show 1 + total extent before + extent p ≤ _
    omega), he]
  congr 1
  -- The superblock is written in front of all entries.
  calc Memory.read device'.contents ((1 + total extent before) * SECTOR_SIZE)
        (extent p * SECTOR_SIZE)
      = Memory.read (moved device.contents 1 (before ++ p :: behind))
          ((1 + total extent before) * SECTOR_SIZE) (extent p * SECTOR_SIZE) := by
        apply Memory.read_congr
        intro here hl _
        rw [hd here (by rw [Nat.add_mul] at hl; omega), hs]
    _ = sectorsOf (moved device.contents 1 before) p := read_pack ..

lemma BlockStorage.Ahead.le_source {storage : BlockStorage} (h : storage.Ahead)
    (hs : storage.index.toList = before ++ p :: behind) : 1 + total extent before ≤ source p := by
  refine h (1 + total extent before, p) ?_
  rw [hs, place_append]
  exact List.mem_append_right _ List.mem_cons_self

lemma sectorsOf_moved_of_ahead {storage : BlockStorage} (ha : storage.Ahead)
    (hs : storage.index.toList = before ++ p :: behind) :
    sectorsOf (moved cells 1 before) p = sectorsOf cells p :=
  fetch_pack_of_le SECTOR_SIZE source extent (ha.le_source hs)

lemma found_of_ahead {device : Device} (ha : storage.Ahead) (hv : device.Valid storage) :
    Found device.contents 1 storage.index.toList := by
  intro before p behind hs
  rw [sectorsOf_moved_of_ahead ha hs]
  exact hv p (mem_of_split hs)

lemma Repacked.toList_index (h : Repacked world device next) :
    next.storage.index.toList = relocated 1 world.storage.index.toList := by
  rw [h.index]
  exact toList_ofList sorted_relocated

lemma Repacked.keys_index (h : Repacked world device next) :
    next.storage.index.keys = world.storage.index.keys := by
  rw [← map_fst_toList_eq_keys, ← map_fst_toList_eq_keys, h.toList_index, map_fst_relocated]

lemma Repacked.tiles (h : Repacked world device next)
    (hw : 1 + total extent world.storage.index.toList < 2 ^ 32) :
    Layout.Tiles extent 1 (next.storage.index.toList.map fun p => (source p, p))
      next.storage.superblock.nextFreeSector.toNat := by
  rw [h.nextFree, h.toList_index, relocated, List.map_map]
  refine (tiles_place ..).map _ ?_
  rintro ⟨here, p⟩ hp
  have hi := (tiles_place extent 1 world.storage.index.toList).mem_inside _ hp
  refine ⟨?_, rfl⟩
  exact Nat.mod_eq_of_lt (by omega)

lemma compacted_of_ahead (hplaced : storage.WellPlaced)
    (hl : 1 ≤ storage.superblock.nextFreeSector.toNat) (ha : storage.Ahead)
    (hv : device.Valid storage) (hc : compact { storage, blk := some device } = .ok () next) :
    Compacted { storage, blk := some device } next := by
  have hw := hplaced.total_lt
  have hblk : (World.mk storage (some device)).blk = some device := rfl
  have h := of_compact_eq_ok hblk hw (found_of_ahead ha hv) hc
  refine ⟨?_, h.keys_index, h.tiles hw, ?_⟩
  · intro key
    cases hg : storage.index[key]? with
    | none =>
      have hm : key ∉ next.storage.index := by
        rw [← mem_keys, h.keys_index, mem_keys]
        exact not_mem_iff.mpr hg
      rw [outcome, outcome, read_of_get_none (not_mem_iff.mp hm), read_of_get_none hg]
    | some entry =>
      have hm : (key, entry) ∈ storage.index.toList := mem_toList_iff_getElem?_eq_some.mpr hg
      obtain ⟨_, _, hs⟩ := List.append_of_mem hm
      obtain ⟨hp, hf⟩ := h.served _ hm
      rw [h.outcome_read hw hs, sectorsOf_moved_of_ahead ha hs, outcome_read_of_get hblk hg hp hf]
      rfl
  · have he := hplaced.total_le
    rw [h.nextFree]
    show 1 + total extent storage.index.toList ≤ storage.superblock.nextFreeSector.toNat
    omega

-- A disk on which every sector starts like an entry, with one byte of value. The byte tells one
-- sector from all others.

def stampHeader : EntryHeader := EntryHeader.new 0 1

def stampByte (mark sector : Nat) : UInt8 := if sector = mark then 1 else 0

def stampedBytes (mark sector : Nat) : List UInt8 :=
  stampHeader.toBytes ++ [stampByte mark sector]

def Device.stamped (mark : Nat) : Device :=
  { capacity := 4294967295
    image := fun place => (stampedBytes mark (place / SECTOR_SIZE))[place % SECTOR_SIZE]?.getD 0
    journal := [] }

lemma length_stampedBytes (mark sector : Nat) : (stampedBytes mark sector).length = 17 := rfl

lemma Device.contents_stamped (ho : offset < SECTOR_SIZE) :
    (stamped mark).contents (sector * SECTOR_SIZE + offset) =
      (stampedBytes mark sector)[offset]?.getD 0 := by
  have hd : (sector * SECTOR_SIZE + offset) / SECTOR_SIZE = sector := by
    simp only [SECTOR_SIZE] at ho ⊢
    omega
  have hm : (sector * SECTOR_SIZE + offset) % SECTOR_SIZE = offset := by
    rw [Nat.mul_add_mod_self_right, Nat.mod_eq_of_lt ho]
  have hc : (stamped mark).contents (sector * SECTOR_SIZE + offset) =
      (stampedBytes mark ((sector * SECTOR_SIZE + offset) / SECTOR_SIZE))[
        (sector * SECTOR_SIZE + offset) % SECTOR_SIZE]?.getD 0 := rfl
  rw [hc, hd, hm]

lemma exists_read_stamped (hc : ∀ offset < SECTOR_SIZE, cells (here * SECTOR_SIZE + offset) =
      (stamped mark).contents (origin * SECTOR_SIZE + offset)) (hp : 0 < count) :
    ∃ rest, Memory.read cells (here * SECTOR_SIZE) (count * SECTOR_SIZE) =
      stampedBytes mark origin ++ rest := by
  have hl := length_stampedBytes mark origin
  have hh : Memory.Holds cells (here * SECTOR_SIZE) (stampedBytes mark origin) := by
    apply Memory.holds_of_getElem?
    intro offset byte hb
    obtain ⟨ht, -⟩ := List.getElem?_eq_some_iff.mp hb
    have ho : offset < SECTOR_SIZE := by
      simp only [SECTOR_SIZE]
      omega
    rw [hc offset ho, contents_stamped ho, hb, Option.getD_some]
  have he : 17 ≤ count * SECTOR_SIZE := by
    simp only [SECTOR_SIZE]
    omega
  obtain ⟨more, hn⟩ := Nat.exists_eq_add_of_le he
  refine ⟨Memory.read cells (here * SECTOR_SIZE + 17) more, ?_⟩
  rw [hn, Memory.read_add, hh.read hl]

lemma entryValue_stamped :
    entryValue (stampedBytes mark origin ++ rest) = .ok (some [stampByte mark origin]) := by
  exact congrArg (fun value => Except.ok (some value))
    (slice_append stampHeader.toBytes [stampByte mark origin] rest)

-- The first sector of an entry when others have been moved: a copy of a sector of one of them if
-- they reach it, and its own otherwise.
lemma exists_sectorsOf_moved (mark : Nat) (before : List (String × IndexEntry))
    (hp : 0 < extent p) (hl : 1 ≤ source p) :
    ∃ origin rest,
      sectorsOf (moved (stamped mark).contents 1 before) p = stampedBytes mark origin ++ rest ∧
      (1 + total extent before ≤ source p → origin = source p) ∧
      (source p < 1 + total extent before →
        ∃ q ∈ before, source q ≤ origin ∧ origin < source q + extent q) := by
  by_cases hr : source p < 1 + total extent before
  · obtain ⟨q, hq, origin, hf, ha, hc⟩ := exists_origin SECTOR_SIZE source
      extent (stamped mark).contents hl hr
    obtain ⟨rest, hd⟩ := exists_read_stamped hc hp
    exact ⟨origin, rest, hd, by omega, fun _ => ⟨q, hq, hf, ha⟩⟩
  · have hc : ∀ offset < SECTOR_SIZE,
        moved (stamped mark).contents 1 before (source p * SECTOR_SIZE + offset) =
          (stamped mark).contents (source p * SECTOR_SIZE + offset) := by
      intro offset ho
      exact pack_unit_outside _ _ _ (.inr (Nat.le_of_not_lt hr)) ho
    obtain ⟨rest, hd⟩ := exists_read_stamped hc hp
    exact ⟨source p, rest, hd, fun _ => rfl, fun h => absurd h hr⟩

section

variable {storage : BlockStorage} (hplaced : storage.WellPlaced)

include hplaced

lemma found_stamped : Found (stamped mark).contents 1 storage.index.toList := by
  intro before p behind hs
  have hm := mem_of_split hs
  obtain ⟨_, _, hr, -⟩ := exists_sectorsOf_moved mark before (hplaced.nonempty p hm)
    (hplaced.inside p hm).1
  rw [hr]
  rfl

lemma exists_sectorsOf_stamped (mark : Nat) (hp : p ∈ storage.index.toList) :
    ∃ rest, sectorsOf (stamped mark).contents p = stampedBytes mark (source p) ++ rest := by
  obtain ⟨_, rest, hr, ho, -⟩ := exists_sectorsOf_moved mark []
    (hplaced.nonempty p hp) (hplaced.inside p hp).1
  rw [← ho (hplaced.inside p hp).1]
  exact ⟨rest, hr⟩

lemma valid_stamped : (stamped mark).Valid storage := by
  intro p hp
  obtain ⟨_, hr⟩ := exists_sectorsOf_stamped hplaced mark hp
  rw [hr]
  rfl

lemma compact_stamped (hi : storage.initialized) (mark : Nat) :
    ∃ next, compact { storage, blk := some (.stamped mark) } = .ok () next := by
  have hw := hplaced.total_lt
  have hl := storage.superblock.nextFreeSector.toNat_lt
  have hc : (stamped mark).capacity.toNat = 2 ^ 32 - 1 := rfl
  have hmax : (stamped mark).maxSectors = 4294967295 := by
    show (((4294967295 : UInt64) * UInt64.ofNat 512) / UInt64.ofNat 512).toUInt32 = 4294967295
    decide
  have hblk : (World.mk storage (some (.stamped mark))).blk = some (.stamped mark) := rfl
  refine compact_ok hblk hi (found_stamped hplaced) ?_ ?_
  · intro p hp
    have hn := (hplaced.inside p hp).2
    refine ⟨hplaced.nonempty p hp, ?_⟩
    omega
  · rw [hmax]
    exact Nat.le_of_lt_succ hw

lemma repacked_stamped (hc : compact { storage, blk := some (.stamped mark) } = .ok () next) :
    Repacked { storage, blk := some (.stamped mark) } (.stamped mark) next := by
  have hblk : (World.mk storage (some (.stamped mark))).blk = some (.stamped mark) := rfl
  exact of_compact_eq_ok hblk hplaced.total_lt (found_stamped hplaced) hc

-- An entry in front of its place is overwritten before its turn comes. On the disk that tells its
-- first sector from all others the store shows it.
lemma ahead_of_compacted (hi : storage.initialized) (ha : ∀ device next, device.Valid storage →
      compact { storage, blk := some device } = .ok () next →
        Compacted { storage, blk := some device } next) : storage.Ahead := by
  rintro ⟨here, p⟩ hp
  obtain ⟨before, _, hs, rfl⟩ := exists_split_of_mem_place extent hp
  have hm := mem_of_split hs
  have ho := hplaced.nonempty p hm
  by_contra hf
  obtain ⟨next, hc⟩ := compact_stamped hplaced hi (source p)
  have hr := (ha _ _ (valid_stamped hplaced) hc).reads p.1
  have h := repacked_stamped hplaced hc
  obtain ⟨origin, _, hmo, -, hrc⟩ :=
    exists_sectorsOf_moved (source p) before ho (hplaced.inside p hm).1
  obtain ⟨_, hw⟩ := exists_sectorsOf_stamped hplaced (source p) hm
  obtain ⟨q, hq, hfs, hl⟩ := hrc (Nat.lt_of_not_le hf)
  -- The sector comes from another entry.
  have ht : origin ≠ source p := by
    have hd := hplaced.disjoint
    rw [hs, List.pairwise_append] at hd
    have hpq := hd.2.2 q hq p List.mem_cons_self
    omega
  have hg : storage.index[p.1]? = some p.2 := mem_toList_iff_getElem?_eq_some.mp hm
  obtain ⟨-, hfi⟩ := h.served p hm
  have hb : outcome (read p.1) { storage, blk := some (.stamped (source p)) } =
      entryValue (sectorsOf (stamped (source p)).contents p) :=
    outcome_read_of_get rfl hg ho hfi
  rw [h.outcome_read hplaced.total_lt hs, hb, hmo, hw, entryValue_stamped,
    entryValue_stamped, stampByte, stampByte, if_neg ht, if_pos rfl] at hr
  cases hr

end

-- A compaction keeps what a store reads on every disk exactly if no entry lies in front of the
-- place that key order gives it.
theorem compacted_iff {storage : BlockStorage} (hplaced : storage.WellPlaced) :
    (∀ device next, device.Valid storage →
      compact { storage, blk := some device } = .ok () next →
        Compacted { storage, blk := some device } next) ↔
      (storage.initialized →
        1 ≤ storage.superblock.nextFreeSector.toNat ∧ storage.Ahead) := by
  constructor
  · intro hall hi
    refine ⟨?_, ahead_of_compacted hplaced hi hall⟩
    obtain ⟨next, hc⟩ := compact_stamped hplaced hi 0
    have hs := (hall _ _ (valid_stamped hplaced) hc).shrinks
    rw [(repacked_stamped hplaced hc).nextFree] at hs
    exact (Nat.le_add_right ..).trans hs
  · intro hn device next hv hc
    have hi := initialized_of_compact hc
    exact compacted_of_ahead hplaced (hn hi).1 (hn hi).2 hv hc

-- A store whose two entries lie in key order.

def inOrder : BlockStorage :=
  { index := Std.ExtTreeMap.ofList
      [("a", { sector := 1, numSectors := 1, valueLen := 1 }),
        ("b", { sector := 2, numSectors := 1, valueLen := 1 })] compare
    superblock := { Superblock.new with entryCount := 2, nextFreeSector := 3 }
    initialized := true }

lemma toList_inOrder : inOrder.index.toList =
    [("a", { sector := 1, numSectors := 1, valueLen := 1 }),
      ("b", { sector := 2, numSectors := 1, valueLen := 1 })] :=
  toList_ofList (by decide +kernel)

theorem compacted_iff_inOrder :
    ∃ next, compact { storage := inOrder, blk := some (.stamped 0) } = .ok () next ∧
      Compacted { storage := inOrder, blk := some (.stamped 0) } next := by
  have hplaced : inOrder.WellPlaced := by
    constructor <;> rw [toList_inOrder] <;> decide
  have ha : inOrder.Ahead := by
    rw [BlockStorage.Ahead]
    decide
  have hall := (compacted_iff hplaced).mpr (fun _ => ⟨by decide, ha⟩)
  obtain ⟨next, hc⟩ := compact_stamped hplaced rfl 0
  exact ⟨next, hc, hall _ _ (valid_stamped hplaced) hc⟩

-- Two keys that have been written in the opposite order. The first overwrites the second, which
-- then reads as the first.

def outOfOrder : World :=
  (((World.new (.blank 8)).after init).after (write "b" [1])).after (write "a" [2])

theorem outOfOrder_mixed :
    outOfOrder.storage.WellPlaced ∧
      (∃ device, outOfOrder.blk = some device ∧ device.Valid outOfOrder.storage) ∧
      outcome compact outOfOrder = .ok () ∧
      outcome (read "b") outOfOrder = .ok (some [1]) ∧
      outcome (read "b") (outOfOrder.after compact) = .ok (some [2]) := by
  obtain ⟨hl, hn, hv, hr⟩ :
      outOfOrder.storage.index.toList =
        [("a", { sector := 2, numSectors := 1, valueLen := 1 }),
          ("b", { sector := 1, numSectors := 1, valueLen := 1 })] ∧
      outOfOrder.storage.superblock.nextFreeSector = 3 ∧
      (outOfOrder.blk.any fun device => outOfOrder.storage.index.toList.all fun p =>
        (fromBytes (sectorsOf device.contents p)).isValid) = true ∧
      outcome compact outOfOrder = .ok () ∧
      outcome (read "b") outOfOrder = .ok (some [1]) ∧
      outcome (read "b") (outOfOrder.after compact) = .ok (some [2]) := by
    decide +kernel
  refine ⟨⟨?_, ?_, ?_⟩, ?_, hr⟩
  · rw [hl]
    decide
  · rw [hl, hn]
    decide
  · rw [hl]
    decide
  · cases hblk : outOfOrder.blk with
    | none =>
      rw [hblk] at hv
      cases hv
    | some device =>
      rw [hblk, Option.any_some, List.all_eq_true] at hv
      exact ⟨device, rfl, hv⟩

end ZeroOS.Storage
