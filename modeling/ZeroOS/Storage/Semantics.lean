import ZeroOS.Lib.Run
import ZeroOS.Storage.Disk

/-!
The block store as a map that survives a restart.
-/

namespace ZeroOS.Storage

open Std.ExtTreeMap List Superblock Log Run

inductive Op where
  | Init
  | Write (key : String) (value : List UInt8)
  | Delete (key : String)
  | Read (key : String)
  | List (prefixed : String)
  | Exists (key : String)

def perform (world : World) : Op → World
  | .Init => world.after init
  | .Write key value => world.after (write key value)
  | .Delete key => world.after (delete key)
  | .Read key => world.after (read key)
  | .List _ => world
  | .Exists _ => world

-- A write within the limits; any other is turned down.
def Accepted (key : String) (value : List UInt8) : Prop :=
  (utf8Bytes key).length ≤ MAX_KEY_LEN ∧ value.length ≤ MAX_VALUE_LEN

instance (key : String) (value : List UInt8) : Decidable (Accepted key value) :=
  inferInstanceAs (Decidable (_ ∧ _))

def remember (key : String) (last : Option (List UInt8)) : Op → Option (List UInt8)
  | .Write other value => if other = key ∧ Accepted other value then some value else last
  | .Delete other => if other = key then none else last
  | _ => last

def lastWrite (key : String) (history : List Op) : Option (List UInt8) :=
  history.foldl (remember key) none

structure MapSemantics (history : List Op) (world : World) : Prop where
  reads : ∀ key, outcome (read key) world = .ok (lastWrite key history)
  ordered : ∀ prefixed, (list world.storage prefixed).Pairwise (· < ·)
  lists : ∀ prefixed key, key ∈ list world.storage prefixed ↔
    (lastWrite key history).isSome ∧ key.startsWith prefixed
  knows : ∀ key, existsKey world.storage key = (lastWrite key history).isSome
  counts : world.storage.superblock.entryCount.toNat = (list world.storage "").length
  -- Live and dead records tile the sectors up to the next free one, and the index shows where
  -- the live ones lie.
  tiles : ∃ device placed, world.blk = some device ∧
    Layout.Tiles Record.sectors 1 placed world.storage.superblock.nextFreeSector.toNat ∧
    (∀ p ∈ placed, Memory.Holds device.contents (p.1 * SECTOR_SIZE) p.2.bytes) ∧
    ∀ key entry, world.storage.index[key]? = some entry ↔
      ∃ p ∈ placed, p.2.isFor key ∧ entry = p.2.entryAt p.1
  reopens : ∀ fresh, ∃ isNew reopened,
    init { storage := fresh, blk := world.blk } = .ok isNew reopened ∧
      reopened.storage.index = world.storage.index ∧
      ∀ key, outcome (read key) reopened = .ok (lastWrite key history)

-- The device is large enough for the write: it has the sectors, and no compaction is triggered.
def Spacious (world : World) : Op → Prop
  | .Write key value => Accepted key value → ∃ device, world.blk = some device ∧
      world.storage.superblock.nextFreeSector.toNat +
        (EntryHeader.ofEntry key value).sectorsNeeded.toNat ≤ device.capacity.toNat ∧
      ¬ world.storage.superblock.nextFreeSector +
        (EntryHeader.ofEntry key value).sectorsNeeded > device.maxSectors
  | _ => True

-- The store is open and the number of the next free sector stays in its word.
def Prepared (world : World) : Op → Prop
  | .Write key value => Accepted key value → world.storage.initialized ∧
      world.storage.superblock.nextFreeSector.toNat +
        (EntryHeader.ofEntry key value).sectorsNeeded.toNat < 2 ^ 32
  | _ => True

-- The store as it was before it was opened, or open on a log that agrees with the history.
def Sound (start : World) (history : List Op) (world : World) : Prop :=
  (world = start ∧ ∀ key, lastWrite key history = none) ∨
    ∃ device log, world.Represents device log ∧ world.storage.initialized ∧ Counted world ∧
      ∀ key, Log.lookup log key = lastWrite key history

lemma lastWrite_append (key : String) (history : List Op) (op : Op) :
    lastWrite key (history ++ [op]) = remember key (lastWrite key history) op := by
  simp [lastWrite]

-- The record of a write within the limits.
abbrev Accepted.record {key : String} {value : List UInt8} (h : Accepted key value) : Record :=
  { key, value, live := true, key_length := h.1, value_length := h.2 }

lemma Accepted.ofEntry_eq (h : Accepted key value) :
    EntryHeader.ofEntry key value = h.record.header :=
  h.record.ofEntry_eq rfl

lemma Accepted.room (h : Accepted key value) (hb : world.blk = some device)
    (hc : Spacious world (.Write key value)) : world.HasRoom device h.record := by
  obtain ⟨found, hg, hr⟩ := hc h
  obtain rfl : device = found := Option.some.inj (hb.symm.trans hg)
  exact hr

-- A write beyond the limits changes nothing and does not count.

lemma perform_refused (h : ¬ Accepted key value) : perform world (.Write key value) = world := by
  have hl : (utf8Bytes key).length > MAX_KEY_LEN ∨ value.length > MAX_VALUE_LEN := by
    unfold Accepted at h
    omega
  rw [perform, World.after, write_of_too_long hl]

lemma remember_refused (h : ¬ Accepted key value) (other : String) (last : Option (List UInt8)) :
    remember other last (.Write key value) = last := by
  simp only [remember, h, and_false, ite_false]

-- What an operation does to a store that is open on a log.

section steps

variable {world : World} {device : Device} {log : List Record}

section

variable (h : world.Represents device log) (hi : world.storage.initialized)
  (hc : Counted world) (hl : ∀ key, lookup log key = lastWrite key history)

include h hi hc hl

lemma sound_write (ha : Accepted key value) (hs : Spacious world (.Write key value))
    (hr : Prepared world (.Write key value)) :
    Sound start (history ++ [.Write key value]) (perform world (.Write key value)) := by
  let record := ha.record
  have hf := ha.room h.blk hs
  have hw := (hr ha).2
  have hm : ∀ other, lastWrite other (history ++ [.Write key value]) =
      if key = other then some value else lastWrite other history := by
    intro other
    rw [lastWrite_append]
    simp only [remember, ha, and_true]
  have hb : lookup (bury key log) key = none := by
    rw [lookup_bury, if_pos rfl]
  obtain ⟨_, next, hwr, hn, hp, hk, -⟩ := h.write record rfl hf hw
  rw [perform, World.after_of_ok hwr]
  refine .inr ⟨_, _, hn, by rw [hp]; exact hi, hk hc, ?_⟩
  intro other
  rw [lookup_append _ rfl hb, hm, lookup_bury, ← hl other]
  by_cases ho : key = other
  · rw [if_pos ho, if_pos ho]
  · rw [if_neg ho, if_neg ho, if_neg ho]

lemma sound_delete : Sound start (history ++ [.Delete key]) (perform world (.Delete key)) := by
  have hr : ∀ other, lastWrite other (history ++ [.Delete key]) =
      if key = other then none else lastWrite other history := by
    intro other
    rw [lastWrite_append, remember]
  refine .inr ?_
  by_cases ha : lookup log key = none
  · rw [perform, World.after_of_ok (delete_of_get_none (h.get_eq_none_iff.mpr ha))]
    refine ⟨device, log, h, hi, hc, ?_⟩
    intro other
    rw [hr, ← hl]
    by_cases ho : key = other
    · rw [if_pos ho, ← ho, ha]
    · rw [if_neg ho]
  · obtain ⟨_, hm, hd⟩ := h.delete ha
    obtain ⟨_, hg⟩ := h.exists_entry ha
    rw [perform, World.after_of_ok hd]
    refine ⟨_, _, h.afterDelete hm, hi, counted_afterDelete hc hg, ?_⟩
    intro other
    rw [lookup_bury, hr, hl]

end

lemma sound_init (h : world.Represents device log) (hc : Counted world)
    (hl : ∀ key, lookup log key = lastWrite key history) :
    Sound start (history ++ [.Init]) (perform world .Init) := by
  rw [perform, World.after_of_ok (init_of_holds h.blk h.holds)]
  refine .inr ⟨device, log, ⟨rfl, h.holds, rfl⟩, rfl, ?_, ?_⟩
  · rw [← h.index]
    exact hc
  · intro key
    rw [lastWrite_append, hl]
    rfl

end steps

-- A device with room for a superblock and none on it.
def Blank (start : Device) : Prop :=
  0 < start.capacity.toNat ∧
    ¬ (Superblock.fromBytes (Memory.read start.contents 0 SECTOR_SIZE)).isValid

lemma sound_step (hb : Blank start)
    (hs : Sound (World.new start) history world) (hcs : Spacious world op)
    (he : Prepared world op) : Sound (World.new start) (history ++ [op]) (perform world op) := by
  -- An operation that changes neither the store nor what has been written.
  have hi : perform world op = world → (∀ key last, remember key last op = last) →
      Sound (World.new start) (history ++ [op]) (perform world op) := by
    intro hsa hla
    rw [hsa]
    simpa only [Sound, lastWrite_append, hla] using hs
  rcases hs with ⟨rfl, hn⟩ | ⟨_, _, h, hin, hc, hl⟩
  · have hg : ∀ key : String, (World.new start).storage.index[key]? = none := by
      intro key
      exact getElem?_empty
    cases op with
    | Init =>
      rw [perform, World.after_of_ok (init_of_not_valid rfl hb.1 hb.2)]
      refine .inr ⟨_, _, World.represents_new _ hb.1, rfl, rfl, ?_⟩
      intro key
      rw [lastWrite_append, hn]
      rfl
    | Write key value =>
      by_cases ha : Accepted key value
      · have hcl := (he ha).1
        cases hcl
      · exact hi (perform_refused ha) (remember_refused ha)
    | Delete key =>
      refine .inl ⟨?_, ?_⟩
      · rw [perform, World.after_of_ok (delete_of_get_none (hg key))]
      · intro other
        rw [lastWrite_append, hn]
        exact ite_self _
    | Read key => exact hi (World.after_of_ok (read_of_get_none (hg key))) (fun _ _ => rfl)
    | List | Exists => exact hi rfl (fun _ _ => rfl)
  · cases op with
    | Init => exact sound_init h hc hl
    | Write key value =>
      by_cases ha : Accepted key value
      · exact sound_write h hin hc hl ha hcs he
      · exact hi (perform_refused ha) (remember_refused ha)
    | Delete key => exact sound_delete h hin hc hl
    | Read key => exact hi (World.after_of_ok (h.read key)) (fun _ _ => rfl)
    | List | Exists => exact hi rfl (fun _ _ => rfl)

lemma sound_of_prepared (hb : Blank start) (hc : Run.Along perform Spacious (World.new start) history)
    (hr : Run.Along perform Prepared (World.new start) history) :
    Sound (World.new start) history (run perform (World.new start) history) := by
  induction history using reverseRecOn with
  | nil => exact .inl ⟨rfl, fun _ => rfl⟩
  | append_singleton _ _ ih =>
    rw [along_append] at hc hr
    rw [run_append]
    exact sound_step hb (ih hc.1 hr.1) hc.2.1 hr.2.1

-- What the store answers, from what it is.

lemma mem_list_iff :
    key ∈ list storage prefixed ↔ storage.index[key]?.isSome ∧ key.startsWith prefixed := by
  rw [list, mem_filter, Std.ExtTreeMap.mem_keys, mem_iff_isSome_getElem?]

lemma pairwise_list (storage : BlockStorage) (prefixed : String) :
    (list storage prefixed).Pairwise (· < ·) := by
  have hk : storage.index.keys.Pairwise (fun first second => compare first second = .lt) :=
    ordered_keys
  exact (hk.imp compareOfLessAndEq_eq_lt.mp).filter _

lemma length_list_empty : (list storage "").length = storage.index.size := by
  simp [list]

lemma mapSemantics_of_represents (h : world.Represents device log) (hc : Counted world)
    (hl : ∀ key, lookup log key = lastWrite key history) :
    MapSemantics history world where
  reads := by
    intro key
    rw [outcome, h.read, hl]
  ordered := pairwise_list world.storage
  lists := by
    intro prefixed key
    rw [mem_list_iff, h.isSome_get, hl]
  knows := by
    intro key
    rw [existsKey, contains_eq_isSome_getElem?, h.isSome_get, hl]
  counts := by
    rw [length_list_empty]
    exact hc
  tiles := by
    refine ⟨device, Layout.place Record.sectors 1 log, h.blk, ?_, ?_, ?_⟩
    · rw [h.holds.nextFree]
      exact Layout.tiles_place ..
    · intro p hp
      obtain ⟨before, behind, rfl, hpl⟩ := Layout.exists_split_of_mem_place Record.sectors hp
      rw [hpl]
      exact h.holds.record_holds
    · intro key entry
      rw [h.index]
      constructor
      · intro hg
        rw [get_indexOf h.holds.distinct, Option.map_eq_some_iff] at hg
        obtain ⟨p, hi, rfl⟩ := hg
        have hf : p.2.isFor key := by simpa using find?_some hi
        exact ⟨p, mem_of_find?_eq_some hi, hf, rfl⟩
      · rintro ⟨p, hp, hf, rfl⟩
        obtain ⟨hli, rfl⟩ := Record.isFor_iff.mp hf
        obtain ⟨before, behind, rfl, hpl⟩ := Layout.exists_split_of_mem_place Record.sectors hp
        rw [hpl]
        exact get_indexOf_of_split h.holds.distinct hli
  reopens := by
    intro fresh
    have hb : World.blk ⟨fresh, world.blk⟩ = some device := h.blk
    refine ⟨_, _, init_of_holds hb h.holds, h.index.symm, ?_⟩
    intro key
    have ho : World.Represents
        { storage := { index := indexOf log, superblock := world.storage.superblock,
                       initialized := true },
          blk := some device } device log := ⟨rfl, h.holds, rfl⟩
    rw [outcome, ho.read, hl]

lemma mapSemantics_of_closed (hb : Blank start) (hn : ∀ key, lastWrite key history = none) :
    MapSemantics history (World.new start) where
  reads := by
    intro key
    rw [outcome, read_of_get_none getElem?_empty, hn]
  ordered := pairwise_list _
  lists := by
    intro prefixed key
    rw [mem_list_iff, hn]
    simp [World.new, BlockStorage.new]
  knows := by
    intro key
    rw [hn]
    simp [existsKey, World.new, BlockStorage.new]
  counts := by
    rfl
  tiles := by
    refine ⟨start, [], rfl, rfl, by simp, ?_⟩
    simp [World.new, BlockStorage.new]
  reopens := by
    intro fresh
    refine ⟨_, _, init_of_not_valid rfl hb.1 hb.2, rfl, ?_⟩
    intro key
    rw [hn]
    rfl

lemma mapSemantics_of_sound (hb : Blank start) (hs : Sound (World.new start) history world) :
    MapSemantics history world := by
  rcases hs with ⟨rfl, hn⟩ | ⟨_, _, h, -, hc, hl⟩
  · exact mapSemantics_of_closed hb hn
  · exact mapSemantics_of_represents h hc hl

lemma write_indexed (h : world.Represents device log) (hl : record.live)
    (hr : world.HasRoom device record) :
    ∃ next entry, write record.key record.value world = .ok () next ∧
      next.storage.index[record.key]? = some entry ∧
      entry.sector = world.storage.superblock.nextFreeSector ∧
      entry.numSectors = record.header.sectorsNeeded := by
  by_cases ha : lookup log record.key = none
  · have hw := h.write_of_absent hl ha hr
    exact ⟨_, _, hw, getElem?_insert_self, rfl, rfl⟩
  · obtain ⟨_, -, hw⟩ := h.write_of_present hl ha hr
    exact ⟨_, _, hw, getElem?_insert_self, rfl, rfl⟩

lemma lt_of_mapSemantics (h : MapSemantics history world) {key : String}
    (hg : world.storage.index[key]? = some entry) :
    entry.sector.toNat + entry.numSectors.toNat < 2 ^ 32 := by
  obtain ⟨_, _, -, ht, -, he⟩ := h.tiles
  obtain ⟨p, hp, -, rfl⟩ := (he key entry).mp hg
  have hi := ht.mem_inside _ hp
  have hw := world.storage.superblock.nextFreeSector.toNat_lt
  have hs : (p.2.entryAt p.1).sector.toNat = p.1 % 2 ^ 32 := UInt32.toNat_ofNat'
  have hc : (p.2.entryAt p.1).numSectors.toNat = p.2.sectors := rfl
  omega

lemma not_mapSemantics_of_closed (ha : Accepted key value)
    (hc : Spacious (World.new start) (.Write key value)) :
    ¬ MapSemantics history (perform (World.new start) (.Write key value)) := by
  intro hs
  let record := ha.record
  have hb : (World.new start).blk = some start := rfl
  obtain ⟨hf, hr⟩ := ha.room hb hc
  have hg : (World.new start).storage.index[key]? = none := getElem?_empty
  have hw : write key value (World.new start) =
      .ok () ((World.new start).afterAppend start record.header key value) := by
    rw [write_of_get_none ha.1 ha.2 hg, insertEntry_of_room hb (by rwa [ha.ofEntry_eq])]
    exact appendEntry_ok ha.ofEntry_eq hb record.length_bytes hf
  rw [perform, World.after_of_ok hw] at hs
  -- The disk is formatted when it is opened again, and the key is no longer in the index.
  let disk := start.after [⟨1, entryBuffer record.header key value⟩]
  let sb := ((World.new start).storage.superblock.addEntry
    record.header.sectorsNeeded).updateChecksum
  have hd : ((World.new start).afterAppend start record.header key value).blk =
      some (disk.after [superblockWrite sb]) :=
    congrArg some (start.after_append [⟨1, entryBuffer record.header key value⟩] _)
  have hn : ¬ (fromBytes (Memory.read
      (disk.after [superblockWrite sb]).contents 0 SECTOR_SIZE)).isValid := by
    rw [disk.fromBytes_after_superblockWrite]
    intro hv
    have hm : (0 : UInt32) = SUPERBLOCK_MAGIC := (eq_of_isValid hv).1
    exact absurd hm (by decide)
  have hp := ha.record.sectors_pos
  obtain ⟨_, _, hi, he, -⟩ := hs.reopens BlockStorage.new
  rw [hd] at hi
  rw [init_of_not_valid rfl (by show 0 < start.capacity.toNat; omega) hn] at hi
  cases hi
  have hl : ((World.new start).afterAppend start record.header key value).storage.index[key]? =
      none := by
    rw [← he]
    exact getElem?_empty
  have hk : ((World.new start).afterAppend start record.header key value).storage.index[key]? =
      some _ := getElem?_insert_self
  rw [hl] at hk
  cases hk

lemma prepared_of_mapSemantics (hs : Sound (World.new start) history world)
    (hc : Spacious world op) (hn : MapSemantics later (perform world op)) : Prepared world op := by
  cases op with
  | Write =>
    intro ha
    rcases hs with ⟨rfl, -⟩ | ⟨_, _, h, hi, -, -⟩
    · exact absurd hn (not_mapSemantics_of_closed ha hc)
    · refine ⟨hi, ?_⟩
      obtain ⟨next, _, hw, hg, he, hcn⟩ := write_indexed h rfl (ha.room h.blk hc)
      rw [perform, World.after_of_ok hw] at hn
      rw [ha.ofEntry_eq, ← he, ← hcn]
      exact lt_of_mapSemantics hn hg
  | _ => trivial

-- The store keeps to the map in every state of a run exactly if each write is made on an open
-- store whose sector counter does not overflow.
theorem mapSemantics_iff {start : Device} {ops : List Op} (hroom : 0 < start.capacity.toNat)
    (hblank : ¬ (Superblock.fromBytes (Memory.read start.contents 0 SECTOR_SIZE)).isValid)
    (hspace : Run.Along perform Spacious (World.new start) ops) :
    (∀ before after, ops = before ++ after →
      MapSemantics before (Run.run perform (World.new start) before)) ↔
      Run.Along perform Prepared (World.new start) ops := by
  constructor
  · induction ops using reverseRecOn with
    | nil =>
      intro _
      trivial
    | append_singleton ops op ih =>
      intro hall
      rw [along_append] at hspace ⊢
      have hr := ih hspace.1 (fun before after he =>
        hall before (after ++ [op]) (by rw [he, append_assoc]))
      have hs := sound_of_prepared ⟨hroom, hblank⟩ hspace.1 hr
      have hn := hall (ops ++ [op]) [] (append_nil _).symm
      rw [run_append] at hn
      exact ⟨hr, prepared_of_mapSemantics hs hspace.2.1 hn, trivial⟩
  · rintro hr before after rfl
    rw [along_append] at hspace hr
    have hb : Blank start := ⟨hroom, hblank⟩
    exact mapSemantics_of_sound hb (sound_of_prepared hb hspace.1 hr.1)

-- A write to a store that has been opened.

lemma after_init_blank : (World.new (.blank 8)).after init =
    { storage := { index := ∅, superblock := new, initialized := true },
      blk := some ((Device.blank 8).after [superblockWrite new]) } :=
  World.after_of_ok (init_of_not_valid rfl (by decide) (by decide +kernel))

theorem mapSemantics_iff_blank : MapSemantics [.Init, .Write "k" [1]]
    (Run.run perform (World.new (.blank 8)) [.Init, .Write "k" [1]]) := by
  have hc : Run.Along perform Spacious (World.new (.blank 8)) [.Init, .Write "k" [1]] := by
    refine ⟨trivial, fun _ => ?_, trivial⟩
    rw [perform, after_init_blank]
    exact ⟨_, rfl, by decide +kernel, by decide +kernel⟩
  have hr : Run.Along perform Prepared (World.new (.blank 8)) [.Init, .Write "k" [1]] := by
    refine ⟨trivial, fun _ => ?_, trivial⟩
    rw [perform, after_init_blank]
    exact ⟨rfl, by decide +kernel⟩
  have hall := (mapSemantics_iff (by decide) (by decide +kernel) hc).mpr hr
  exact hall _ [] (append_nil _).symm

-- The same write before the store has been opened. It is answered well, and opening the store
-- formats the disk.
theorem unopened_write_lost :
    ¬ (Superblock.fromBytes (Memory.read (Device.blank 8).contents 0 SECTOR_SIZE)).isValid ∧
      Run.Along perform Spacious (World.new (.blank 8)) [.Write "k" [1], .Init] ∧
      lastWrite "k" [.Write "k" [1], .Init] = some [1] ∧
      outcome (write "k" [1]) (World.new (.blank 8)) = .ok () ∧
      outcome (read "k") (Run.run perform (World.new (.blank 8)) [.Write "k" [1], .Init]) =
        .ok none := by
  refine ⟨by decide +kernel, ⟨fun _ => ?_, trivial, trivial⟩, by decide +kernel,
    by decide +kernel, by decide +kernel⟩
  exact ⟨_, rfl, by decide +kernel, by decide +kernel⟩

end ZeroOS.Storage
