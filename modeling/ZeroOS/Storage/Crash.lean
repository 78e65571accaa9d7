import ZeroOS.Storage.Disk

/-!
A power cut in the middle of a write.
-/

namespace ZeroOS.Storage

open World Log BlockStorage

variable {α : Type}

namespace World

def issues (world : World) (op : StorageM α) : List SectorWrite :=
  match world.blk, (world.after op).blk with
  | some device, some next => next.journal.drop device.journal.length
  | _, _ => []

def crashed (world : World) (kept : List SectorWrite) (fresh : BlockStorage) : World :=
  { storage := fresh, blk := world.blk.map (·.after kept) }

def WellFormed (world : World) : Prop := ∃ device log, world.Represents device log

-- A new entry fits behind the last one, so that no compaction is needed.
def RoomFor (world : World) (key : String) (value : List UInt8) : Prop :=
  ∀ device, world.blk = some device →
    world.storage.superblock.nextFreeSector.toNat +
      (EntryHeader.ofEntry key value).sectorsNeeded.toNat ≤ device.maxSectors.toNat

lemma issues_of_ok {op : StorageM α} (hb : world.blk = some device)
    (ho : op world = .ok result next) (hn : next.blk = some (device.after writes)) :
    world.issues op = writes := by
  have ha := after_of_ok ho
  simp only [issues, hb, ha, hn, Device.after, List.drop_left]

lemma issues_of_error {op : StorageM α} (ho : op world = .error e world) :
    world.issues op = [] := by
  have ha : world.after op = world := by rw [after, ho]
  unfold issues
  rw [ha]
  cases world.blk with
  | none => rfl
  | some => exact List.drop_length

end World

namespace World.Represents

variable {world : World} {device : Device} {log : List Record}

lemma outcome_read (h : world.Represents device log) :
    outcome (Storage.read key) world = .ok (lookup log key) := by
  rw [outcome, h.read key]

lemma restart (h : world.Represents device log) (hh : (device.after kept).Holds sb found)
    (fresh : BlockStorage) :
    ∃ recovered, init (world.crashed kept fresh) = .ok false recovered ∧
      ∀ key, outcome (Storage.read key) recovered = .ok (lookup found key) := by
  have hb : (world.crashed kept fresh).blk = some (device.after kept) := by
    rw [crashed, h.blk]
    rfl
  refine ⟨_, init_of_holds hb hh, ?_⟩
  intro key
  exact outcome_read ⟨rfl, hh, rfl⟩

lemma room (h : world.Represents device log) (record : Record) (hl : record.live)
    (hr : world.RoomFor record.key record.value) :
    world.storage.superblock.nextFreeSector.toNat + record.sectors < 2 ^ 32 ∧
      world.HasRoom device record := by
  have he := hr device h.blk
  rw [record.ofEntry_eq hl] at he
  have hm := device.toNat_maxSectors_le
  have hw := device.maxSectors.toNat_lt
  have hs : record.header.sectorsNeeded.toNat = record.sectors := rfl
  rw [World.HasRoom, gt_iff_lt, UInt32.lt_iff_toNat_lt, UInt32.toNat_add]
  omega

end World.Represents

-- A small disk with one key on it.

def oneKey : World := ((World.new (.blank 8)).after init).after (write "k" [1])

lemma oneKey_represents : ∃ device record, oneKey.Represents device [record] ∧ record.live ∧
    record.key = "k" ∧ record.value = [1] := by
  let record : Record := ⟨"k", [1], true, by decide +kernel, by decide⟩
  have hi : init (new (.blank 8)) = _ := init_of_not_valid rfl (by decide) (by decide +kernel)
  have he := represents_new (.blank 8) (by decide)
  obtain ⟨_, next, hw, hn, -⟩ := he.write record rfl
    ⟨by decide +kernel, by decide +kernel⟩ (by decide +kernel)
  have ha : oneKey = next := by
    rw [oneKey, after_of_ok hi, after_of_ok hw]
  rw [ha]
  exact ⟨_, record, hn, rfl, rfl, rfl⟩

lemma oneKey_roomFor : oneKey.RoomFor "k" [2] := by
  have hm : oneKey.blk.map Device.maxSectors = some 8 := by decide +kernel
  have hl : oneKey.storage.superblock.nextFreeSector.toNat +
      (EntryHeader.ofEntry "k" [2]).sectorsNeeded.toNat ≤ 8 := by decide +kernel
  intro device hb
  rw [hb] at hm
  rw [Option.some.inj hm]
  exact hl

-- Of the writes that replace the value 1 by 2 the first one marks the old entry. What is left when
-- the power goes after it reads as if there were no such key.
lemma oneKey_marked : ∃ mark rest recovered, oneKey.issues (write "k" [2]) = mark :: rest ∧
    rest ≠ [] ∧ init (oneKey.crashed [mark] BlockStorage.new) = .ok false recovered ∧
    outcome (read "k") oneKey = .ok (some [1]) ∧ outcome (read "k") recovered = .ok none := by
  obtain ⟨device, record, h, hi, hk, hv⟩ := oneKey_represents
  have hd : Log.Distinct ([] ++ record :: []) := h.holds.distinct
  have hl := lookup_of_split hd hi
  rw [hk, hv, List.nil_append] at hl
  let update : Record := ⟨"k", [2], true, by decide +kernel, by decide⟩
  have hp : lookup [record] update.key ≠ none := by simp [update, hl]
  obtain ⟨-, hf⟩ := h.room update rfl oneKey_roomFor
  obtain ⟨mark, hm, hw⟩ := h.write_of_present rfl hp hf
  obtain ⟨recovered, hn, hr⟩ := h.restart hm new
  have hs := issues_of_ok h.blk hw (congrArg some (Device.after_append ..).symm)
  refine ⟨mark, _, recovered, hs, List.cons_ne_nil _ _, hn, ?_, ?_⟩
  · rw [h.outcome_read, hl]
  · rw [hr, lookup_bury, if_pos rfl]

-- A power cut during a write of a well-formed store that needs no compaction. Every other key
-- reads as before. The key itself reads as before if nothing has reached the disk and as the new
-- value if everything has; in between it is missing, because the old entry goes first.
theorem read_after_crash {world : World} (hwell : world.WellFormed) {key : String}
    {value : List UInt8} (hroom : world.RoomFor key value) {kept : List SectorWrite}
    (hkept : kept <+: world.issues (write key value)) (fresh : BlockStorage) :
    ∃ recovered, init (world.crashed kept fresh) = .ok false recovered ∧
      outcome (read key) recovered =
        (if kept = [] then outcome (read key) world
        else if kept = world.issues (write key value) then .ok (some value)
        else .ok none) ∧
      ∀ other, other ≠ key → outcome (read other) recovered = outcome (read other) world := by
  obtain ⟨device, log, h⟩ := hwell
  have hold : (device.after []).Holds world.storage.superblock log := by
    rw [Device.after_nil]
    exact h.holds
  by_cases hn : kept = []
  · subst hn
    obtain ⟨recovered, hi, hr⟩ := h.restart hold fresh
    refine ⟨recovered, hi, ?_, fun other _ => ?_⟩
    · rw [if_pos rfl, hr, h.outcome_read]
    · rw [hr, h.outcome_read]
  by_cases hl : (utf8Bytes key).length > MAX_KEY_LEN ∨ value.length > MAX_VALUE_LEN
  · -- A refused write issues nothing.
    rw [issues_of_error (write_of_too_long hl)] at hkept
    exact absurd (List.prefix_nil.mp hkept) hn
  · let record : Record := ⟨key, value, true, by omega, by omega⟩
    obtain ⟨hw, hf⟩ := h.room record rfl hroom
    obtain ⟨writes, next, hwr, he, -, -, hb⟩ := h.write record rfl hf hw
    have hs : world.issues (write key value) = writes := issues_of_ok h.blk hwr he.blk
    rw [hs] at hkept ⊢
    rw [if_neg hn]
    by_cases hall : kept = writes
    · subst hall
      have ha : lookup (bury key log) record.key = none := by
        rw [lookup_bury, if_pos rfl]
      obtain ⟨recovered, hi, hr⟩ := h.restart he.holds fresh
      refine ⟨recovered, hi, ?_, fun other ho => ?_⟩
      · rw [if_pos rfl, hr, lookup_append _ rfl ha, if_pos rfl]
      · rw [hr, h.outcome_read, lookup_append _ rfl ha, if_neg (Ne.symm ho),
          lookup_bury, if_neg (Ne.symm ho)]
    · obtain ⟨_, hh⟩ := hb kept hkept hn hall
      obtain ⟨recovered, hi, hr⟩ := h.restart hh fresh
      refine ⟨recovered, hi, ?_, fun other ho => ?_⟩
      · rw [if_neg hall, hr, lookup_bury, if_pos rfl]
      · rw [hr, h.outcome_read, lookup_bury, if_neg (Ne.symm ho)]

theorem read_after_crash_oneKey :
    ∃ kept recovered, kept <+: oneKey.issues (write "k" [2]) ∧
      init (oneKey.crashed kept BlockStorage.new) = .ok false recovered ∧
      outcome (read "k") recovered = .ok none ∧
      ∀ other, other ≠ "k" → outcome (read other) recovered = outcome (read other) oneKey := by
  obtain ⟨device, record, h, -⟩ := oneKey_represents
  obtain ⟨mark, rest, -, hs, hn, -⟩ := oneKey_marked
  have hp : [mark] <+: oneKey.issues (write "k" [2]) := by
    rw [hs]
    exact List.prefix_append [mark] rest
  have ha : [mark] ≠ oneKey.issues (write "k" [2]) := by
    rw [hs]
    exact fun he => hn (List.cons.inj he).2.symm
  obtain ⟨recovered, hi, hr, ho⟩ :=
    read_after_crash ⟨device, [record], h⟩ oneKey_roomFor hp new
  rw [if_neg (List.cons_ne_nil _ _), if_neg ha] at hr
  exact ⟨[mark], recovered, hp, hi, hr, ho⟩

-- The power goes after the first of the four sector writes that replace the value 1 by 2.
theorem oneKey_lost :
    oneKey.WellFormed ∧ oneKey.RoomFor "k" [2] ∧ outcome (read "k") oneKey = .ok (some [1]) ∧
      ∃ kept recovered, kept <+: oneKey.issues (write "k" [2]) ∧
        init (oneKey.crashed kept BlockStorage.new) = .ok false recovered ∧
        outcome (read "k") recovered = .ok none := by
  obtain ⟨device, record, h, -⟩ := oneKey_represents
  obtain ⟨mark, rest, recovered, hs, -, hi, ho, hr⟩ := oneKey_marked
  refine ⟨⟨device, [record], h⟩, oneKey_roomFor, ho, [mark], recovered, ?_, hi, hr⟩
  rw [hs]
  exact List.prefix_append [mark] rest

end ZeroOS.Storage
