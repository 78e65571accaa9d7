import ZeroOS.Lib.Layout
import ZeroOS.Storage.BlockStorage

/-!
The disk as a log.
-/

namespace ZeroOS.Storage

open List Layout EntryHeader

-- An entry that `write` can have written, and whether it is still valid.
structure Record where
  key : String
  value : List UInt8
  live : Bool
  key_length : (utf8Bytes key).length ≤ MAX_KEY_LEN
  value_length : value.length ≤ MAX_VALUE_LEN

namespace Record

def header (record : Record) : EntryHeader :=
  { magic := ENTRY_MAGIC, flags := if record.live then FLAG_VALID else FLAG_DELETED,
    keyLen := UInt32.ofNat (utf8Bytes record.key).length,
    valueLen := UInt32.ofNat record.value.length }

def sectors (record : Record) : Nat := record.header.sectorsNeeded.toNat

def bytes (record : Record) : List UInt8 := entryBuffer record.header record.key record.value

def dead (record : Record) : Record := { record with live := false }

def entryAt (record : Record) (sector : Nat) : IndexEntry :=
  { sector := UInt32.ofNat sector, numSectors := record.header.sectorsNeeded,
    valueLen := record.header.valueLen }

section

variable (record : Record)

@[simp] lemma toNat_keyLen : record.header.keyLen.toNat = (utf8Bytes record.key).length := by
  have hl := record.key_length
  simp only [MAX_KEY_LEN] at hl
  simp only [header, UInt32.toNat_ofNat']
  omega

@[simp] lemma toNat_valueLen : record.header.valueLen.toNat = record.value.length := by
  have hl := record.value_length
  simp only [MAX_VALUE_LEN] at hl
  simp only [header, UInt32.toNat_ofNat']
  omega

lemma isValid_header : record.header.isValid = record.live := by
  cases hlive : record.live <;> simp [isValid, header, hlive, FLAG_VALID, FLAG_DELETED]

lemma ofEntry_eq (hlive : record.live) : ofEntry record.key record.value = record.header := by
  simp [ofEntry, new, header, hlive]

lemma sectors_pos : 0 < record.sectors := record.header.sectorsNeeded_pos

@[simp] lemma sectors_dead : record.dead.sectors = record.sectors := rfl

lemma totalSize_header : record.header.totalSize =
    ENTRY_HEADER_SIZE + (utf8Bytes record.key).length + record.value.length := by
  simp [totalSize]

end

def body (record : Record) : List UInt8 :=
  utf8Bytes record.key ++ record.value ++
    List.replicate (record.sectors * SECTOR_SIZE - record.header.totalSize) 0

section

variable (record : Record)

lemma bytes_eq : record.bytes = record.header.toBytes ++ record.body := by
  simp [bytes, entryBuffer, body, totalSize_header, sectors]

lemma length_bytes : record.bytes.length = record.sectors * SECTOR_SIZE := by
  have hl := record.header.totalSize_le
  have ht := record.totalSize_header
  simp only [bytes_eq, body, length_append, length_replicate, length_toBytes]
  unfold sectors
  omega

lemma fromBytes_append (rest : List UInt8) :
    EntryHeader.fromBytes (record.bytes ++ rest) = record.header := by
  rw [bytes_eq, append_assoc]
  exact EntryHeader.fromBytes_append ..

lemma fromBytes_bytes : fromBytes record.bytes = record.header := by
  simpa using record.fromBytes_append []

lemma take_bytes :
    record.bytes.take SECTOR_SIZE =
      record.header.toBytes ++ record.body.take (SECTOR_SIZE - ENTRY_HEADER_SIZE) := by
  rw [bytes_eq, take_append, record.header.length_toBytes, take_of_length_le]
  rw [record.header.length_toBytes]
  decide

lemma slice_key :
    slice (record.bytes.take SECTOR_SIZE) ENTRY_HEADER_SIZE
      (ENTRY_HEADER_SIZE + record.header.keyLen.toNat) = utf8Bytes record.key := by
  have hk := record.key_length
  have hl : ENTRY_HEADER_SIZE + (utf8Bytes record.key).length ≤ SECTOR_SIZE := by
    simp only [MAX_KEY_LEN] at hk
    simp only [ENTRY_HEADER_SIZE, SECTOR_SIZE]
    omega
  have hs := slice_append record.header.toBytes (utf8Bytes record.key)
    (record.value ++ replicate (record.sectors * SECTOR_SIZE - record.header.totalSize) 0)
  rw [record.header.length_toBytes] at hs
  rw [toNat_keyLen]
  unfold slice at hs ⊢
  rw [take_take, Nat.min_eq_left hl, bytes_eq, body, ← append_assoc]
  simpa using hs

lemma entryValue_bytes :
    entryValue record.bytes = .ok (if record.live then some record.value else none) := by
  have hs := slice_append (record.header.toBytes ++ utf8Bytes record.key) record.value
    (replicate (record.sectors * SECTOR_SIZE - record.header.totalSize) 0)
  have hl : ENTRY_HEADER_SIZE + (utf8Bytes record.key).length + record.value.length ≤
      record.bytes.length := by
    rw [length_bytes, ← totalSize_header]
    exact record.header.totalSize_le
  have hb : record.bytes = record.header.toBytes ++ utf8Bytes record.key ++ record.value ++
      replicate (record.sectors * SECTOR_SIZE - record.header.totalSize) 0 := by
    simp [bytes_eq, body]
  simp only [entryValue, fromBytes_bytes, isValid_header, toNat_keyLen, toNat_valueLen]
  cases record.live with
  | false => rfl
  | true =>
    rw [if_pos rfl, if_pos hl, if_pos rfl, hb]
    rw [length_append, record.header.length_toBytes] at hs
    rw [hs]

lemma bytes_dead :
    record.dead.bytes =
      markDeleted (record.bytes.take SECTOR_SIZE) ++ record.bytes.drop SECTOR_SIZE := by
  have hd : record.bytes.drop SECTOR_SIZE = record.body.drop (SECTOR_SIZE - ENTRY_HEADER_SIZE) := by
    rw [bytes_eq, drop_append, record.header.length_toBytes, drop_eq_nil_of_le]
    · rfl
    · rw [record.header.length_toBytes]
      decide
  have hh : record.dead.header = { record.header with flags := FLAG_DELETED } := rfl
  have hb : record.dead.body = record.body := rfl
  rw [take_bytes, markDeleted_append, hd, append_assoc, take_append_drop, bytes_eq, hh, hb]

end

def isFor (record : Record) (key : String) : Bool := record.live && record.key == key

lemma isFor_iff {record : Record} {key : String} :
    record.isFor key ↔ record.live ∧ record.key = key := by
  simp [isFor]

def buried (key : String) (record : Record) : Record :=
  if record.key = key then record.dead else record

section buried

variable (key : String) (record : Record)

@[simp] lemma key_buried : (record.buried key).key = record.key := by
  unfold buried
  split <;> rfl

@[simp] lemma value_buried : (record.buried key).value = record.value := by
  unfold buried
  split <;> rfl

@[simp] lemma sectors_buried : (record.buried key).sectors = record.sectors := by
  unfold buried
  split <;> rfl

@[simp] lemma entryAt_buried : (record.buried key).entryAt sector = record.entryAt sector := by
  unfold buried
  split <;> rfl

lemma live_buried : (record.buried key).live ↔ record.live ∧ record.key ≠ key := by
  unfold buried
  split
  · rename_i hk
    simp [dead, hk]
  · rename_i hk
    simp [hk]

lemma isFor_buried : (record.buried key).isFor other = (key != other && record.isFor other) := by
  rw [Bool.eq_iff_iff]
  simp only [isFor_iff, live_buried, key_buried, Bool.and_eq_true, bne_iff_ne]
  constructor
  · rintro ⟨⟨hlive, hk⟩, rfl⟩
    exact ⟨Ne.symm hk, hlive, rfl⟩
  · rintro ⟨hn, hlive, rfl⟩
    exact ⟨⟨hlive, Ne.symm hn⟩, rfl⟩

lemma buried_of_not_live {key : String} {record : Record}
    (h : record.live → record.key ≠ key) : record.buried key = record := by
  unfold buried
  split
  · rename_i hk
    have hlive : record.live = false := by
      cases hlive : record.live with
      | false => rfl
      | true => exact absurd hk (h hlive)
    simp [dead, ← hlive]
  · rfl

end buried

end Record

namespace Log

def image (log : List Record) : List UInt8 := log.flatMap Record.bytes

def lookup (log : List Record) (key : String) : Option (List UInt8) :=
  (log.find? (fun record => record.isFor key)).map Record.value

def bury (key : String) (log : List Record) : List Record := log.map (Record.buried key)

def Distinct (log : List Record) : Prop :=
  log.Pairwise fun first second => first.live → second.live → first.key ≠ second.key

-- What a scan adds to an index, record by record.

def enter (index : BTreeMap String IndexEntry) (placed : Nat × Record) :
    BTreeMap String IndexEntry :=
  if placed.2.live then index.insert placed.2.key (placed.2.entryAt placed.1) else index

def scan (placed : List (Nat × Record)) (index : BTreeMap String IndexEntry) :
    BTreeMap String IndexEntry := placed.foldl enter index

def indexOf (log : List Record) : BTreeMap String IndexEntry :=
  scan (Layout.place Record.sectors 1 log) ∅

variable (log : List Record) (index : BTreeMap String IndexEntry) (key : String)

lemma length_image : (image log).length = total Record.sectors log * SECTOR_SIZE := by
  induction log with
  | nil => rfl
  | cons record _ ih =>
    simp only [image, flatMap_cons, length_append] at ih ⊢
    rw [ih, record.length_bytes, total_cons, Nat.add_mul]

lemma image_append : image (first ++ second) = image first ++ image second := flatMap_append

lemma get_enter_of_isFor {placed : Nat × Record} {key : String} (hf : placed.2.isFor key) :
    (enter index placed)[key]? = some (placed.2.entryAt placed.1) := by
  obtain ⟨hlive, rfl⟩ := Record.isFor_iff.mp hf
  rw [enter, if_pos hlive]
  simp

lemma get_enter_of_not_isFor {placed : Nat × Record} {key : String} (hf : ¬ placed.2.isFor key) :
    (enter index placed)[key]? = index[key]? := by
  unfold enter
  split
  · rename_i hlive
    apply BTreeMap.get_insert_ne
    intro hk
    exact hf (Record.isFor_iff.mpr ⟨hlive, hk⟩)
  · rfl

-- The first live record of a key is the only one, so the scan finds it although it keeps the
-- last.
lemma get_scan {placed : List (Nat × Record)} (hdist : Distinct (placed.map Prod.snd))
    (index : BTreeMap String IndexEntry) (key : String) :
    (scan placed index)[key]? =
      ((placed.find? (fun p => p.2.isFor key)).map (fun p => p.2.entryAt p.1)).or index[key]? := by
  induction placed generalizing index with
  | nil => simp [scan]
  | cons p rest ih =>
    obtain ⟨hs, hr⟩ := pairwise_cons.mp hdist
    show (scan rest (enter index p))[key]? = _
    rw [ih hr]
    by_cases hf : p.2.isFor key
    · obtain ⟨hlive, hk⟩ := Record.isFor_iff.mp hf
      have hn : rest.find? (fun p => p.2.isFor key) = none := by
        rw [find?_eq_none]
        intro q hq hqf
        obtain ⟨hl, hqk⟩ := Record.isFor_iff.mp hqf
        exact hs q.2 (mem_map_of_mem hq) hlive hl (hk.trans hqk.symm)
      rw [hn, get_enter_of_isFor index hf]
      simp [hf]
    · rw [get_enter_of_not_isFor index hf]
      simp [hf]

lemma get_indexOf {log : List Record} (hdist : Distinct log) (key : String) :
    (indexOf log)[key]? =
      ((place Record.sectors 1 log).find? (fun p => p.2.isFor key)).map
        (fun p => p.2.entryAt p.1) := by
  unfold indexOf
  rw [get_scan (by rwa [map_snd_place])]
  simp

lemma indexOf_append (hlive : record.live) :
    indexOf (log ++ [record]) = (indexOf log).insert record.key
      (record.entryAt (1 + total Record.sectors log)) := by
  simp [indexOf, place_append, scan, foldl_append, place, enter, hlive]

lemma exists_split_of_get {log : List Record} (hdist : Distinct log) {key : String}
    {entry : IndexEntry} (hg : (indexOf log)[key]? = some entry) :
    ∃ before record behind, log = before ++ record :: behind ∧ record.live ∧ record.key = key ∧
      entry = record.entryAt (1 + total Record.sectors before) := by
  rw [get_indexOf hdist, Option.map_eq_some_iff] at hg
  obtain ⟨⟨here, record⟩, hf, rfl⟩ := hg
  have ho : record.isFor key := by simpa using find?_some hf
  obtain ⟨hlive, hk⟩ := Record.isFor_iff.mp ho
  obtain ⟨before, behind, hl, rfl⟩ :=
    exists_split_of_mem_place Record.sectors (mem_of_find?_eq_some hf)
  exact ⟨before, record, behind, hl, hlive, hk, rfl⟩

section

variable {before behind : List Record} {record : Record}
  (hdist : Distinct (before ++ record :: behind)) (hlive : record.live)

include hdist hlive

-- Of a key with a live record that record is what a look-up finds, and the index shows it.

lemma not_isFor_before : ∀ other ∈ before, ¬ other.isFor record.key := by
  intro other ho hf
  obtain ⟨hl, hk⟩ := Record.isFor_iff.mp hf
  exact (pairwise_append.mp hdist).2.2 other ho record (by simp) hl hlive hk

lemma lookup_of_split : lookup (before ++ record :: behind) record.key = some record.value := by
  have hb : before.find? (fun other => other.isFor record.key) = none :=
    find?_eq_none.mpr (not_isFor_before hdist hlive)
  have hf : record.isFor record.key := Record.isFor_iff.mpr ⟨hlive, rfl⟩
  simp [lookup, find?_append, hb, hf]

lemma get_indexOf_of_split :
    (indexOf (before ++ record :: behind))[record.key]? =
      some (record.entryAt (1 + total Record.sectors before)) := by
  have hb : (place Record.sectors 1 before).find? (fun p => p.2.isFor record.key) = none := by
    rw [find?_eq_none]
    intro p hp
    have hm : p.2 ∈ before := by
      rw [← map_snd_place Record.sectors 1 before]
      exact mem_map_of_mem hp
    exact not_isFor_before hdist hlive p.2 hm
  have hf : record.isFor record.key := Record.isFor_iff.mpr ⟨hlive, rfl⟩
  rw [get_indexOf hdist, place_append, find?_append, hb]
  simp [place, hf]

end

lemma size_scan_le (placed : List (Nat × Record)) (index : BTreeMap String IndexEntry) :
    (scan placed index).size ≤ index.size + placed.length := by
  induction placed generalizing index with
  | nil => exact Nat.le_refl _
  | cons p rest ih =>
    have ho : (enter index p).size ≤ index.size + 1 := by
      unfold enter
      split
      · exact Std.ExtTreeMap.size_insert_le
      · exact Nat.le_succ _
    have hr := ih (enter index p)
    have hs : scan (p :: rest) index = scan rest (enter index p) := rfl
    rw [hs, length_cons]
    omega

lemma size_indexOf_le : (indexOf log).size ≤ total Record.sectors log := by
  have hs := size_scan_le (place Record.sectors 1 log) ∅
  have hl := length_le_total Record.sectors Record.sectors_pos log
  rw [length_place, Std.ExtTreeMap.size_empty] at hs
  unfold indexOf
  omega

lemma lookup_eq_none_iff {log : List Record} {key : String} :
    lookup log key = none ↔ ∀ record ∈ log, record.live → record.key ≠ key := by
  simp [lookup, find?_eq_none, Record.isFor]

lemma get_indexOf_eq_none_iff {log : List Record} (hdist : Distinct log) {key : String} :
    (indexOf log)[key]? = none ↔ lookup log key = none := by
  rw [get_indexOf hdist, Option.map_eq_none_iff, lookup_eq_none_iff]
  have hm : ∀ record : Record, record ∈ log ↔ ∃ p ∈ place Record.sectors 1 log, p.2 = record := by
    intro record
    conv_lhs => rw [← map_snd_place Record.sectors 1 log]
    exact mem_map
  simp only [find?_eq_none, Record.isFor_iff, hm]
  constructor
  · rintro h record ⟨p, hp, rfl⟩ hlive hk
    exact h p hp ⟨hlive, hk⟩
  · rintro h p hp ⟨hlive, hk⟩
    exact h p.2 ⟨p, hp, rfl⟩ hlive hk

-- Deletion, in the log and in what is read from it.

lemma bury_of_lookup_eq_none {log : List Record} {key : String} (h : lookup log key = none) :
    bury key log = log := by
  have hs : ∀ record ∈ log, record.buried key = record := by
    intro record hr
    exact Record.buried_of_not_live (lookup_eq_none_iff.mp h record hr)
  unfold bury
  rw [map_congr_left hs, map_id']

lemma bury_of_split {before behind : List Record} {record : Record}
    (hdist : Distinct (before ++ record :: behind)) (hlive : record.live) :
    bury record.key (before ++ record :: behind) = before ++ record.dead :: behind := by
  obtain ⟨-, hr, hc⟩ := pairwise_append.mp hdist
  have he : lookup before record.key = none := by
    rw [lookup_eq_none_iff]
    intro other ho hl
    exact hc _ ho _ (by simp) hl hlive
  have hh : lookup behind record.key = none := by
    rw [lookup_eq_none_iff]
    intro other ho hl
    exact ((pairwise_cons.mp hr).1 other ho hlive hl).symm
  have hd : record.buried record.key = record.dead := if_pos rfl
  have hb := bury_of_lookup_eq_none he
  have ha := bury_of_lookup_eq_none hh
  unfold bury at hb ha ⊢
  rw [map_append, map_cons, hb, ha, hd]

lemma lookup_bury (other : String) :
    lookup (bury key log) other = if key = other then none else lookup log other := by
  unfold lookup bury
  rw [find?_map, Option.map_map]
  by_cases hk : key = other
  · rw [if_pos hk]
    simp [find?_eq_none, Record.isFor_buried, hk]
  · have hf : (fun record : Record => record.isFor other) ∘ Record.buried key =
        fun record => record.isFor other := by
      funext record
      simp [Record.isFor_buried, hk]
    have hv : Record.value ∘ Record.buried key = Record.value := by
      funext record
      exact record.value_buried key
    rw [if_neg hk, hf, hv]

lemma distinct_bury {log : List Record} (hdist : Distinct log) (key : String) :
    Distinct (bury key log) := by
  unfold Distinct bury
  rw [pairwise_map]
  refine hdist.imp ?_
  intro first second h hf hs
  rw [Record.key_buried, Record.key_buried]
  exact h ((Record.live_buried ..).mp hf).1 ((Record.live_buried ..).mp hs).1

lemma indexOf_bury {log : List Record} (hdist : Distinct log) (key : String) :
    indexOf (bury key log) = (indexOf log).erase key := by
  apply BTreeMap.ext_get
  intro other
  rw [BTreeMap.get_erase, get_indexOf (distinct_bury hdist key), get_indexOf hdist, bury,
    place_map Record.sectors (Record.sectors_buried key), find?_map, Option.map_map]
  by_cases hk : key = other
  · rw [if_pos hk]
    simp [find?_eq_none, Record.isFor_buried, hk]
  · have hf : (fun p : Nat × Record => p.2.isFor other) ∘
        (fun p : Nat × Record => (p.1, p.2.buried key)) = fun p => p.2.isFor other := by
      funext p
      simp [Record.isFor_buried, hk]
    rw [if_neg hk, hf]
    congr 1
    funext p
    exact p.2.entryAt_buried ..

-- A new record.

lemma lookup_append {record : Record} (hlive : record.live)
    (ha : lookup log record.key = none) (key : String) :
    lookup (log ++ [record]) key = if record.key = key then some record.value
      else lookup log key := by
  by_cases hk : record.key = key
  · rw [if_pos hk, ← hk]
    have hi : log.find? (fun other => other.isFor record.key) = none := by
      simpa [lookup] using ha
    have hf : record.isFor record.key := Record.isFor_iff.mpr ⟨hlive, rfl⟩
    simp [lookup, find?_append, hi, hf]
  · have hf : record.isFor key = false := by simp [Record.isFor, hk]
    simp [lookup, find?_append, hk, hf]

lemma distinct_append {log : List Record} (hdist : Distinct log) {record : Record}
    (ha : lookup log record.key = none) : Distinct (log ++ [record]) := by
  refine pairwise_append.mpr ⟨hdist, pairwise_singleton .., ?_⟩
  intro other ho last hl hol _
  rw [mem_singleton.mp hl]
  exact lookup_eq_none_iff.mp ha other ho hol

end Log

end ZeroOS.Storage
