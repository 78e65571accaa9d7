import Mathlib.Data.List.Pairwise
import ZeroOS.Lib.Pool
import ZeroOS.Lib.Run
import ZeroOS.Lib.Slots
import ZeroOS.Virtio.Queue.Lemmas

/-!
Virtqueues over whole runs.
-/

namespace ZeroOS.Virtqueue

open UInt16

def descriptors (size : UInt16) : List UInt16 := (List.range size.toNat).map UInt16.ofNat

-- The descriptor table of a queue whose outstanding chains hold the given buffers, each chain
-- under its head.
structure Divided (queue : Virtqueue) (outstanding : List (UInt16 × List Buffer)) : Prop where
  small : queue.size.toNat ≤ 256
  divides : queue.size.toNat ∣ 65536
  table : queue.descTable.length = queue.size.toNat
  stored : ∀ entry ∈ outstanding, (queue.chainFrom entry.1).head? = some entry.1 ∧
    Stored queue.desc (queue.chainFrom entry.1) entry.2
  partition : Pool.Partitions
    ⟨queue.freeList, outstanding.map (fun entry => queue.chainFrom entry.1)⟩
    (descriptors queue.size)

structure Published (queue : Virtqueue) (heads : List UInt16) : Prop where
  ring : queue.availRing.length = queue.size.toNat
  idx : queue.availIdx.toNat = heads.length % 65536
  slots : Slots.Holds queue.availRing (heads.length - queue.size.toNat)
    (heads.drop (heads.length - queue.size.toNat))

structure Returned (queue : Virtqueue) (returned : List (UInt16 × UInt32)) : Prop where
  ring : queue.usedRing.length = queue.size.toNat
  slots : ∃ popped : Nat, queue.lastUsedIdx.toNat = popped % 65536 ∧
    queue.usedIdx.toNat = (popped + returned.length) % 65536 ∧
    Slots.Holds queue.usedRing popped
      (returned.map (fun entry => (⟨entry.1.toUInt32, entry.2⟩ : VirtqUsedElem)))

section Table

variable {queue : Virtqueue} {outstanding : List (UInt16 × List Buffer)}

lemma mem_descriptors {size : UInt16} : idx ∈ descriptors size ↔ idx.toNat < size.toNat := by
  simp only [descriptors, List.mem_map, List.mem_range]
  constructor
  · rintro ⟨i, hi, rfl⟩
    exact Nat.lt_of_le_of_lt (Nat.mod_le _ _) hi
  · intro hd
    exact ⟨idx.toNat, hd, UInt16.ofNat_toNat⟩

lemma nodup_descriptors (size : UInt16) : (descriptors size).Nodup := by
  refine List.Nodup.map_on ?_ List.nodup_range
  intro i hi j hj he
  have hs := size.toNat_lt
  rw [List.mem_range] at hi hj
  have hn := congrArg toNat he
  rw [toNat_ofNat', toNat_ofNat'] at hn
  omega

@[simp] lemma length_descriptors {size : UInt16} : (descriptors size).length = size.toNat := by
  simp [descriptors]

lemma Divided.free_lt (hdiv : Divided queue outstanding) (hi : idx ∈ queue.freeList) :
    idx.toNat < queue.descTable.length := by
  rw [hdiv.table]
  exact mem_descriptors.mp ((hdiv.partition.mem).mpr (Or.inl hi))

lemma Divided.chain_mem (he : entry ∈ outstanding) :
    queue.chainFrom entry.1 ∈ outstanding.map (fun entry => queue.chainFrom entry.1) :=
  List.mem_map_of_mem he

section

variable (hdiv : Divided queue outstanding)

include hdiv

lemma Divided.chain_lt (he : entry ∈ outstanding) (hi : idx ∈ queue.chainFrom entry.1) :
    idx.toNat < queue.descTable.length := by
  rw [hdiv.table]
  exact mem_descriptors.mp (hdiv.partition.block_subset (Divided.chain_mem he) hi)

lemma Divided.head_mem (he : entry ∈ outstanding) : entry.1 ∈ queue.chainFrom entry.1 :=
  List.mem_of_mem_head? (hdiv.stored _ he).1

lemma Divided.nodup_heads : (outstanding.map Prod.fst).Nodup := by
  have hd := hdiv.partition.pairwise_disjoint (nodup_descriptors _)
  rw [List.pairwise_map] at hd
  rw [List.Nodup, List.pairwise_map]
  refine hd.imp_of_mem ?_
  intro first second hf hs hi he
  refine hi (hdiv.head_mem hf) ?_
  rw [he]
  exact hdiv.head_mem hs

lemma Divided.apart (hf : first ∈ outstanding) (hs : second ∈ outstanding)
    (hn : first.1 ≠ second.1) :
    List.Disjoint (queue.chainFrom first.1) (queue.chainFrom second.1) := by
  have hd := hdiv.partition.pairwise_disjoint (nodup_descriptors _)
  rw [List.pairwise_map] at hd
  have hy : Std.Symm (fun a b : UInt16 × List Buffer =>
      List.Disjoint (queue.chainFrom a.1) (queue.chainFrom b.1)) :=
    ⟨fun _ _ h _ hi ho => h ho hi⟩
  exact hd.forall hf hs (fun h => hn (congrArg Prod.fst h))

lemma Divided.keep {after : Virtqueue} (hs : after.size = queue.size) (he : entry ∈ outstanding)
    (ha : ∀ idx ∈ queue.chainFrom entry.1, after.desc idx = queue.desc idx) :
    after.chainFrom entry.1 = queue.chainFrom entry.1 ∧
      Stored after.desc (queue.chainFrom entry.1) entry.2 := by
  obtain ⟨hh, ht⟩ := hdiv.stored entry he
  have hs' := ht.congr ha
  have hl := hdiv.partition.length_block_le (Divided.chain_mem he)
  rw [length_descriptors] at hl
  refine ⟨hs'.chainFrom hh ?_, hs'⟩
  rw [hs]
  omega

lemma Divided.link (hso : buffers ≠ []) (hro : buffers.length ≤ queue.numFree.toNat) :
    SameRings queue (queue.linkBuffers none buffers) ∧
      Divided (queue.linkBuffers none buffers) ((queue.freeHead, buffers) :: outstanding) ∧
      ∀ entry ∈ outstanding, ∀ idx ∈ queue.chainFrom entry.1,
        (queue.linkBuffers none buffers).desc idx = queue.desc idx := by
  have hcn : queue.numFree.toNat = queue.freeList.length := numFree_of_freeList rfl
  have hsp : queue.freeList =
      queue.freeList.take buffers.length ++ queue.freeList.drop buffers.length :=
    (List.take_append_drop _ _).symm
  have hch : (queue.freeList.take buffers.length).length = buffers.length := by
    rw [List.length_take]
    omega
  have hf : queue.freeList.Nodup :=
    (List.nodup_append.mp (hdiv.partition.nodup_iff.mpr (nodup_descriptors _))).1
  have hno : ∀ prev, (none : Option UInt16) = some prev → buffers ≠ [] →
      prev ∉ queue.freeList.take buffers.length ∧
      (queue.desc prev).flags ||| DescFlags.NEXT = (queue.desc prev).flags ∧
      (queue.desc prev).next = queue.freeHead := by
    intro prev heq
    cases heq
  obtain ⟨hri, hfr, hst, hsa⟩ := linkBuffers_spec hsp hch
    (hsp ▸ hf) (fun idx hid => hdiv.free_lt (List.mem_of_mem_take hid)) hno
  generalize queue.linkBuffers none buffers = after at hri hfr hst hsa ⊢
  have hhe : (queue.freeList.take buffers.length).head? = some queue.freeHead := by
    cases hli : queue.freeList with
    | nil =>
      rw [hli] at hch
      simp only [List.take_nil] at hch
      exact absurd (List.eq_nil_of_length_eq_zero hch.symm) hso
    | cons =>
      obtain ⟨hfs, -, -⟩ := freeList_cons hli
      cases buffers with
      | nil => exact absurd rfl hso
      | cons => rw [List.length_cons, List.take_succ_cons, List.head?_cons, hfs]
  have hot : ∀ entry ∈ outstanding, ∀ idx ∈ queue.chainFrom entry.1,
      after.desc idx = queue.desc idx := by
    intro entry hen idx hid
    apply hsa
    intro hin
    exact hdiv.partition.not_both (nodup_descriptors _) (List.mem_of_mem_take hin)
      (List.mem_flatten.mpr ⟨_, Divided.chain_mem hen, hid⟩)
  have hsi := hri.size
  have hne : after.chainFrom queue.freeHead = queue.freeList.take buffers.length := by
    refine hst.chainFrom hhe ?_
    have ha := hdiv.partition.length_eq
    rw [length_descriptors, Pool.all, List.length_append] at ha
    rw [hsi]
    dsimp only at ha
    omega
  have hke : ∀ entry ∈ outstanding, after.chainFrom entry.1 = queue.chainFrom entry.1 ∧
      Stored after.desc (queue.chainFrom entry.1) entry.2 :=
    fun entry hen => hdiv.keep hsi hen (hot _ hen)
  refine ⟨hri, ⟨?_, ?_, ?_, ?_, ?_⟩, hot⟩
  · rw [hsi]
    exact hdiv.small
  · rw [hsi]
    exact hdiv.divides
  · rw [hri.table, hsi]
    exact hdiv.table
  · intro entry hen
    rcases List.mem_cons.mp hen with rfl | ho
    · rw [hne]
      exact ⟨hhe, hst⟩
    · rw [(hke entry ho).1]
      exact ⟨(hdiv.stored _ ho).1, (hke _ ho).2⟩
  · rw [hfr, List.map_cons, hne, hsi, List.map_congr_left (fun entry hen => (hke _ hen).1)]
    refine hdiv.partition.take ?_
    rw [List.take_append_drop]

lemma Divided.unlink (hen : entry ∈ outstanding) :
    ∃ after, queue.freeDescriptorChain queue.size.toNat entry.1 = some after ∧
      SameRings queue after ∧
      Divided after (outstanding.eraseP (fun other => other.1 == entry.1)) ∧
      ∀ other ∈ outstanding.eraseP (fun other => other.1 == entry.1),
        ∀ idx ∈ queue.chainFrom other.1, after.desc idx = queue.desc idx := by
  obtain ⟨hhe, hst⟩ := hdiv.stored entry hen
  have hnd := nodup_descriptors queue.size
  have hln := hdiv.partition.length_block_le (Divided.chain_mem hen)
  rw [length_descriptors] at hln
  dsimp only at hln
  have hsm := hdiv.small
  have hallNodup : (queue.chainFrom entry.1 ++ queue.freeList).Nodup := by
    have ha := hdiv.partition.nodup_iff.mpr hnd
    obtain ⟨hfr, hhl, hap⟩ := List.nodup_append.mp ha
    refine List.nodup_append.mpr ⟨?_, hfr, ?_⟩
    · exact (List.nodup_flatten.mp hhl).1 _ (Divided.chain_mem hen)
    · intro x hx y hy heq
      exact hap y hy x (List.mem_flatten.mpr ⟨_, Divided.chain_mem hen, hx⟩) heq.symm
  have hfu : (queue.chainFrom entry.1).length ≤ queue.size.toNat := by omega
  obtain ⟨after, haf, hri, hfr, hsa⟩ := freeDescriptorChain_spec hhe hst hfu
    hallNodup (fun idx hid => hdiv.chain_lt hen hid) (by rw [List.length_append]; omega)
  -- The entries before and after the one that is erased have other heads.
  obtain ⟨found, before, later, -, hgo, hou, her⟩ := List.exists_of_eraseP hen
    (p := fun other => other.1 == entry.1) (by simp)
  have hfo : found.1 = entry.1 := by simpa using hgo
  have hpe : outstanding.Perm (found :: (before ++ later)) := by
    rw [hou]
    exact List.perm_middle
  have hhd : ((found :: (before ++ later)).map Prod.fst).Nodup :=
    (hpe.map Prod.fst).nodup_iff.mp hdiv.nodup_heads
  have hle : ∀ other ∈ before ++ later, other ∈ outstanding ∧ other.1 ≠ entry.1 := by
    intro other hot
    refine ⟨hpe.mem_iff.mpr (List.mem_cons_of_mem _ hot), ?_⟩
    intro heq
    refine (List.nodup_cons.mp hhd).1 (List.mem_map.mpr ⟨other, hot, ?_⟩)
    rw [heq, hfo]
  have ho : ∀ other ∈ before ++ later, ∀ idx ∈ queue.chainFrom other.1,
      after.desc idx = queue.desc idx := by
    intro other hot idx hid
    obtain ⟨hme, hne⟩ := hle other hot
    exact hsa idx (fun hin => hdiv.apart hme hen hne hid hin)
  have hke : ∀ other ∈ before ++ later, after.chainFrom other.1 = queue.chainFrom other.1 ∧
      Stored after.desc (queue.chainFrom other.1) other.2 :=
    fun other hot => hdiv.keep hri.size (hle _ hot).1 (ho _ hot)
  rw [her]
  refine ⟨after, haf, hri, ?_, ho⟩
  refine ⟨?_, ?_, ?_, ?_, ?_⟩
  · rw [hri.size]
    exact hdiv.small
  · rw [hri.size]
    exact hdiv.divides
  · rw [hri.table, hri.size]
    exact hdiv.table
  · intro other hot
    rw [(hke other hot).1]
    exact ⟨(hdiv.stored _ (hle _ hot).1).1, (hke _ hot).2⟩
  · rw [hfr, hri.size, List.map_congr_left (fun other hot => (hke other hot).1)]
    have hch := hpe.map (fun other : UInt16 × List Buffer => queue.chainFrom other.1)
    rw [List.map_cons, hfo] at hch
    exact hdiv.partition.giveBlock hch ((List.reverse_perm _).append_right _)

end

section

variable {index size : UInt16} (hnew : new index size = .ok queue)

include hnew

lemma size_of_new : size.toNat ≤ 256 ∧ size.toNat ∣ 65536 := by
  have hp : ∀ n < 257, isPowerOfTwo (ofNat n) = true → n ∣ 65536 := by
    decide +kernel
  unfold new at hnew
  by_cases hb : size = 0 ∨ size > maxQueueSize ∨ isPowerOfTwo size = false
  · rw [if_pos hb] at hnew
    cases hnew
  · obtain ⟨-, hl, ho⟩ : size ≠ 0 ∧ ¬ size > maxQueueSize ∧ isPowerOfTwo size ≠ false := by
      simpa only [not_or] using hb
    have hs : size.toNat ≤ 256 := UInt16.le_iff_toNat_le.mp (UInt16.not_lt.mp hl)
    refine ⟨hs, hp size.toNat (by omega) ?_⟩
    simpa using ho

lemma fields_of_new :
    queue =
      { index, size, numFree := size, freeHead := 0, lastUsedIdx := 0
        descTable := (List.range size.toNat).map (fun i =>
          { addr := 0, len := 0, flags := 0
            next := if ofNat i < size - 1 then ofNat i + 1 else 0 })
        availIdx := 0, availRing := List.replicate size.toNat 0
        usedIdx := 0, usedRing := List.replicate size.toNat ⟨0, 0⟩ } := by
  unfold new at hnew
  split at hnew
  · cases hnew
  · exact (Except.ok.inj hnew).symm

lemma freeList_new : queue.freeList = descriptors size := by
  have hs := (size_of_new hnew).1
  have hl : queue.freeList =
      Links.follow (fun idx => (queue.desc idx).next) size.toNat (ofNat 0) := by
    rw [fields_of_new hnew]
    rfl
  rw [descriptors, List.range_eq_range', hl]
  refine Links.follow_numbered ?_
  intro i _ hi
  have ht : (ofNat i).toNat = i := by
    rw [toNat_ofNat', Nat.mod_eq_of_lt (by omega)]
  have ho : (1 : UInt16) ≤ size := by
    show 1 ≤ size.toNat
    omega
  have hb : ofNat i < size - 1 := by
    rw [UInt16.lt_iff_toNat_lt, ht, UInt16.toNat_sub_of_le _ _ ho]
    show i < size.toNat - 1
    omega
  have hn : i < size.toNat := by omega
  rw [fields_of_new hnew]
  simp only [desc, ht, List.getD_eq_getElem?_getD, List.getElem?_map,
    List.getElem?_range hn, Option.map_some, if_pos hb]
  rw [ofNat_add]
  rfl

lemma divided_new : Divided queue [] := by
  obtain ⟨hm, hd⟩ := size_of_new hnew
  have hs : queue.size = size := by rw [fields_of_new hnew]
  refine ⟨?_, ?_, ?_, ?_, ?_⟩
  · rw [hs]
    exact hm
  · rw [hs]
    exact hd
  · rw [fields_of_new hnew]
    simp
  · intro entry he
    exact absurd he List.not_mem_nil
  · rw [freeList_new hnew, hs]
    show (descriptors size ++ []).Perm _
    rw [List.append_nil]

end

end Table

section Rings

variable {queue : Virtqueue}

lemma slot_eq {idx size : UInt16} (hi : idx.toNat = count % 65536)
    (hd : size.toNat ∣ 65536) : (idx % size).toNat = count % size.toNat := by
  rw [UInt16.toNat_mod, hi, Nat.mod_mod_of_dvd _ hd]

lemma toNat_succ {idx : UInt16} (hi : idx.toNat = count % 65536) :
    (idx + 1).toNat = (count + 1) % 65536 := by
  rw [UInt16.toNat_add, hi]
  show (count % 65536 + 1) % 65536 = _
  omega

lemma Published.publish (hp : Published queue heads) (hd : queue.size.toNat ∣ 65536)
    (head : UInt16) : Published (queue.publish head) (heads ++ [head]) := by
  have ho : 0 < queue.size.toNat := Nat.pos_of_dvd_of_pos hd (by decide)
  have hl := slot_eq hp.idx hd
  have hs := hp.slots
  refine ⟨List.length_set.trans hp.ring, ?_, ?_⟩
  · rw [List.length_append]
    exact toNat_succ hp.idx
  · show Slots.Holds (queue.availRing.set (queue.availIdx % queue.size).toNat head)
      ((heads ++ [head]).length - queue.size.toNat)
      ((heads ++ [head]).drop ((heads ++ [head]).length - queue.size.toNat))
    rw [hl, List.length_append, List.length_singleton]
    by_cases hr : heads.length < queue.size.toNat
    · have hb : heads.length - queue.size.toNat = 0 := by omega
      have hn : heads.length + 1 - queue.size.toNat = 0 := by omega
      rw [hb] at hs
      rw [hn]
      have hps := hs.push (by rw [hp.ring]; exact hr) head
      rwa [hp.ring, List.drop_zero, Nat.zero_add] at hps
    · -- The ring is full: the oldest head of the last `size` ones is overwritten.
      have hn : heads.length + 1 - queue.size.toNat = heads.length - queue.size.toNat + 1 := by
        omega
      rw [List.drop_eq_getElem_cons (by omega)] at hs
      have he : (heads.drop (heads.length - queue.size.toNat + 1)).length =
          queue.size.toNat - 1 := by
        rw [List.length_drop]
        omega
      have hps := hs.tail.push (by rw [hp.ring]; omega) head
      have hi : heads.length - queue.size.toNat + 1 + (queue.size.toNat - 1) =
          heads.length := by omega
      rw [he, hi, hp.ring] at hps
      rw [hn, List.drop_append_of_le_length (by omega)]
      exact hps

lemma Published.congr (hp : Published queue heads) (hr : SameRings queue after) :
    Published after heads := by
  refine ⟨?_, ?_, ?_⟩
  · rw [hr.availRing, hr.size]
    exact hp.ring
  · rw [hr.availIdx]
    exact hp.idx
  · rw [hr.availRing, hr.size]
    exact hp.slots

lemma published_new {index size : UInt16} (hnew : new index size = .ok queue) :
    Published queue [] := by
  rw [fields_of_new hnew]
  refine ⟨List.length_replicate, rfl, ?_⟩
  intro k hk
  simp at hk

lemma Returned.deviceReturn (hr : Returned queue returned) (hd : queue.size.toNat ∣ 65536)
    (ho : returned.length < queue.size.toNat) :
    Returned (queue.deviceReturn head len) (returned ++ [(head, len)]) := by
  obtain ⟨popped, hl, hu, hs⟩ := hr.slots
  refine ⟨List.length_set.trans hr.ring, popped, hl, ?_, ?_⟩
  · rw [List.length_append]
    exact toNat_succ hu
  · have hp := hs.push (by rw [hr.ring, List.length_map]; exact ho)
      ⟨head.toUInt32, len⟩
    rw [hr.ring, List.length_map, ← slot_eq hu hd] at hp
    rw [List.map_append]
    exact hp

lemma Returned.congr (he : Returned queue returned) (hr : SameRings queue after) :
    Returned after returned := by
  obtain ⟨popped, hl, hu, hs⟩ := he.slots
  refine ⟨?_, popped, ?_, ?_, ?_⟩
  · rw [hr.usedRing, hr.size]
    exact he.ring
  · rw [hr.lastUsedIdx]
    exact hl
  · rw [hr.usedIdx]
    exact hu
  · rw [hr.usedRing]
    exact hs

lemma returned_new {index size : UInt16} (hnew : new index size = .ok queue) :
    Returned queue [] := by
  rw [fields_of_new hnew]
  refine ⟨List.length_replicate, 0, rfl, rfl, ?_⟩
  intro k hk
  simp at hk

lemma Returned.popUsed_nil (hr : Returned queue []) : queue.popUsed = some (queue, none) := by
  obtain ⟨_, hl, hu, -⟩ := hr.slots
  have hs : queue.usedIdx = queue.lastUsedIdx := by
    rw [← UInt16.toNat_inj, hu, hl]
    rfl
  rw [popUsed, if_pos hs]

lemma Returned.popUsed_cons (hr : Returned queue (entry :: rest))
    (hd : queue.size.toNat ∣ 65536) (hm : (entry :: rest).length < 65536) :
    Returned { queue with lastUsedIdx := queue.lastUsedIdx + 1 } rest ∧
      queue.popUsed =
        ({ queue with lastUsedIdx := queue.lastUsedIdx + 1 }.freeDescriptorChain queue.size.toNat
          entry.1).map (fun queue => (queue, some entry)) := by
  obtain ⟨popped, hl, hu, hs⟩ := hr.slots
  rw [List.length_cons] at hu hm
  constructor
  · refine ⟨hr.ring, popped + 1, toNat_succ hl, ?_, hs.tail⟩
    rw [hu]
    omega
  · have ho : queue.usedIdx ≠ queue.lastUsedIdx := by
      intro he
      rw [← UInt16.toNat_inj] at he
      omega
    have hsl : ((queue.lastUsedIdx % queue.size) % queue.size).toNat =
        popped % queue.size.toNat := by
      rw [UInt16.toNat_mod, slot_eq hl hd, Nat.mod_mod]
    have hel : queue.readUsedElem (queue.lastUsedIdx % queue.size) =
        ⟨entry.1.toUInt32, entry.2⟩ := by
      rw [readUsedElem, hsl, List.getD_eq_getElem?_getD, ← hr.ring, hs.head]
      rfl
    rw [popUsed, if_neg ho]
    simp only [hel, toUInt16_toUInt32]

end Rings

section Adding

variable {queue : Virtqueue} {outstanding : List (UInt16 × List Buffer)}

lemma Divided.addBuffer_eq (hdiv : Divided queue outstanding) :
    queue.addBuffer buffer len writeOnly = queue.addBufferChain [(buffer, len, writeOnly)] := by
  by_cases hn : queue.numFree = 0
  · have hf : queue.numFree < ofNat [(buffer, len, writeOnly)].length := by
      rw [hn]
      show (0 : UInt16) < ofNat 1
      decide
    rw [addBuffer, addBufferChain, if_pos hn, if_neg (by simp), if_pos hf]
  · have he : ¬ queue.numFree < ofNat [(buffer, len, writeOnly)].length := by
      intro hle
      have hz : queue.numFree.toNat < 1 := lt_iff_toNat_lt.mp hle
      exact hn (UInt16.toNat_inj.mp (Nat.lt_one_iff.mp hz))
    rw [addBuffer, addBufferChain, if_neg hn, if_neg he]
    cases hl : queue.freeList with
    | nil => exact absurd (UInt16.toNat_inj.mp (numFree_of_freeList hl)) hn
    | cons idx =>
      have hi := hdiv.free_lt (hl ▸ List.mem_cons_self)
      have hP : ∀ prev, (none : Option UInt16) = some prev → prev ≠ idx ∧
          (queue.desc prev).flags ||| DescFlags.NEXT = (queue.desc prev).flags ∧
          (queue.desc prev).next = idx := by
        intro prev hq
        cases hq
      have hd : descFor (buffer, len, writeOnly) none =
          { addr := buffer, len := len, flags := writeFlag writeOnly, next := 0 } := by
        simp [descFor]
      rw [linkBuffers_cons hl hi hP]
      simp only [List.isEmpty_nil, if_true, hd]
      rfl

lemma isOk_addBufferChain (queue : Virtqueue) (hl : buffers.length < 65536) :
    (queue.addBufferChain buffers).isOk = true ↔
      buffers ≠ [] ∧ buffers.length ≤ queue.numFree.toNat := by
  have hc : (ofNat buffers.length).toNat = buffers.length := by
    rw [toNat_ofNat', Nat.mod_eq_of_lt hl]
  rw [addBufferChain]
  by_cases he : buffers = []
  · rw [if_pos (List.isEmpty_iff.mpr he)]
    simp [he, Except.toBool]
  rw [if_neg (by simpa using he)]
  by_cases hf : queue.numFree < ofNat buffers.length
  · rw [if_pos hf]
    rw [lt_iff_toNat_lt] at hf
    exact ⟨fun h => absurd h Bool.false_ne_true, fun h => absurd h.2 (by omega)⟩
  · rw [if_neg hf]
    rw [lt_iff_toNat_lt] at hf
    exact ⟨fun _ => ⟨he, by omega⟩, fun _ => rfl⟩

lemma addBufferChain_ok (ha : queue.addBufferChain buffers = .ok (after, head)) :
    head = queue.freeHead ∧ after = (queue.linkBuffers none buffers).publish queue.freeHead := by
  unfold addBufferChain at ha
  split at ha
  · cases ha
  · split at ha
    · cases ha
    · simp only [Except.ok.injEq, Prod.mk.injEq] at ha
      exact ⟨ha.2.symm, ha.1.symm⟩

end Adding

inductive Event where
  | AddBuffer (buffer : UInt64) (len : UInt32) (writeOnly : Bool)
  | AddBufferChain (buffers : List Buffer)
  | DeviceReturn (head : UInt16) (len : UInt32)
  | PopUsed

-- A queue with the chains that are outstanding, those of them that the device has returned
-- already, and the heads of all chains ever published.
structure Traffic where
  queue : Virtqueue
  outstanding : List (UInt16 × List Buffer)
  returned : List (UInt16 × UInt32)
  published : List UInt16

namespace Traffic

def start (queue : Virtqueue) : Traffic := ⟨queue, [], [], []⟩

def add (traffic : Traffic) (buffers : List Buffer) :
    Except VirtioError (Virtqueue × UInt16) → Traffic
  | .ok (queue, head) =>
    { traffic with
      queue
      outstanding := (head, buffers) :: traffic.outstanding
      published := traffic.published ++ [head] }
  | .error _ => traffic

def pop (traffic : Traffic) : Option (Virtqueue × Option (UInt16 × UInt32)) → Traffic
  | some (queue, some (head, _)) =>
    { traffic with
      queue
      outstanding := traffic.outstanding.eraseP (fun entry => entry.1 == head)
      returned := traffic.returned.eraseP (fun entry => entry.1 == head) }
  | some (queue, none) => { traffic with queue }
  | none => traffic

def step (traffic : Traffic) : Event → Traffic
  | .AddBuffer buffer len writeOnly =>
    traffic.add [(buffer, len, writeOnly)] (traffic.queue.addBuffer buffer len writeOnly)
  | .AddBufferChain buffers => traffic.add buffers (traffic.queue.addBufferChain buffers)
  | .DeviceReturn head len =>
    { traffic with
      queue := traffic.queue.deviceReturn head len
      returned := traffic.returned ++ [(head, len)] }
  | .PopUsed => traffic.pop traffic.queue.popUsed

def Permitted (traffic : Traffic) : Event → Prop
  | .AddBuffer _ _ _ => True
  | .AddBufferChain buffers => buffers.length < 65536
  | .DeviceReturn head _ =>
    head ∈ traffic.outstanding.map Prod.fst ∧ head ∉ traffic.returned.map Prod.fst
  | .PopUsed => True

structure Sound (size : UInt16) (traffic : Traffic) : Prop where
  size : traffic.queue.size = size
  divided : Divided traffic.queue traffic.outstanding
  published : Published traffic.queue traffic.published
  returned : Returned traffic.queue traffic.returned
  once : (traffic.returned.map Prod.fst).Nodup
  owned : ∀ head ∈ traffic.returned.map Prod.fst, head ∈ traffic.outstanding.map Prod.fst

def Kept (before after : Traffic) : Prop :=
  ∀ entry ∈ before.outstanding, entry ∈ after.outstanding →
    ∀ idx ∈ before.queue.chainFrom entry.1, after.queue.desc idx = before.queue.desc idx

section Steps

variable {size : UInt16} {traffic : Traffic}

section

variable (hsnd : Sound size traffic)

include hsnd

lemma length_heads_le {heads : List UInt16} (hn : heads.Nodup)
    (ho : ∀ head ∈ heads, head ∈ traffic.outstanding.map Prod.fst) :
    heads.length ≤ traffic.queue.size.toNat := by
  rw [← length_descriptors]
  refine (List.subperm_of_subset hn ?_).length_le
  intro head hh
  obtain ⟨_, he, rfl⟩ := List.mem_map.mp (ho head hh)
  rw [mem_descriptors, ← hsnd.divided.table]
  exact hsnd.divided.chain_lt he (hsnd.divided.head_mem he)

lemma Sound.addBufferChain (hl : buffers.length < 65536) :
    Sound size (traffic.add buffers (traffic.queue.addBufferChain buffers)) ∧
      Kept traffic (traffic.add buffers (traffic.queue.addBufferChain buffers)) := by
  cases ha : traffic.queue.addBufferChain buffers with
  | error => exact ⟨hsnd, fun _ _ _ _ _ => rfl⟩
  | ok result =>
    obtain ⟨_, head⟩ := result
    have ho := isOk_addBufferChain traffic.queue hl
    rw [ha] at ho
    obtain ⟨hs, hro⟩ := ho.mp rfl
    obtain ⟨rfl, rfl⟩ := addBufferChain_ok ha
    obtain ⟨hr, hdiv, hk⟩ := hsnd.divided.link hs hro
    have hp := (hsnd.published.congr hr).publish hdiv.divides traffic.queue.freeHead
    have he := hsnd.returned.congr hr
    refine ⟨⟨hr.size.trans hsnd.size, ?_, hp, ?_, hsnd.once, ?_⟩, ?_⟩
    · exact ⟨hdiv.small, hdiv.divides, hdiv.table, hdiv.stored, hdiv.partition⟩
    · exact ⟨he.ring, he.slots⟩
    · intro head hh
      exact List.mem_cons_of_mem _ (hsnd.owned _ hh)
    · intro entry hn _
      exact hk _ hn

lemma Sound.deviceReturn (hpr : traffic.Permitted (.DeviceReturn head len)) :
    Sound size (traffic.step (.DeviceReturn head len)) := by
  obtain ⟨ho, hnew⟩ := hpr
  have hdiv := hsnd.divided
  have hn : (head :: traffic.returned.map Prod.fst).Nodup := List.nodup_cons.mpr ⟨hnew, hsnd.once⟩
  have hr := length_heads_le hsnd hn (List.forall_mem_cons.mpr ⟨ho, hsnd.owned⟩)
  rw [List.length_cons, List.length_map] at hr
  have hp : ((traffic.returned ++ [(head, len)]).map Prod.fst).Perm
      (head :: traffic.returned.map Prod.fst) := by
    rw [List.map_append]
    exact List.perm_append_singleton _ _
  refine ⟨hsnd.size, ?_, ?_, hsnd.returned.deviceReturn hdiv.divides hr, hp.nodup_iff.mpr hn, ?_⟩
  · exact ⟨hdiv.small, hdiv.divides, hdiv.table, hdiv.stored, hdiv.partition⟩
  · exact ⟨hsnd.published.ring, hsnd.published.idx, hsnd.published.slots⟩
  · intro other ht
    rcases List.mem_cons.mp (hp.mem_iff.mp ht) with rfl | hl
    · exact ho
    · exact hsnd.owned _ hl

lemma Sound.popUsed :
    (∃ after, traffic.queue.popUsed = some (after, traffic.returned.head?)) ∧
      Sound size (traffic.pop traffic.queue.popUsed) ∧
      Kept traffic (traffic.pop traffic.queue.popUsed) := by
  have hr := hsnd.returned
  have hdiv := hsnd.divided
  cases ht : traffic.returned with
  | nil =>
    rw [ht] at hr
    rw [hr.popUsed_nil]
    exact ⟨⟨_, rfl⟩, hsnd, fun _ _ _ _ _ => rfl⟩
  | cons first rest =>
    have hc := length_heads_le hsnd hsnd.once hsnd.owned
    have hs := hdiv.small
    have ho := hsnd.once
    have hw := hsnd.owned
    rw [ht] at hr hc ho hw
    rw [List.length_map] at hc
    obtain ⟨hr', hp⟩ := hr.popUsed_cons hdiv.divides (by omega)
    obtain ⟨_, hen, hh⟩ := List.mem_map.mp (hw _ List.mem_cons_self)
    have hv : Divided { traffic.queue with lastUsedIdx := traffic.queue.lastUsedIdx + 1 }
        traffic.outstanding :=
      ⟨hdiv.small, hdiv.divides, hdiv.table, hdiv.stored, hdiv.partition⟩
    have hu : Published { traffic.queue with lastUsedIdx := traffic.queue.lastUsedIdx + 1 }
        traffic.published :=
      ⟨hsnd.published.ring, hsnd.published.idx, hsnd.published.slots⟩
    obtain ⟨after, ha, hi, hd, hk⟩ := hv.unlink hen
    rw [hh] at ha hd hk
    have hpp : traffic.queue.popUsed = some (after, some first) := by
      rw [hp, ha]
      rfl
    have he : traffic.returned.eraseP (fun other => other.1 == first.1) = rest := by
      rw [ht]
      simp
    rw [hpp]
    refine ⟨⟨after, rfl⟩, ⟨?_, hd, ?_, ?_, ?_, ?_⟩, ?_⟩
    · exact hi.size.trans hsnd.size
    · exact hu.congr hi
    · show Returned after (traffic.returned.eraseP (fun other => other.1 == first.1))
      rw [he]
      exact hr'.congr hi
    · show ((traffic.returned.eraseP (fun other => other.1 == first.1)).map Prod.fst).Nodup
      rw [he]
      exact (List.nodup_cons.mp ho).2
    · show ∀ head ∈ (traffic.returned.eraseP (fun other => other.1 == first.1)).map Prod.fst,
        head ∈ (traffic.outstanding.eraseP (fun other => other.1 == first.1)).map Prod.fst
      rw [he]
      intro head hn
      obtain ⟨other, hot, rfl⟩ := List.mem_map.mp (hw head (List.mem_cons_of_mem _ hn))
      have hne : other.1 ≠ first.1 := fun hq => (List.nodup_cons.mp ho).1 (hq ▸ hn)
      refine List.mem_map.mpr ⟨other, ?_, rfl⟩
      exact (List.mem_eraseP_of_neg (by simpa using hne)).mpr hot
    · intro other _ hot
      exact hk _ hot

lemma Sound.step (hp : traffic.Permitted event) :
    Sound size (traffic.step event) ∧ Kept traffic (traffic.step event) := by
  cases event with
  | AddBuffer =>
    rw [Traffic.step, hsnd.divided.addBuffer_eq]
    exact hsnd.addBufferChain (by simp)
  | AddBufferChain => exact hsnd.addBufferChain hp
  | DeviceReturn => exact ⟨hsnd.deviceReturn hp, fun _ _ _ _ _ => rfl⟩
  | PopUsed => exact hsnd.popUsed.2

end

lemma sound_start {index : UInt16} {queue : Virtqueue} (hnew : new index size = .ok queue) :
    Sound size (start queue) where
  size := by
    rw [fields_of_new hnew]
    rfl
  divided := divided_new hnew
  published := published_new hnew
  returned := returned_new hnew
  once := List.nodup_nil
  owned := fun _ h => absurd h List.not_mem_nil

lemma sound_run {index : UInt16} {queue : Virtqueue} (hnew : new index size = .ok queue)
    (he : Run.Along step Permitted (start queue) events) :
    Sound size (Run.run step (start queue) events) :=
  Run.run_invariant step Permitted (Sound size)
    (fun _ _ hsnd hp => (hsnd.step hp).1) (sound_start hnew) he

end Steps

end Traffic

open Traffic

lemma Published.slot {queue : Virtqueue} (hp : Published queue heads) (hj : j < heads.length)
    (hl : heads.length ≤ j + queue.size.toNat) :
    queue.availRing[j % queue.size.toNat]? = heads[j]? := by
  have hs := hp.slots (j - (heads.length - queue.size.toNat)) (by rw [List.length_drop]; omega)
  have hi : heads.length - queue.size.toNat + (j - (heads.length - queue.size.toNat)) = j := by
    omega
  rwa [List.getElem?_drop, hi, hp.ring] at hs

theorem descriptors_partitioned (index size : UInt16) (queue : Virtqueue)
    (hnew : new index size = .ok queue) (events : List Event)
    (hevents : Run.Along step Permitted (start queue) events) :
    let traffic := Run.run step (start queue) events
    (traffic.queue.freeList.length = traffic.queue.numFree.toNat ∧
      Pool.Partitions ⟨traffic.queue.freeList,
        traffic.outstanding.map (fun entry => traffic.queue.chainFrom entry.1)⟩
        (descriptors size)) ∧
      (∀ buffer len writeOnly, (traffic.queue.addBuffer buffer len writeOnly).isOk = true ↔
        1 ≤ traffic.queue.numFree.toNat) ∧
      (∀ buffers, buffers ≠ [] → buffers.length < 65536 →
        ((traffic.queue.addBufferChain buffers).isOk = true ↔
          buffers.length ≤ traffic.queue.numFree.toNat)) ∧
      traffic.queue.addBufferChain [] = .error .InvalidArgument ∧
      (∃ after, traffic.queue.popUsed = some (after, traffic.returned.head?)) ∧
      (∀ entry ∈ traffic.outstanding,
        (traffic.queue.chainFrom entry.1).map traffic.queue.readBuffer = entry.2) ∧
      (∀ event, traffic.Permitted event → Kept traffic (traffic.step event)) ∧
      traffic.queue.availIdx.toNat = traffic.published.length % 65536 ∧
      ∀ j < traffic.published.length, traffic.published.length ≤ j + size.toNat →
        traffic.queue.availRing[j % size.toNat]? = traffic.published[j]? := by
  intro traffic
  have hsnd : Sound size traffic := sound_run hnew hevents
  have hs := hsnd.size
  refine ⟨⟨(numFree_of_freeList rfl).symm, ?_⟩, ?_, ?_, rfl, hsnd.popUsed.1, ?_, ?_,
    hsnd.published.idx, ?_⟩
  · rw [← hs]
    exact hsnd.divided.partition
  · intro buffer len writeOnly
    rw [hsnd.divided.addBuffer_eq, isOk_addBufferChain _ (by simp)]
    simp
  · intro buffers ho he
    rw [isOk_addBufferChain _ he]
    simp [ho]
  · intro entry hn
    exact (hsnd.divided.stored _ hn).2.readBuffers
  · intro event hp
    exact (hsnd.step hp).2
  · intro j hj hl
    rw [← hs] at hl ⊢
    exact hsnd.published.slot hj hl

theorem descriptors_partitioned_twoChains : ∃ queue, new 0 4 = .ok queue ∧
    ∃ after, (Run.run step (start queue)
      [.AddBufferChain [(0x1000, 16, false), (0x2000, 512, true)], .AddBuffer 0x3000 1 true,
        .DeviceReturn 0 512, .PopUsed]).queue.popUsed = some (after, none) := by
  refine ⟨_, rfl, ?_⟩
  exact (descriptors_partitioned 0 4 _ rfl
    [.AddBufferChain [(0x1000, 16, false), (0x2000, 512, true)], .AddBuffer 0x3000 1 true,
      .DeviceReturn 0 512, .PopUsed]
    ⟨show 2 < 65536 by decide, trivial, ⟨by decide, by decide⟩, trivial, trivial⟩).2.2.2.2.1

theorem empty_chain_refused : ∃ queue, new 0 4 = .ok queue ∧
    ([] : List Buffer).length ≤ queue.numFree.toNat ∧
      queue.addBufferChain [] = .error .InvalidArgument :=
  ⟨_, rfl, by decide, rfl⟩

end ZeroOS.Virtqueue
