import ZeroOS.Lib.Pool
import ZeroOS.Lib.Run
import ZeroOS.Vmm.FrameAllocator.Lemmas

/-!
Soundness of the frame allocator over whole runs.
-/

namespace ZeroOS.FrameAllocator

open List Bitmap Pool

-- The frame that begins at an address lies whole in one of the regions.
def InRegion (regions : List (UInt64 × UInt64)) (addr : Nat) : Prop :=
  ∃ region ∈ regions, region.1.toNat ≤ addr ∧ addr + 4096 ≤ region.1.toNat + region.2.toNat

def addRegions (regions : List (UInt64 × UInt64)) : FrameAllocator :=
  regions.foldl (fun allocator region => allocator.addRegion region.1 region.2) new

structure Prepared (regions : List (UInt64 × UInt64)) (allocator : FrameAllocator) : Prop where
  wf : allocator.WellFormed
  inRegion : ∀ i ∈ allocator.free, InRegion regions (allocator.address i)

section Regions

lemma place_spec {allocator : FrameAllocator} (hw : allocator.WellFormed)
    (hs : start.toNat + 4096 ≤ 2 ^ 63) :
    (allocator.place start).WellFormed ∧ (allocator.place start).bitmap.length = 4096 ∧
      (allocator.place start = allocator ∨ (allocator.place start).free = []) := by
  have ha := toNat_alignedStart (show start.toNat ≤ 2 ^ 63 by omega)
  unfold place
  by_cases he : allocator.bitmap.isEmpty
  · rw [if_pos he]
    have hi : allocator.bitmap = [] := isEmpty_iff.mp he
    have hc := hw.counted
    have hn := hw.next
    rw [hi] at hc hn
    refine ⟨⟨Or.inr length_replicate, ?_, ?_, ?_, ?_, ?_⟩, length_replicate, Or.inr ?_⟩
    · rw [ones, positions_replicate_zero]
      exact hc
    · exact Nat.le_trans hn (Nat.zero_le _)
    · intro _
      show (alignedStart start).toNat % 4096 = 0
      omega
    · intro _
      show 0x100000 ≤ (alignedStart start).toNat
      omega
    · show (alignedStart start).toNat ≤ 2 ^ 63
      omega
    · exact positions_replicate_zero
  · rw [if_neg he]
    have hl : allocator.bitmap.length ≠ 0 := by
      intro hz
      exact he (isEmpty_iff.mpr (eq_nil_of_length_eq_zero hz))
    exact ⟨hw, hw.length.resolve_left hl, Or.inl rfl⟩

lemma Prepared.addRegion (hr : Prepared regions allocator) (hme : region ∈ regions)
    (he : region.1.toNat + region.2.toNat ≤ 2 ^ 63) :
    Prepared regions (allocator.addRegion region.1 region.2) := by
  unfold FrameAllocator.addRegion
  by_cases hsi : safeSize region.1 region.2 = 0
  · rw [if_pos hsi]
    exact hr
  rw [if_neg hsi]
  by_cases hn : numFrames region.1 region.2 = 0
  · rw [if_pos hn]
    exact hr
  rw [if_neg hn]
  have hfs := region_covers he (Nat.pos_of_ne_zero hn)
  have hro : region.1.toNat + 4096 ≤ 2 ^ 63 := by omega
  obtain ⟨hw, hln, hs⟩ := place_spec hr.wf hro
  have hp : Prepared regions (allocator.place region.1) := by
    refine ⟨hw, ?_⟩
    rcases hs with hs | hem
    · rw [hs]
      exact hr.inRegion
    · rw [hem]
      intro i hi
      exact absurd hi not_mem_nil
  generalize allocator.place region.1 = placed at hp hln ⊢
  by_cases hb : alignedStart region.1 < placed.baseAddr
  · rw [if_pos hb]
    exact hp
  rw [if_neg hb]
  by_cases hf : ((alignedStart region.1 - placed.baseAddr) / pageSize).toNat ≥ maxFrames
  · rw [if_pos hf]
    exact hp
  rw [if_neg hf]
  have hl : placed.baseAddr ≤ alignedStart region.1 := UInt64.not_lt.mp hb
  have ht : ((alignedStart region.1 - placed.baseAddr) / pageSize).toNat =
      ((alignedStart region.1).toNat - placed.baseAddr.toNat) / 4096 := by
    rw [UInt64.toNat_div, UInt64.toNat_sub_of_le _ _ hl]
    rfl
  have hba := hp.wf.aligned (by omega)
  have ha := toNat_alignedStart (show region.1.toNat ≤ 2 ^ 63 by omega)
  have hna : placed.baseAddr.toNat ≤ (alignedStart region.1).toNat := UInt64.le_iff_toNat_le.mp hl
  obtain ⟨hm, hg, hne⟩ := foldl_markFree_spec
    (range' ((alignedStart region.1 - placed.baseAddr) / pageSize).toNat
      (min (((alignedStart region.1 - placed.baseAddr) / pageSize).toNat +
        numFrames region.1 region.2) maxFrames -
        ((alignedStart region.1 - placed.baseAddr) / pageSize).toNat)) placed hp.wf
  refine ⟨hm, ?_⟩
  intro i hi
  rw [hg.address]
  rcases hne i hi with ho | hm
  · exact hp.inRegion i ho
  · -- A frame marked here is one of the region, counted from its aligned start.
    obtain ⟨hfr, hto⟩ := mem_range'_1.mp hm
    rw [ht] at hfr hto
    have hc := region_covers he
      (k := i - ((alignedStart region.1).toNat - placed.baseAddr.toNat) / 4096) (by omega)
    refine ⟨region, hme, ?_⟩
    rw [address]
    omega

lemma new_wellFormed : new.WellFormed where
  length := Or.inl rfl
  counted := rfl
  next := Nat.le_refl 0
  aligned := fun h => absurd rfl h
  above := fun h => absurd rfl h
  below := by decide

lemma prepared_addRegions
    (hregions : ∀ region ∈ regions, region.1.toNat + region.2.toNat ≤ 2 ^ 63) :
    Prepared regions (addRegions regions) := by
  refine foldlRecOn regions _ ⟨new_wellFormed, ?_⟩ ?_
  · intro i hi
    exact absurd hi not_mem_nil
  · intro allocator hp region hm
    exact hp.addRegion hm (hregions _ hm)

end Regions

inductive Request (x86 : X86) where
  | AllocateFrame
  | AllocateFrames (count : Nat)
  | FreeFrame (frame : x86.PhysFrame)
  | FreeContiguous (frame : x86.PhysFrame) (count : Nat)

-- The allocator, and the frames of each block handed out that were not freed since, by address.
structure Session where
  allocator : FrameAllocator
  outstanding : List (List Nat)

def blockOf (x86 : X86) (frame : x86.PhysFrame) (count : Nat) : List Nat :=
  (List.range count).map (fun i => (x86.startAddress frame).toNat + i * 4096)

namespace Session

def start (regions : List (UInt64 × UInt64)) : Session := ⟨addRegions regions, []⟩

variable (x86 : X86)

def handOut (session : Session) (count : Nat) :
    Except Panic (FrameAllocator × Option x86.PhysFrame) → Session
  | .ok (after, some frame) => ⟨after, blockOf x86 frame count :: session.outstanding⟩
  | .ok (after, none) => ⟨after, session.outstanding⟩
  | .error _ => session

def step (session : Session) : Request x86 → Session
  | .AllocateFrame => session.handOut x86 1 (session.allocator.allocateFrame x86)
  | .AllocateFrames count => session.handOut x86 count (session.allocator.allocateFrames x86 count)
  | .FreeFrame frame =>
    ⟨session.allocator.freeFrame x86 frame,
      Pool.withdraw (blockOf x86 frame 1) session.outstanding⟩
  | .FreeContiguous frame count =>
    ⟨session.allocator.freeContiguous x86 frame count,
      Pool.withdraw (blockOf x86 frame count) session.outstanding⟩

-- Only frames that are allocated are freed, and a request that panics ends the run.
def Permitted (session : Session) : Request x86 → Prop
  | .AllocateFrame => ∃ result, session.allocator.allocateFrame x86 = .ok result
  | .AllocateFrames count => ∃ result, session.allocator.allocateFrames x86 count = .ok result
  | .FreeFrame frame => ∀ addr ∈ blockOf x86 frame 1, addr ∈ session.outstanding.flatten
  | .FreeContiguous frame count =>
    ∀ addr ∈ blockOf x86 frame count, addr ∈ session.outstanding.flatten

-- The frames that were free at the start are divided into free frames and blocks.
structure Sound (boot : FrameAllocator) (session : Session) : Prop where
  wf : session.allocator.WellFormed
  range : SameRange boot session.allocator
  partition : Pool.Partitions ⟨session.allocator.free.map boot.address, session.outstanding⟩
    (boot.free.map boot.address)

section Steps

variable {boot : FrameAllocator} {session : Session}

lemma address_injective (boot : FrameAllocator) : Function.Injective boot.address := by
  intro i j he
  simp only [address] at he
  omega

lemma nodup_addresses : (boot.free.map boot.address).Nodup :=
  nodup_positions.map (address_injective _)

variable {regions : List (UInt64 × UInt64)} {count : Nat} {x86 : X86} {frame : x86.PhysFrame}

lemma blockOf_eq (hf : (x86.startAddress frame).toNat = boot.address i) :
    blockOf x86 frame count = (range' i count).map boot.address := by
  rw [blockOf, range'_eq_map_range, map_map]
  refine map_congr_left ?_
  intro k _
  rw [Function.comp_apply, hf, address, address]
  omega

section

variable (hsnd : Sound boot session)

include hsnd

lemma Sound.handOut (ha : Allocated x86 limit session.allocator count result) :
    Sound boot (session.handOut x86 count result) := by
  cases ha with
  | Refused | Panicked => exact hsnd
  | Taken _ after frame _ hw hr hfr hf =>
    refine ⟨hw, hsnd.range.trans hr, ?_⟩
    rw [hsnd.range.address] at hf
    show Pool.Partitions
      ⟨after.free.map boot.address, blockOf x86 frame count :: session.outstanding⟩ _
    rw [blockOf_eq hf]
    refine hsnd.partition.take ?_
    rw [← map_append]
    exact hfr.map _

lemma Sound.used {given : List Nat}
    (hh : ∀ i ∈ given, boot.address i ∈ session.outstanding.flatten) :
    (∀ i ∈ given, i < session.allocator.bitmap.length * 64) ∧
      ∀ i ∈ given, i ∉ session.allocator.free := by
  constructor
  · intro i hi
    have ha := (hsnd.partition.mem).mpr (Or.inr (hh i hi))
    obtain ⟨j, hj, he⟩ := mem_map.mp ha
    obtain rfl := address_injective boot he
    rw [hsnd.range.length]
    exact lt_of_member (mem_positions.mp hj)
  · intro i hi hf
    exact hsnd.partition.not_both nodup_addresses (mem_map_of_mem hf) (hh i hi)

lemma Sound.release (hf : (x86.startAddress frame).toNat = boot.address i)
    (hh : ∀ addr ∈ blockOf x86 frame count, addr ∈ session.outstanding.flatten) :
    Sound boot ⟨(range' i count).foldl release session.allocator,
      withdraw (blockOf x86 frame count) session.outstanding⟩ := by
  rw [blockOf_eq hf] at hh ⊢
  have hg : ∀ j ∈ range' i count, boot.address j ∈ session.outstanding.flatten :=
    fun j hj => hh _ (mem_map_of_mem hj)
  obtain ⟨hl, hu⟩ := hsnd.used hg
  obtain ⟨hw, hr, hfr⟩ := foldl_release_spec hsnd.wf nodup_range' hl hu
  refine ⟨hw, hsnd.range.trans hr, ?_⟩
  refine hsnd.partition.give nodup_addresses ?_ hh ?_
  · exact List.Nodup.map (address_injective _) nodup_range'
  · rw [← map_append]
    exact hfr.map _

lemma Sound.freeContiguous
    (hh : ∀ addr ∈ blockOf x86 frame count, addr ∈ session.outstanding.flatten) :
    Sound boot ⟨session.allocator.freeContiguous x86 frame count,
      withdraw (blockOf x86 frame count) session.outstanding⟩ := by
  cases count with
  | zero =>
    have hs : session.allocator.freeContiguous x86 frame 0 = session.allocator := by
      unfold freeContiguous
      dsimp only
      split <;> rfl
    have hn : withdraw (blockOf x86 frame 0) session.outstanding = session.outstanding := by
      simp [withdraw, blockOf]
    rw [hs, hn]
    exact hsnd
  | succ count =>
    have hfs : (x86.startAddress frame).toNat ∈ blockOf x86 frame (count + 1) :=
      mem_map.mpr ⟨0, mem_range.mpr (Nat.succ_pos _), by simp⟩
    have ha := (hsnd.partition.mem).mpr (Or.inr (hh _ hfs))
    obtain ⟨i, -, hf⟩ := mem_map.mp ha
    have hi := index_of_address (hf.symm.trans (hsnd.range.address i).symm)
    unfold FrameAllocator.freeContiguous
    dsimp only
    rw [if_neg hi.1, hi.2]
    exact hsnd.release hf.symm hh

end

lemma Sound.step (hx : x86.Lawful limit) (hsnd : Sound boot session) {req : Request x86}
    (hp : session.Permitted x86 req) : Sound boot (session.step x86 req) := by
  cases req with
  | AllocateFrame => exact hsnd.handOut (allocateFrame_spec hx hsnd.wf)
  | AllocateFrames => exact hsnd.handOut (allocateFrames_spec hx hsnd.wf)
  | FreeFrame frame =>
    show Sound boot ⟨session.allocator.freeContiguous x86 frame 1, _⟩
    exact hsnd.freeContiguous hp
  | FreeContiguous => exact hsnd.freeContiguous hp

section

variable (hregions : ∀ region ∈ regions, region.1.toNat + region.2.toNat ≤ 2 ^ 63)

include hregions

lemma sound_start : Sound (addRegions regions) (start regions) := by
  refine ⟨(prepared_addRegions hregions).wf, .refl _, ?_⟩
  show ((addRegions regions).free.map _ ++ []).Perm _
  rw [append_nil]

lemma sound_run (hx : x86.Lawful limit) {requests : List (Request x86)}
    (hr : Run.Along (step x86) (Permitted x86) (start regions) requests) :
    Sound (addRegions regions) (Run.run (step x86) (start regions) requests) :=
  Run.run_invariant (step x86) (Permitted x86) (Sound (addRegions regions))
    (fun _ _ hsnd hp => hsnd.step hx hp) (sound_start hregions) hr

end

end Steps

-- What an allocation of `count` frames may come to: a block of frames of the regions that are
-- not allocated, or a failure for want of a run of free frames. `PhysAddr::new` panics at the
-- address of the first frame of a run that lies above its limit.
def AllocationSound (x86 : X86) (limit : Nat) (regions : List (UInt64 × UInt64))
    (session : Session) (count : Nat) :
    Except Panic (FrameAllocator × Option x86.PhysFrame) → Prop
  | .ok (_, some frame) => ∀ addr ∈ blockOf x86 frame count, addr % 4096 = 0 ∧ 0x100000 ≤ addr ∧
      InRegion regions addr ∧ addr ∉ session.outstanding.flatten
  | .ok (_, none) => count = 0 ∨ ¬ ∃ start, session.allocator.IsRun start count
  | .error _ => ∃ start, session.allocator.IsRun start count ∧
      limit ≤ session.allocator.address start

lemma Sound.allocationSound {x86 : X86}
    (hp : Prepared regions (addRegions regions)) (hsnd : Sound (addRegions regions) session)
    {count : Nat} {result : Except Panic (FrameAllocator × Option x86.PhysFrame)}
    (ho : Allocated x86 limit session.allocator count result) :
    AllocationSound x86 limit regions session count result := by
  cases ho with
  | Refused hn => exact hn
  | Panicked _ start hr _ hl => exact ⟨start, hr, hl⟩
  | Taken _ _ _ _ _ _ he hf =>
    intro addr ha
    rw [hsnd.range.address] at hf
    rw [blockOf_eq hf] at ha
    obtain ⟨i, hi, rfl⟩ := mem_map.mp ha
    have hw : i ∈ session.allocator.free := he.mem_iff.mpr (mem_append_left _ hi)
    have hm := mem_map_of_mem (f := (addRegions regions).address) hw
    -- A free frame was free at the start.
    have hb := (hsnd.partition.mem).mpr (Or.inl hm)
    obtain ⟨j, hj, hq⟩ := mem_map.mp hb
    obtain rfl := address_injective _ hq
    obtain ⟨-, hs⟩ := hp.wf.lt_maxFrames hj
    have hg := hp.wf.aligned hs
    have hab := hp.wf.above hs
    refine ⟨?_, ?_, hp.inRegion j hj, hsnd.partition.not_both nodup_addresses hm⟩
    · rw [address]
      omega
    · rw [address]
      omega

end Session

open Session

theorem allocator_sound {x86 : X86} {limit : Nat} (hx86 : x86.Lawful limit)
    (regions : List (UInt64 × UInt64))
    (hregions : ∀ region ∈ regions, region.1.toNat + region.2.toNat ≤ 2 ^ 63)
    (requests : List (Request x86))
    (hrequests : Run.Along (step x86) (Permitted x86) (start regions) requests) :
    let session := Run.run (step x86) (start regions) requests
    session.allocator.freeFrames = Bitmap.ones session.allocator.bitmap ∧
      Pool.Partitions ⟨session.allocator.free.map session.allocator.address, session.outstanding⟩
        ((addRegions regions).free.map (addRegions regions).address) ∧
      session.outstanding.Pairwise List.Disjoint ∧
      AllocationSound x86 limit regions session 1 (session.allocator.allocateFrame x86) ∧
      ∀ count, AllocationSound x86 limit regions session count
        (session.allocator.allocateFrames x86 count) := by
  intro session
  have hp := prepared_addRegions hregions
  have hsnd : Sound (addRegions regions) session := sound_run hregions hx86 hrequests
  have ha : session.allocator.address = (addRegions regions).address :=
    funext hsnd.range.address
  refine ⟨hsnd.wf.counted, ?_, ?_, ?_, ?_⟩
  · rw [ha]
    exact hsnd.partition
  · exact hsnd.partition.pairwise_disjoint nodup_addresses
  · exact hsnd.allocationSound hp (allocateFrame_spec hx86 hsnd.wf)
  · intro count
    exact hsnd.allocationSound hp (allocateFrames_spec hx86 hsnd.wf)

-- Physical addresses of 52 bits, and frames by the address of their first byte.
def wide : X86 where
  PhysAddr := UInt64
  PhysFrame := UInt64
  newAddr := fun addr => if addr.toNat < 2 ^ 52 then .ok addr else .error (.PhysAddrNotValid addr)
  containingAddress := fun addr => addr &&& ~~~(pageSize - 1)
  startAddress := fun frame => frame

lemma wide_lawful : wide.Lawful (2 ^ 52) where
  new_below addr ha := ⟨addr, if_pos ha, alignDown_toNat⟩
  new_above _ ha := ⟨_, if_neg (Nat.not_lt_of_le ha)⟩

lemma exists_ok {result : Except Panic α} (h : result.isOk = true) :
    ∃ value, result = .ok value := by
  cases result with
  | ok value => exact ⟨value, rfl⟩
  | error => exact absurd h Bool.false_ne_true

-- Three frames, handed out as a block of two and a block of one.

def blocks : List (Request wide) := [.AllocateFrames 2, .AllocateFrame]

theorem allocator_sound_threeFrames :
    (Run.run (step wide) (start [(0x100000, 0x3000)]) blocks).outstanding =
        [[0x102000], [0x100000, 0x101000]] ∧
      (Run.run (step wide) (start [(0x100000, 0x3000)]) blocks).outstanding.Pairwise
        List.Disjoint := by
  have hregions : ∀ region ∈ [((0x100000 : UInt64), (0x3000 : UInt64))],
      region.1.toNat + region.2.toNat ≤ 2 ^ 63 := by
    intro region hr
    obtain rfl := mem_singleton.mp hr
    show 1048576 + 12288 ≤ 2 ^ 63
    omega
  have hf : ((start [(0x100000, 0x3000)]).allocator.allocateFrames wide 2).isOk = true := by
    decide +kernel
  have hs : (((start [(0x100000, 0x3000)]).step wide
      (.AllocateFrames 2)).allocator.allocateFrame wide).isOk = true := by
    decide +kernel
  have hsnd := allocator_sound wide_lawful _ hregions blocks ⟨exists_ok hf, exists_ok hs, trivial⟩
  exact ⟨by decide +kernel, hsnd.2.2.1⟩

-- No frames at all are never handed out, although the empty run is free.
theorem allocation_fails_with_room :
    (addRegions [(0x100000, 0x1000)]).IsRun 0 0 ∧
      ∃ after, (addRegions [(0x100000, 0x1000)]).allocateFrames wide 0 = .ok (after, none) := by
  refine ⟨?_, _, if_pos (Or.inl rfl)⟩
  intro k hk
  omega

end ZeroOS.FrameAllocator
